import Mathlib.Data.List.Nodup

namespace Covenant

variable {ε ε' α β : Type}

theorem bind_eq_ok {x : Except ε α} {f : α → Except ε β} {b : β} :
    x >>= f = .ok b ↔ ∃ a, x = .ok a ∧ f a = .ok b := by
  cases x <;> simp [bind, Except.bind]

theorem bind_eq_error {x : Except ε α} {f : α → Except ε β} {err : ε} :
    x >>= f = .error err ↔ x = .error err ∨ ∃ a, x = .ok a ∧ f a = .error err := by
  cases x <;> simp [bind, Except.bind]

@[simp] theorem ok_bind (a : α) (f : α → Except ε β) : (Except.ok a >>= f) = f a := rfl

@[simp] theorem pure_eq_ok {a b : α} : (pure a : Except ε α) = .ok b ↔ a = b := by
  simp [pure, Except.pure]

theorem exists_of_isOk {ε α : Type _} {r : Except ε α} (h : r.isOk = true) : ∃ a, r = .ok a := by
  cases r with
  | ok a => exact ⟨a, rfl⟩
  | error e => cases h

theorem toOption_eq_some {x : Except ε α} {a : α} : x.toOption = some a ↔ x = .ok a := by
  cases x <;> simp [Except.toOption]

theorem mapError_eq_ok {x : Except ε α} {f : ε → ε'} {a : α} : x.mapError f = .ok a ↔ x = .ok a := by
  cases x <;> simp [Except.mapError]

theorem mapError_eq_error {x : Except ε α} {f : ε → ε'} {err : ε'} :
    x.mapError f = .error err ↔ ∃ e, x = .error e ∧ f e = err := by
  cases x <;> simp [Except.mapError]

theorem foldlM_keeps {P : β → Prop} {f : β → α → Except ε β} (step : ∀ b a next, P b → f b a = .ok next → P next)
    {xs : List α} {first last : β} (start : P first) (h : xs.foldlM f first = .ok last) : P last := by
  induction xs generalizing first with
  | nil =>
    cases h
    exact start
  | cons a rest ih =>
    rw [List.foldlM_cons] at h
    obtain ⟨next, here, others⟩ := bind_eq_ok.mp h
    exact ih (step first a next start here) others

theorem lookup_cons_eq {κ : Type} [DecidableEq κ] [BEq κ] [LawfulBEq κ] (key : κ) (v : α) (rest : List (κ × α))
    (name : κ) :
    List.lookup name ((key, v) :: rest) = if name = key then some v else rest.lookup name := by
  rw [List.lookup_cons]
  by_cases same : name = key
  · simp [same]
  · simp [same, beq_eq_false_iff_ne.mpr same]

theorem lookup_eq_none_of_not_mem {entries : List (String × α)} {name : String}
    (h : name ∉ entries.map (·.1)) : entries.lookup name = none := by
  rw [List.lookup_eq_none_iff]
  intro entry member
  have differs : name ≠ entry.1 := by
    rintro rfl
    exact h (List.mem_map_of_mem member)
  simpa using differs

theorem lookup_eq_none_iff_not_mem {entries : List (String × α)} {name : String} :
    entries.lookup name = none ↔ name ∉ entries.map (·.1) := by
  refine ⟨fun absent member => ?_, lookup_eq_none_of_not_mem⟩
  obtain ⟨entry, found, rfl⟩ := List.mem_map.mp member
  simpa using List.lookup_eq_none_iff.mp absent entry found

theorem lookup_of_mem {entries : List (String × α)} (distinct : (entries.map (·.1)).Nodup) {name : String}
    {v : α} (member : (name, v) ∈ entries) : entries.lookup name = some v := by
  induction entries with
  | nil => cases member
  | cons entry rest ih =>
    obtain ⟨key, w⟩ := entry
    obtain ⟨fresh, distinct⟩ := List.nodup_cons.mp distinct
    rw [lookup_cons_eq]
    rcases List.mem_cons.mp member with same | later
    · cases same
      rw [if_pos rfl]
    · have differs : name ≠ key := by
        rintro rfl
        exact fresh (List.mem_map.mpr ⟨_, later, rfl⟩)
      rw [if_neg differs, ih distinct later]

theorem mem_of_lookup {entries : List (String × α)} {name : String} {v : α} (h : entries.lookup name = some v) :
    (name, v) ∈ entries := by
  obtain ⟨front, back, rfl, -⟩ := List.lookup_eq_some_iff.mp h
  simp

theorem lookup_reverse {entries : List (String × α)} (h : (entries.map (·.1)).Nodup) (name : String) :
    entries.reverse.lookup name = entries.lookup name := by
  induction entries with
  | nil => rfl
  | cons entry rest ih =>
    obtain ⟨key, v⟩ := entry
    rw [List.map_cons, List.nodup_cons] at h
    rw [List.reverse_cons, List.lookup_append, ih h.2, lookup_cons_eq, lookup_cons_eq]
    by_cases same : name = key
    · subst same
      simp [lookup_eq_none_of_not_mem h.1]
    · simp [same]

end Covenant
