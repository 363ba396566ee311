import Mathlib.Data.List.Basic

namespace Covenant.Entries

variable {κ α : Type} {same : κ → κ → Bool} {rows : List (κ × α)} {key wanted : κ} {value : α} {row : κ × α}

structure Comparison (same : κ → κ → Bool) : Prop where
  refl : ∀ a : κ, same a a = true
  symm : ∀ {a b : κ}, same a b = true → same b a = true
  trans : ∀ {a b c : κ}, same a b = true → same b c = true → same a c = true

theorem Comparison.congr (c : Comparison same) {a b : κ} (h : same a b = true) (k : κ) : same k a = same k b := by
  rw [Bool.eq_iff_iff]
  exact ⟨fun first => c.trans first h, fun first => c.trans first (c.symm h)⟩

def look (same : κ → κ → Bool) (rows : List (κ × α)) (key : κ) : Option α :=
  (rows.find? fun row => same row.1 key).map (·.2)

def put (same : κ → κ → Bool) (key : κ) (value : α) : List (κ × α) → List (κ × α)
  | [] => [(key, value)]
  | (k, v) :: rest => if same k key then (k, value) :: rest else (k, v) :: put same key value rest

theorem look_cons (row : κ × α) (rest : List (κ × α)) (key : κ) :
    look same (row :: rest) key = if same row.1 key then some row.2 else look same rest key := by
  unfold look
  by_cases here : same row.1 key = true <;> simp [here]

theorem mem_of_look (h : look same rows key = some value) :
    ∃ row ∈ rows, same row.1 key = true ∧ row.2 = value := by
  obtain ⟨row, found, rfl⟩ := Option.map_eq_some_iff.mp h
  have alike := List.find?_some found
  exact ⟨row, List.mem_of_find?_eq_some found, alike, rfl⟩

theorem look_put (c : Comparison same) (rows : List (κ × α)) (key : κ) (value : α) (wanted : κ) :
    look same (put same key value rows) wanted = if same key wanted then some value else look same rows wanted := by
  induction rows with
  | nil => rw [put, look_cons]
  | cons row rest ih =>
    obtain ⟨k, old⟩ := row
    rw [put, look_cons]
    by_cases here : same k key = true
    · have alike : same k wanted = same key wanted := by
        rw [Bool.eq_iff_iff]
        exact ⟨c.trans (c.symm here), c.trans here⟩
      rw [if_pos here, look_cons, alike]
      split <;> rfl
    · rw [if_neg here, look_cons, ih]
      by_cases found : same key wanted = true
      · have other : ¬ same k wanted = true := fun again => here (c.trans again (c.symm found))
        simp [found, other]
      · simp [found]

theorem put_of_look (h : look same rows key = some value) : put same key value rows = rows := by
  induction rows with
  | nil => cases h
  | cons row rest ih =>
    rw [look_cons] at h
    rw [put]
    split at h
    · rename_i here
      rw [if_pos here, ← Option.some.inj h]
    · rename_i other
      rw [if_neg other, ih h]

theorem mem_put (h : row ∈ put same key value rows) :
    row ∈ rows ∨ row.2 = value ∧ (row.1 = key ∨ same row.1 key = true ∧ ∃ old, (row.1, old) ∈ rows) := by
  induction rows with
  | nil =>
    obtain rfl := List.mem_singleton.mp h
    exact .inr ⟨rfl, .inl rfl⟩
  | cons first rest ih =>
    rw [put] at h
    split at h
    · rename_i here
      rcases List.mem_cons.mp h with rfl | later
      · exact .inr ⟨rfl, .inr ⟨here, first.2, List.mem_cons_self⟩⟩
      · exact .inl (List.mem_cons_of_mem _ later)
    · rcases List.mem_cons.mp h with rfl | later
      · exact .inl List.mem_cons_self
      · refine (ih later).imp (List.mem_cons_of_mem _) (.imp_right (.imp_right (.imp_right ?_)))
        exact fun ⟨old, there⟩ => ⟨old, List.mem_cons_of_mem _ there⟩

theorem pairwise_put {R : α → α → Prop} (h : rows.Pairwise fun row other => R row.2 other.2)
    (before : ∀ v, R v value) (after : ∀ v, R value v) (key : κ) :
    (put same key value rows).Pairwise fun row other => R row.2 other.2 := by
  induction rows with
  | nil => exact List.pairwise_singleton _ _
  | cons row rest ih =>
    obtain ⟨first, rest⟩ := List.pairwise_cons.mp h
    rw [put]
    split
    · exact List.pairwise_cons.mpr ⟨fun other _ => after other.2, rest⟩
    · refine List.pairwise_cons.mpr ⟨fun other member => ?_, ih rest⟩
      rcases mem_put member with there | ⟨same, -⟩
      · exact first other there
      · exact same ▸ before row.2

def Distinct (same : κ → κ → Bool) (rows : List (κ × α)) : Prop :=
  rows.Pairwise fun row other => ¬ same row.1 other.1 = true

theorem distinct_put (differ : Distinct same rows) (key : κ) (value : α) :
    Distinct same (put same key value rows) := by
  induction rows with
  | nil => exact List.pairwise_singleton _ _
  | cons row rest ih =>
    obtain ⟨apart, later⟩ := List.pairwise_cons.mp differ
    rw [put]
    split
    · exact List.pairwise_cons.mpr ⟨apart, later⟩
    · rename_i other
      refine List.pairwise_cons.mpr ⟨fun entry member again => ?_, ih later⟩
      rcases mem_put member with there | ⟨-, same | ⟨-, old, there⟩⟩
      · exact apart entry there again
      · exact other (same ▸ again)
      · exact apart (entry.1, old) there again

theorem look_of_mem (c : Comparison same) (differ : Distinct same rows) (member : row ∈ rows) :
    look same rows row.1 = some row.2 := by
  induction rows with
  | nil => cases member
  | cons first rest ih =>
    obtain ⟨apart, later⟩ := List.pairwise_cons.mp differ
    rw [look_cons]
    rcases List.mem_cons.mp member with rfl | there
    · rw [if_pos (c.refl row.1)]
    · rw [if_neg (apart row there), ih later there]

theorem look_eq_none (c : Comparison same) (differ : Distinct same ((key, value) :: rows))
    (alike : same key wanted = true) : look same rows wanted = none := by
  obtain ⟨apart, -⟩ := List.pairwise_cons.mp differ
  rw [look, Option.map_eq_none_iff, List.find?_eq_none]
  exact fun row member again => apart row member (c.trans alike (c.symm again))

end Covenant.Entries
