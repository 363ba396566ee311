import Covenant.Proofs.Settings.Sections
import Covenant.Proofs.Value.Entries

namespace Covenant

namespace Mapping

def distinct : Mapping → Bool
  | [] => true
  | (key, _) :: rest => rest.all (fun entry => !key.same entry.1) && distinct rest

variable {base upper m : Mapping} {key wanted value v : Value}

/-! ## One key -/

theorem comparison : Entries.Comparison Value.same := ⟨Value.same_refl, Value.same_symm, Value.same_trans⟩

theorem put_eq (m : Mapping) (key value : Value) : m.put key value = Entries.put Value.same key value m := by
  induction m with
  | nil => rfl
  | cons entry rest ih => rw [put, Entries.put, ih]

theorem distinct_iff : m.distinct = true ↔ Entries.Distinct Value.same m := by
  induction m with
  | nil => exact ⟨fun _ => .nil, fun _ => rfl⟩
  | cons entry rest ih => simp [distinct, Entries.Distinct, ih]

theorem find?_congr (same : key.same wanted = true) (m : Mapping) : m.find? key = m.find? wanted := by
  simp only [find?, comparison.congr same]

theorem find?_put (m : Mapping) (key value wanted : Value) :
    (m.put key value).find? wanted = if key.same wanted then some value else m.find? wanted := by
  rw [put_eq]
  exact Entries.look_put comparison m key value wanted

theorem put_of_find? (found : m.find? key = some value) : m.put key value = m := by
  rw [put_eq]
  exact Entries.put_of_look found

theorem keys_put (m : Mapping) (key value : Value) :
    (m.put key value).map (·.1) = m.map (·.1) ++ (if (m.find? key).isNone then [key] else []) := by
  induction m with
  | nil => rfl
  | cons entry rest ih =>
    obtain ⟨k, old⟩ := entry
    rw [put, find?_cons]
    by_cases here : k.same key = true
    · simp [here]
    · simp [here, ih]

theorem distinct_put (differ : m.distinct = true) (key value : Value) : distinct (m.put key value) = true := by
  rw [distinct_iff] at differ ⊢
  rw [put_eq]
  exact Entries.distinct_put differ key value

theorem find?_of_mem (differ : m.distinct = true) {entry : Value × Value} (member : entry ∈ m) :
    m.find? entry.1 = some entry.2 :=
  Entries.look_of_mem comparison (distinct_iff.mp differ) member

theorem find?_none_of_distinct {rest : Mapping} (differ : distinct ((key, value) :: rest) = true)
    (same : key.same wanted = true) : rest.find? wanted = none :=
  Entries.look_eq_none comparison (distinct_iff.mp differ) same

/-! ## Merging key by key -/

theorem find?_merge (base : Mapping) (differ : upper.distinct = true) (wanted : Value) :
    (base.merge upper).find? wanted =
      match upper.find? wanted with
      | none => base.find? wanted
      | some v => some (mergeValue v (base.find? wanted)) := by
  induction upper generalizing base with
  | nil => rw [merge]; rfl
  | cons entry rest ih =>
    obtain ⟨key, value⟩ := entry
    have later : distinct rest = true := by
      rw [distinct, Bool.and_eq_true] at differ
      exact differ.2
    rw [merge, ih _ later, find?_put, find?_cons]
    by_cases here : key.same wanted = true
    · rw [find?_none_of_distinct differ here, if_pos here, if_pos here, find?_congr here base]
    · rw [if_neg here, if_neg here]

theorem keys_merge (base : Mapping) (differ : upper.distinct = true) :
    (base.merge upper).map (·.1) =
      base.map (·.1) ++ (upper.map (·.1)).filter fun key => (base.find? key).isNone := by
  induction upper generalizing base with
  | nil => rw [merge]; simp
  | cons entry rest ih =>
    obtain ⟨key, value⟩ := entry
    have parts := differ
    rw [distinct, Bool.and_eq_true, List.all_eq_true] at parts
    have others (new : Value) : (rest.map (·.1)).filter (fun k => ((base.put key new).find? k).isNone) =
        (rest.map (·.1)).filter fun k => (base.find? k).isNone := by
      refine List.filter_congr fun k member => ?_
      obtain ⟨e, present, rfl⟩ := List.mem_map.mp member
      have other := parts.1 e present
      rw [Bool.not_eq_true'] at other
      rw [find?_put, other]
      rfl
    rw [merge, ih _ parts.2, keys_put, others, List.append_assoc, List.map_cons, List.filter_cons]
    cases base.find? key <;> rfl

theorem merge_eq_self
    (held : ∀ entry ∈ upper, ∃ v, m.find? entry.1 = some v ∧ mergeValue entry.2 (some v) = v) : m.merge upper = m := by
  induction upper with
  | nil => rw [merge]
  | cons entry rest ih =>
    obtain ⟨key, value⟩ := entry
    obtain ⟨v, found, kept⟩ := held (key, value) List.mem_cons_self
    rw [merge, found, kept, put_of_find? found]
    exact ih fun entry member => held entry (List.mem_cons_of_mem _ member)

end Mapping

/-! ## Paths of keys -/

namespace Value

def at? : Value → List Value → Option Value
  | v, [] => some v
  | map entries, key :: path => (Mapping.find? entries key).bind (at? · path)
  | _, _ :: _ => none

def isMap : Value → Bool
  | map _ => true
  | _ => false

mutual
def throughout (p : Mapping → Bool) : Value → Bool
  | map entries => p entries && throughoutAll p entries
  | _ => true
def throughoutAll (p : Mapping → Bool) : List (Value × Value) → Bool
  | [] => true
  | (_, value) :: rest => throughout p value && throughoutAll p rest
end

open Mapping

variable {p : Mapping → Bool} {entries : Mapping} {v w : Value} {x : Option Value}

theorem throughoutAll_iff {entries : List (Value × Value)} :
    throughoutAll p entries = true ↔ ∀ entry ∈ entries, entry.2.throughout p = true := by
  induction entries with
  | nil => simp [throughoutAll]
  | cons entry rest ih => rw [throughoutAll, Bool.and_eq_true, ih, List.forall_mem_cons]

theorem throughout_map : (map entries).throughout p = true ↔
    p entries = true ∧ ∀ entry ∈ entries, entry.2.throughout p = true := by
  rw [throughout, Bool.and_eq_true, throughoutAll_iff]

theorem throughout_of_find? (h : (map entries).throughout p = true) {key : Value}
    (found : Mapping.find? entries key = some v) : v.throughout p = true := by
  obtain ⟨entry, present, rfl⟩ := Option.map_eq_some_iff.mp found
  exact (throughout_map.mp h).2 entry (List.mem_of_find?_eq_some present)

theorem throughout_ofList {entries : List (Value × Value)}
    (each : ∀ entry ∈ entries, entry.2.throughout distinct = true) :
    (map (ofList entries)).throughout distinct = true := by
  rw [throughout_map, ofList]
  refine List.foldlRecOn (motive := fun m : Mapping => m.distinct = true ∧ ∀ e ∈ m, e.2.throughout distinct = true)
    entries _ ⟨rfl, nofun⟩ fun m done entry member => ⟨distinct_put done.1 _ _, fun e there => ?_⟩
  rw [put_eq] at there
  rcases Entries.mem_put there with held | ⟨same, -⟩
  · exact done.2 e held
  · rw [same]
    exact each entry member

theorem exists_map_of_at? {key : Value} {path : List Value} (h : v.at? (key :: path) = some w) :
    ∃ entries u, v = map entries ∧ Mapping.find? entries key = some u ∧ u.at? path = some w := by
  cases v with
  | map entries =>
    obtain ⟨u, found, further⟩ := Option.bind_eq_some_iff.mp h
    exact ⟨entries, u, rfl, found, further⟩
  | _ => cases h

theorem mergeValue_cases (v : Value) (x : Option Value) :
    (∃ upper base, v = map upper ∧ x = some (map base) ∧ mergeValue v x = map (merge base upper)) ∨
      (v.isMap = false ∨ ∀ base, x ≠ some (map base)) ∧ mergeValue v x = v := by
  unfold mergeValue
  split
  · exact .inl ⟨_, _, rfl, rfl, rfl⟩
  · rename_i other
    refine .inr ⟨?_, rfl⟩
    cases v with
    | map upper => exact .inr fun base found => other upper base rfl found
    | _ => exact .inl rfl

/-- The upper value holds something at the path that takes the place of what is there. -/
def Replaces (v : Value) (x : Option Value) (path : List Value) : Prop :=
  ∃ w, v.at? path = some w ∧ (w.isMap = false ∨ ∀ base, x.bind (at? · path) ≠ some (map base))

variable {path : List Value}

theorem at?_map_merge {base upper : Mapping} (ordered : (map upper).throughout distinct = true) (key : Value)
    (path : List Value) :
    (map (base.merge upper)).at? (key :: path) =
      match upper.find? key with
      | none => (map base).at? (key :: path)
      | some v => (mergeValue v (base.find? key)).at? path := by
  rw [at?, find?_merge base (throughout_map.mp ordered).1]
  cases upper.find? key <;> rfl

theorem at?_mergeValue_leaf (ordered : v.throughout distinct = true) (held : v.at? path = some w)
    (leaf : w.isMap = false) : (mergeValue v x).at? path = some w := by
  induction path generalizing v x with
  | nil =>
    cases held
    rcases mergeValue_cases w x with ⟨_, _, rfl, -, -⟩ | ⟨-, kept⟩
    · cases leaf
    · rw [kept, at?]
  | cons key path ih =>
    obtain ⟨upper, u, rfl, found, further⟩ := exists_map_of_at? held
    rcases mergeValue_cases (map upper) x with ⟨_, base, ⟨⟩, rfl, merged⟩ | ⟨-, kept⟩
    · rw [merged, at?_map_merge ordered, found]
      exact ih (throughout_of_find? ordered found) further
    · rw [kept, held]

theorem at?_mergeValue_new (ordered : v.throughout distinct = true) {m : Mapping} (held : v.at? path = some (map m))
    (new : ∀ base, x.bind (at? · path) ≠ some (map base)) : (mergeValue v x).at? path = some (map m) := by
  induction path generalizing v x with
  | nil =>
    cases held
    rcases mergeValue_cases (map m) x with ⟨_, base, -, rfl, -⟩ | ⟨-, kept⟩
    · exact absurd rfl (new base)
    · rw [kept, at?]
  | cons key path ih =>
    obtain ⟨upper, u, rfl, found, further⟩ := exists_map_of_at? held
    rcases mergeValue_cases (map upper) x with ⟨_, base, ⟨⟩, rfl, merged⟩ | ⟨-, kept⟩
    · rw [merged, at?_map_merge ordered, found]
      exact ih (throughout_of_find? ordered found) further new
    · rw [kept, held]

theorem at?_mergeValue_both (ordered : v.throughout distinct = true) {m base : Mapping}
    (held : v.at? path = some (map m)) (below : x.bind (at? · path) = some (map base)) :
    (mergeValue v x).at? path = some (map (base.merge m)) ∧ m.distinct = true := by
  induction path generalizing v x with
  | nil =>
    cases held
    obtain ⟨y, rfl, lower⟩ := Option.bind_eq_some_iff.mp below
    cases lower
    exact ⟨rfl, (throughout_map.mp ordered).1⟩
  | cons key path ih =>
    obtain ⟨upper, u, rfl, found, further⟩ := exists_map_of_at? held
    obtain ⟨y, rfl, lower⟩ := Option.bind_eq_some_iff.mp below
    obtain ⟨entries, z, rfl, present, -⟩ := exists_map_of_at? lower
    rw [mergeValue, at?_map_merge ordered, found]
    exact ih (throughout_of_find? ordered found) further lower

theorem at?_mergeValue_untouched (ordered : v.throughout distinct = true) (absent : v.at? path = none)
    (kept : ∀ q, q <+: path → q ≠ path → ¬ v.Replaces x q) : (mergeValue v x).at? path = x.bind (at? · path) := by
  induction path generalizing v x with
  | nil => cases absent
  | cons key path ih =>
    -- at the empty path nothing is replaced, so that both are mappings
    have start := kept [] List.nil_prefix (List.cons_ne_nil key path).symm
    rcases mergeValue_cases v x with ⟨upper, base, rfl, rfl, merged⟩ | ⟨replaced, -⟩
    · rw [merged, at?_map_merge ordered]
      cases found : find? upper key with
      | none => rfl
      | some u =>
        have further : u.at? path = none := by
          rw [at?, found] at absent
          exact absent
        refine ih (throughout_of_find? ordered found) further fun q before proper replaced => ?_
        obtain ⟨w, held, other⟩ := replaced
        refine kept (key :: q) (List.cons_prefix_cons.mpr ⟨rfl, before⟩) (fun same => proper (List.cons.inj same).2) ?_
        exact ⟨w, by rw [at?, found]; exact held, other⟩
    · exact absurd ⟨v, rfl, replaced.imp_right fun other base => by simpa [at?] using other base⟩ start

theorem mergeValue_again (ordered : v.throughout distinct = true) (x : Option Value) :
    mergeValue v (some (mergeValue v x)) = mergeValue v x := by
  induction v using induction_on_parts generalizing x with
  | step v ih =>
    cases v with
    | map upper =>
      obtain ⟨differ, ordered⟩ := throughout_map.mp ordered
      have held (entry : Value × Value) (member : entry ∈ upper) : find? upper entry.1 = some entry.2 :=
        find?_of_mem differ member
      have again (entry : Value × Value) (member : entry ∈ upper) (y : Option Value) :
          mergeValue entry.2 (some (mergeValue entry.2 y)) = mergeValue entry.2 y :=
        ih entry.2 (.value member) (ordered entry member) y
      rcases mergeValue_cases (map upper) x with ⟨_, base, ⟨⟩, -, merged⟩ | ⟨-, kept⟩
      · rw [merged, mergeValue, merge_eq_self fun entry member => ?_]
        refine ⟨mergeValue entry.2 (find? base entry.1), ?_, again entry member _⟩
        rw [find?_merge base differ, held entry member]
      · rw [kept, mergeValue, merge_eq_self fun entry member => ?_]
        have alone : mergeValue entry.2 none = entry.2 := by
          rcases mergeValue_cases entry.2 none with ⟨_, _, -, ⟨⟩, -⟩ | ⟨-, kept⟩
          exact kept
        have same := again entry member none
        rw [alone] at same
        exact ⟨entry.2, held entry member, same⟩
    | _ => rfl

end Value

end Covenant
