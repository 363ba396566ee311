import Mathlib.Data.List.Basic
import Covenant.CommandLine.Run
import Covenant.Proofs.Value.Sameness

namespace Covenant

namespace Value

theorem atom?_eq_text {v : Value} {s : String} (h : v.atom? = some (.text s)) : v = .str s := by
  cases v with
  | str t =>
    cases h
    rfl
  | float x =>
    rw [atom?] at h
    split at h
    · cases h
    · cases h
    · obtain ⟨r, -, made⟩ := Option.map_eq_some_iff.mp h
      cases made
  | foreign kind plain inner =>
    cases kind with
    | fraction =>
      rw [atom?] at h
      cases made : fraction? plain <;> rw [made] at h <;> cases h
    | _ => cases h
  | _ => cases h

theorem eq_of_same_str {v : Value} {s : String} (h : v.same (.str s) = true) : v = .str s := by
  obtain ⟨a, left, right⟩ : ∃ a, v.atom? = some a ∧ (str s).atom? = some a := by
    unfold same at h
    split at h <;> first | exact sameLeaf_iff.mp h | contradiction
  cases right
  exact atom?_eq_text left

theorem eq_of_str_same {v : Value} {s : String} (h : (Value.str s).same v = true) : v = .str s :=
  eq_of_same_str (same_symm h)

end Value

namespace Mapping

def without (entries : Mapping) (name : String) : Mapping := entries.filter fun entry => !entry.1.same (.str name)

theorem without_cons_self {key value : Value} {name : String} (named : key.same (.str name) = true) (rest : Mapping) :
    without ((key, value) :: rest) name = rest.without name := by
  simp [without, named]

theorem without_cons_other {key value : Value} {name : String} (other : ¬ key.same (.str name) = true)
    (rest : Mapping) :
    without ((key, value) :: rest) name = (key, value) :: rest.without name := by
  simp [without, other]

theorem find?_cons (key value : Value) (rest : Mapping) (wanted : Value) :
    find? ((key, value) :: rest) wanted = if key.same wanted then some value else rest.find? wanted := by
  unfold find?
  by_cases here : key.same wanted = true <;> simp [here]

theorem not_same_of_named {key wanted : Value} {name : String} (named : key.same (.str name) = true)
    (other : ¬ wanted.same (.str name) = true) : ¬ key.same wanted = true := by
  rintro same
  rw [Value.eq_of_same_str named] at same
  rw [Value.eq_of_str_same same] at other
  exact other (Value.same_refl (.str name))

theorem find?_without (entries : Mapping) {name : String} {wanted : Value} (other : ¬ wanted.same (.str name) = true) :
    (entries.without name).find? wanted = entries.find? wanted := by
  induction entries with
  | nil => rfl
  | cons entry rest ih =>
    obtain ⟨key, value⟩ := entry
    by_cases named : key.same (.str name) = true
    · rw [without_cons_self named, ih, find?_cons, if_neg (not_same_of_named named other)]
    · rw [without_cons_other named, find?_cons, find?_cons, ih]

theorem put_without (entries : Mapping) {name : String} {wanted : Value} (other : ¬ wanted.same (.str name) = true)
    (value : Value) : (entries.put wanted value).without name = (entries.without name).put wanted value := by
  induction entries with
  | nil => rw [put, without_cons_other other]; rfl
  | cons entry rest ih =>
    obtain ⟨key, old⟩ := entry
    by_cases named : key.same (.str name) = true
    · rw [put, if_neg (not_same_of_named named other), without_cons_self named, without_cons_self named, ih]
    · rw [without_cons_other named, put, put]
      split
      · rw [without_cons_other named]
      · rw [without_cons_other named, ih]

theorem put_named_without (entries : Mapping) (name : String) (value : Value) :
    (entries.put (.str name) value).without name = entries.without name := by
  induction entries with
  | nil => rw [put, without_cons_self (Value.same_refl (.str name))]
  | cons entry rest ih =>
    obtain ⟨key, old⟩ := entry
    rw [put]
    split
    · rename_i named
      rw [without_cons_self named, without_cons_self named]
    · rename_i other
      rw [without_cons_other other, without_cons_other other, ih]

theorem merge_without (base upper : Mapping) (name : String) :
    (base.merge upper).without name = (base.without name).merge (upper.without name) := by
  induction upper generalizing base with
  | nil => rw [merge]; rfl
  | cons entry rest ih =>
    obtain ⟨key, value⟩ := entry
    rw [merge, ih]
    by_cases named : key.same (.str name) = true
    · rw [without_cons_self named, Value.eq_of_same_str named, put_named_without]
    · rw [without_cons_other named, merge, put_without _ named, find?_without _ named]

theorem get?_without (entries : Mapping) {name key : String} (other : key ≠ name) :
    (entries.without name).get? key = entries.get? key := by
  refine find?_without entries fun same => other ?_
  simpa using Value.eq_of_same_str same

end Mapping

def Settings.AgreeOff (name : String) (m m' : Mapping) : Prop := m.without name = m'.without name

namespace Settings.AgreeOff

variable {name : String} {m m' : Mapping}

theorem get? (h : AgreeOff name m m') {key : String} (other : key ≠ name) : m.get? key = m'.get? key := by
  rw [← Mapping.get?_without m other, ← Mapping.get?_without m' other, h]

theorem get (h : AgreeOff name m m') {key : String} (other : key ≠ name) : m.get key = m'.get key := by
  rw [Mapping.get, Mapping.get, h.get? other]

theorem merge (h : AgreeOff name m m') (base : Mapping) : AgreeOff name (base.merge m) (base.merge m') := by
  rw [AgreeOff, Mapping.merge_without, Mapping.merge_without, h]

end Settings.AgreeOff

end Covenant
