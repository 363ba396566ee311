import Mathlib.Data.List.Forall2
import Covenant.Value.Basic

namespace Covenant.Value

/-! ## Parts -/

def members? : Value → Option (List Value)
  | set xs => some xs
  | frozenSet xs => some xs
  | _ => none

inductive IsPart : Value → Value → Prop
  | ofList {x : Value} {xs : List Value} (member : x ∈ xs) : IsPart x (list xs)
  | ofTuple {x : Value} {xs : List Value} (member : x ∈ xs) : IsPart x (tuple xs)
  | ofSet {x v : Value} {xs : List Value} (set : v.members? = some xs) (member : x ∈ xs) : IsPart x v
  | key {e : Value × Value} {es : List (Value × Value)} (member : e ∈ es) : IsPart e.1 (map es)
  | value {e : Value × Value} {es : List (Value × Value)} (member : e ∈ es) : IsPart e.2 (map es)

inductive Alike : Value → Value → Prop
  | leaf {v w : Value} {a : Atom} (left : v.atom? = some a) (right : w.atom? = some a) : Alike v w
  | list {xs ys : List Value} (items : List.Forall₂ (fun x y => x.same y = true) xs ys) : Alike (list xs) (list ys)
  | tuple {xs ys : List Value} (items : List.Forall₂ (fun x y => x.same y = true) xs ys) : Alike (tuple xs) (tuple ys)
  | sets {v w : Value} {xs ys : List Value} (left : v.members? = some xs) (right : w.members? = some ys)
      (into : ∀ x ∈ xs, ∃ y ∈ ys, x.same y = true) (onto : ∀ y ∈ ys, ∃ x ∈ xs, x.same y = true) : Alike v w
  | map {es fs : List (Value × Value)} (into : ∀ e ∈ es, ∃ f ∈ fs, e.1.same f.1 = true ∧ e.2.same f.2 = true)
      (onto : ∀ f ∈ fs, ∃ e ∈ es, e.1.same f.1 = true ∧ e.2.same f.2 = true) : Alike (map es) (map fs)

variable {u v w x : Value} {xs ys zs : List Value}

theorem IsPart.sizeOf_lt (h : IsPart x v) : sizeOf x < sizeOf v := by
  cases h with
  | ofList member =>
    have smaller := List.sizeOf_lt_of_mem member
    simp only [list.sizeOf_spec]
    omega
  | ofTuple member =>
    have smaller := List.sizeOf_lt_of_mem member
    simp only [tuple.sizeOf_spec]
    omega
  | ofSet set member =>
    have smaller := List.sizeOf_lt_of_mem member
    cases v <;> cases set <;> simp <;> omega
  | @key e es member =>
    have smaller := List.sizeOf_lt_of_mem member
    obtain ⟨k, v⟩ := e
    simp at smaller ⊢
    omega
  | @value e es member =>
    have smaller := List.sizeOf_lt_of_mem member
    obtain ⟨k, v⟩ := e
    simp at smaller ⊢
    omega

theorem induction_on_parts {P : Value → Prop} (step : ∀ v, (∀ x, IsPart x v → P x) → P v) (v : Value) : P v := by
  induction size : sizeOf v using Nat.strongRecOn generalizing v with
  | ind n ih =>
    subst size
    exact step v fun x part => ih (sizeOf x) part.sizeOf_lt x rfl

/-! ## Equality part by part -/

theorem sameAll_iff : sameAll xs ys = true ↔ List.Forall₂ (fun x y => x.same y = true) xs ys := by
  induction xs generalizing ys with
  | nil => cases ys <;> simp [sameAll]
  | cons x xs ih => cases ys <;> simp [sameAll, ih]

theorem isIn_iff : isIn xs v = true ↔ ∃ x ∈ xs, x.same v = true := by
  induction xs with
  | nil => simp [isIn]
  | cons x xs ih => simp [isIn, ih]

theorem allIn_iff : allIn xs ys = true ↔ ∀ x ∈ xs, ∃ y ∈ ys, x.same y = true := by
  induction xs with
  | nil => simp [allIn]
  | cons x xs ih => simp [allIn, ih]

theorem isEntry_iff {es : List (Value × Value)} {f : Value × Value} :
    isEntry es f = true ↔ ∃ e ∈ es, e.1.same f.1 = true ∧ e.2.same f.2 = true := by
  induction es with
  | nil => simp [isEntry]
  | cons e es ih => rw [isEntry, Bool.or_eq_true, Bool.and_eq_true, ih, List.exists_mem_cons_iff]

theorem entriesIn_iff {es fs : List (Value × Value)} :
    entriesIn es fs = true ↔ ∀ e ∈ es, ∃ f ∈ fs, e.1.same f.1 = true ∧ e.2.same f.2 = true := by
  induction es with
  | nil => simp [entriesIn]
  | cons e es ih => rw [entriesIn, Bool.and_eq_true, ih, List.forall_mem_cons, List.any_eq_true]; simp

theorem sameLeaf_iff : sameLeaf v w = true ↔ ∃ a, v.atom? = some a ∧ w.atom? = some a := by
  rw [sameLeaf]
  cases v.atom? with
  | none => simp
  | some a =>
    cases w.atom? with
    | none => simp
    | some b => simp [eq_comm (a := b)]

theorem sameMembers_iff : (allIn xs ys && ys.all (isIn xs)) = true ↔
    (∀ x ∈ xs, ∃ y ∈ ys, x.same y = true) ∧ ∀ y ∈ ys, ∃ x ∈ xs, x.same y = true := by
  simp only [Bool.and_eq_true, allIn_iff, List.all_eq_true, isIn_iff]

theorem same_iff : v.same w = true ↔ Alike v w := by
  constructor
  · intro h
    unfold same at h
    split at h
    · exact .list (sameAll_iff.mp h)
    · exact .tuple (sameAll_iff.mp h)
    · exact .sets rfl rfl (sameMembers_iff.mp h).1 (sameMembers_iff.mp h).2
    · exact .sets rfl rfl (sameMembers_iff.mp h).1 (sameMembers_iff.mp h).2
    · exact .sets rfl rfl (sameMembers_iff.mp h).1 (sameMembers_iff.mp h).2
    · exact .sets rfl rfl (sameMembers_iff.mp h).1 (sameMembers_iff.mp h).2
    · simp only [Bool.and_eq_true, entriesIn_iff, List.all_eq_true, isEntry_iff] at h
      exact .map h.1 h.2
    · obtain ⟨a, left, right⟩ := sameLeaf_iff.mp h
      exact .leaf left right
  · intro h
    cases h with
    | leaf left right =>
      have leaf := sameLeaf_iff.mpr ⟨_, left, right⟩
      unfold same
      split <;> first | exact leaf | cases left
    | list items => rw [same]; exact sameAll_iff.mpr items
    | tuple items => rw [same]; exact sameAll_iff.mpr items
    | sets left right into onto =>
      have both := sameMembers_iff.mpr ⟨into, onto⟩
      cases v <;> cases left <;> cases w <;> cases right <;> rw [same] <;> exact both
    | map into onto =>
      rw [same, Bool.and_eq_true, entriesIn_iff, List.all_eq_true]
      exact ⟨into, fun f member => isEntry_iff.mpr (onto f member)⟩

theorem same_str (s t : String) : (str s).same (str t) = (s == t) := by simp [same, sameLeaf, atom?]

/-! ## An equivalence -/

theorem exists_atom_float (x : Float) : ∃ a, (float x).atom? = some a := by
  rw [atom?, Decimal.exactValue?]
  cases Decimal.parts x <;> exact ⟨_, rfl⟩

theorem same_refl (v : Value) : v.same v = true := by
  induction v using induction_on_parts with
  | step v ih =>
    have items {xs : List Value} (parts : ∀ x ∈ xs, IsPart x v) :
        List.Forall₂ (fun x y => x.same y = true) xs xs :=
      List.forall₂_same.mpr fun x member => ih x (parts x member)
    have members {xs : List Value} (set : v.members? = some xs) : Alike v v :=
      .sets set set (fun x member => ⟨x, member, ih x (.ofSet set member)⟩)
        fun x member => ⟨x, member, ih x (.ofSet set member)⟩
    have leaf {a : Atom} (atom : v.atom? = some a) : Alike v v := .leaf atom atom
    rw [same_iff]
    cases v with
    | list xs => exact .list (items fun _ => .ofList)
    | tuple xs => exact .tuple (items fun _ => .ofTuple)
    | set xs => exact members rfl
    | frozenSet xs => exact members rfl
    | map es =>
      exact .map (fun e member => ⟨e, member, ih e.1 (.key member), ih e.2 (.value member)⟩)
        fun e member => ⟨e, member, ih e.1 (.key member), ih e.2 (.value member)⟩
    | float x =>
      obtain ⟨a, atom⟩ := exists_atom_float x
      exact leaf atom
    | foreign kind plain inner => cases kind <;> exact leaf rfl
    | _ => exact leaf rfl

theorem same_symm (h : v.same w = true) : w.same v = true := by
  induction v using induction_on_parts generalizing w with
  | step v ih =>
    have items {xs ys : List Value} (parts : ∀ x ∈ xs, IsPart x v)
        (h : List.Forall₂ (fun x y => x.same y = true) xs ys) : List.Forall₂ (fun x y => x.same y = true) ys xs := by
      induction h with
      | nil => exact .nil
      | cons first _ rest =>
        exact .cons (ih _ (parts _ List.mem_cons_self) first)
          (rest fun x member => parts x (List.mem_cons_of_mem _ member))
    rw [same_iff] at h ⊢
    cases h with
    | leaf left right => exact .leaf right left
    | list equal => exact .list (items (fun _ => .ofList) equal)
    | tuple equal => exact .tuple (items (fun _ => .ofTuple) equal)
    | sets left right into onto =>
      refine .sets right left (fun y member => ?_) fun x member => ?_
      · obtain ⟨x, part, same⟩ := onto y member
        exact ⟨x, part, ih x (.ofSet left part) same⟩
      · obtain ⟨y, part, same⟩ := into x member
        exact ⟨y, part, ih x (.ofSet left member) same⟩
    | map into onto =>
      refine .map (fun f member => ?_) fun e member => ?_
      · obtain ⟨e, part, key, value⟩ := onto f member
        exact ⟨e, part, ih e.1 (.key part) key, ih e.2 (.value part) value⟩
      · obtain ⟨f, part, key, value⟩ := into e member
        exact ⟨f, part, ih e.1 (.key member) key, ih e.2 (.value member) value⟩

theorem same_trans (first : u.same v = true) (second : v.same w = true) : u.same w = true := by
  induction u using induction_on_parts generalizing v w with
  | step u ih =>
    have items {xs ys zs : List Value} (parts : ∀ x ∈ xs, IsPart x u)
        (first : List.Forall₂ (fun x y => x.same y = true) xs ys)
        (second : List.Forall₂ (fun x y => x.same y = true) ys zs) :
        List.Forall₂ (fun x y => x.same y = true) xs zs := by
      induction first generalizing zs with
      | nil =>
        cases second
        exact .nil
      | cons one _ rest =>
        cases second with
        | cons other others =>
          exact .cons (ih _ (parts _ List.mem_cons_self) one other)
            (rest (fun x member => parts x (List.mem_cons_of_mem _ member)) others)
    rw [same_iff] at first second ⊢
    cases first with
    | leaf left right =>
      cases second with
      | leaf left' right' => exact .leaf left (right'.trans (left'.symm.trans right))
      | sets left' => cases v <;> cases left' <;> cases right
      | _ => cases right
    | list equal =>
      cases second with
      | list equal' => exact .list (items (fun _ => .ofList) equal equal')
      | leaf left' => cases left'
      | sets left' => cases left'
    | tuple equal =>
      cases second with
      | tuple equal' => exact .tuple (items (fun _ => .ofTuple) equal equal')
      | leaf left' => cases left'
      | sets left' => cases left'
    | sets left right into onto =>
      cases second with
      | sets left' right' into' onto' =>
        cases right.symm.trans left'
        refine .sets left right' (fun x member => ?_) fun z member => ?_
        · obtain ⟨y, middle, same⟩ := into x member
          obtain ⟨z, last, same'⟩ := into' y middle
          exact ⟨z, last, ih x (.ofSet left member) same same'⟩
        · obtain ⟨y, middle, same'⟩ := onto' z member
          obtain ⟨x, part, same⟩ := onto y middle
          exact ⟨x, part, ih x (.ofSet left part) same same'⟩
      | leaf left' => cases v <;> cases right <;> cases left'
      | _ => cases right
    | map into onto =>
      cases second with
      | map into' onto' =>
        refine .map (fun e member => ?_) fun g member => ?_
        · obtain ⟨f, middle, key, value⟩ := into e member
          obtain ⟨g, last, key', value'⟩ := into' f middle
          exact ⟨g, last, ih e.1 (.key member) key key', ih e.2 (.value member) value value'⟩
        · obtain ⟨f, middle, key', value'⟩ := onto' g member
          obtain ⟨e, part, key, value⟩ := onto f middle
          exact ⟨e, part, ih e.1 (.key part) key key', ih e.2 (.value part) value value'⟩
      | leaf left' => cases left'
      | sets left' => cases left'

end Covenant.Value
