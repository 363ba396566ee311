import Covenant.Term.Assign
import Covenant.Proofs.Term.Eval

namespace Covenant.Term

variable {i : Interpretation} {k : Numeric} {t : Ty}

theorem eq_numeral_of_number? {a : Term (.num k)} {n : k.Val} (h : a.number? = some n) : a = numeral k n := by
  cases k with
  | int =>
    cases a <;> cases h
    rfl
  | real =>
    cases a <;> cases h
    rfl

theorem eq_bool_of_truth? {a : Term .bool} {b : Bool} (h : a.truth? = some b) : a = .bool b := by
  cases a <;> cases h
  rfl

theorem eval_foldNeg (a : Term (.num k)) : (foldNeg a).eval i = Numeric.neg (a.eval i) := by
  unfold foldNeg
  split
  · rename_i n known
    rw [eq_numeral_of_number? known, eval_numeral, eval_numeral]
  · rw [eval]

theorem eval_foldNumbers {op : k.Val → k.Val → k.Val} {keep : Term (.num k) → Term (.num k) → Term (.num k)}
    (kept : ∀ a b, (keep a b).eval i = op (a.eval i) (b.eval i)) (a b : Term (.num k)) :
    (foldNumbers op keep a b).eval i = op (a.eval i) (b.eval i) := by
  unfold foldNumbers
  split
  · rename_i m n left right
    rw [eq_numeral_of_number? left, eq_numeral_of_number? right]
    simp
  · exact kept a b

theorem eval_foldCompare {op : k.Val → k.Val → Bool} {keep : Term (.num k) → Term (.num k) → Term .bool}
    (kept : ∀ a b, (keep a b).eval i = op (a.eval i) (b.eval i)) (a b : Term (.num k)) :
    (foldCompare op keep a b).eval i = op (a.eval i) (b.eval i) := by
  unfold foldCompare
  split
  · rename_i m n left right
    rw [eq_numeral_of_number? left, eq_numeral_of_number? right]
    simp [eval]
  · exact kept a b

theorem eval_foldDiv (a b : Term .int) : (foldDiv a b).eval i = (Term.div a b).eval i := by
  unfold foldDiv
  split
  · split
    · rfl
    · rename_i nonzero
      simp [eval, nonzero]
  · rfl

theorem eval_foldMod (a b : Term .int) : (foldMod a b).eval i = (Term.mod a b).eval i := by
  unfold foldMod
  split
  · split
    · rfl
    · rename_i nonzero
      simp [eval, nonzero]
  · rfl

theorem eval_foldQuot (a b : Term .real) : (foldQuot a b).eval i = (Term.quot a b).eval i := by
  unfold foldQuot
  split
  · split
    · rfl
    · rename_i nonzero
      simp [eval, nonzero]
  · rfl

theorem eval_foldToReal (a : Term .int) : (foldToReal a).eval i = (Term.toReal a).eval i := by
  unfold foldToReal
  split <;> rfl

theorem eval_foldNot (a : Term .bool) : (foldNot a).eval i = (Term.not a).eval i := by
  unfold foldNot
  split <;> rfl

theorem eval_foldIte (c : Term .bool) (a b : Term t) : (foldIte c a b).eval i = (Term.ite c a b).eval i := by
  unfold foldIte
  split <;> rfl

theorem eval_foldImplies (a b : Term .bool) : (foldImplies a b).eval i = (Term.implies a b).eval i := by
  unfold foldImplies
  split <;> simp [eval]

theorem eval_foldEq (a b : Term t) : (foldEq a b).eval i = (Term.eq a b).eval i := by
  cases t with
  | bool =>
    simp only [foldEq]
    split
    · rename_i left right
      rw [eq_bool_of_truth? left, eq_bool_of_truth? right]
      rfl
    · rfl
  | num k => exact eval_foldCompare (fun _ _ => rfl) a b

theorem eval_foldDistinct (a b : Term t) : (foldDistinct a b).eval i = (Term.distinct a b).eval i := by
  cases t with
  | bool =>
    simp only [foldDistinct]
    split
    · rename_i left right
      rw [eq_bool_of_truth? left, eq_bool_of_truth? right]
      rfl
    · rfl
  | num k => exact eval_foldCompare (fun _ _ => rfl) a b

theorem eval_of_truth? {a : Term .bool} {b : Bool} (h : a.truth? = some b) : a.eval i = b := by
  rw [eq_bool_of_truth? h]
  rfl

theorem eval_foldAnd (parts : List (Term .bool)) : (foldAnd parts).eval i = evalAll i parts := by
  unfold foldAnd
  split
  · rename_i someFalse
    obtain ⟨p, member, isFalse⟩ := List.any_eq_true.mp someFalse
    have violated : p.eval i = false := eval_of_truth? (beq_iff_eq.mp isFalse)
    have notAll : evalAll i parts ≠ true := by
      rw [Ne, evalAll_iff]
      intro all
      rw [all p member] at violated
      cases violated
    exact (Bool.eq_false_iff.mpr notAll).symm
  · have undecided : evalAll i (parts.filter fun p => p.truth? != some true) = evalAll i parts := by
      rw [Bool.eq_iff_iff, evalAll_iff, evalAll_iff]
      constructor
      · intro all p member
        by_cases isTrue : p.truth? = some true
        · exact eval_of_truth? isTrue
        · exact all p (List.mem_filter.mpr ⟨member, bne_iff_ne.mpr isTrue⟩)
      · intro all p member
        exact all p (List.mem_filter.mp member).1
    rw [← undecided]
    split
    · rename_i none
      rw [none]
      rfl
    · rfl

theorem eval_foldOr (parts : List (Term .bool)) : (foldOr parts).eval i = evalAny i parts := by
  unfold foldOr
  split
  · rename_i someTrue
    obtain ⟨p, member, isTrue⟩ := List.any_eq_true.mp someTrue
    exact (evalAny_iff.mpr ⟨p, member, eval_of_truth? (beq_iff_eq.mp isTrue)⟩).symm
  · have undecided : evalAny i (parts.filter fun p => p.truth? != some false) = evalAny i parts := by
      rw [Bool.eq_iff_iff, evalAny_iff, evalAny_iff]
      constructor
      · rintro ⟨p, member, holds⟩
        exact ⟨p, (List.mem_filter.mp member).1, holds⟩
      · rintro ⟨p, member, holds⟩
        refine ⟨p, List.mem_filter.mpr ⟨member, bne_iff_ne.mpr fun isFalse => ?_⟩, holds⟩
        rw [eval_of_truth? isFalse] at holds
        cases holds
    rw [← undecided]
    split
    · rename_i none
      rw [none]
      rfl
    · rfl

mutual
theorem eval_assign (known : Assignment) {t : Ty} (a : Term t) :
    (a.assign known).eval i = a.eval (i.extend known) := by
  match a with
  | .int _ | .real _ | .bool _ => rfl
  | .var name ty =>
    rw [assign, eval, Interpretation.extend]
    cases found : known name ty with
    | none => simp [eval, found]
    | some v => simp [found]
  | .neg a => rw [assign, eval_foldNeg, eval_assign known a, eval]
  | .add a b =>
    rw [assign, eval_foldNumbers (fun _ _ => by rw [eval]), eval_assign known a, eval_assign known b, eval]
  | .sub a b =>
    rw [assign, eval_foldNumbers (fun _ _ => by rw [eval]), eval_assign known a, eval_assign known b, eval]
  | .mul a b =>
    rw [assign, eval_foldNumbers (fun _ _ => by rw [eval]), eval_assign known a, eval_assign known b, eval]
  | .div a b =>
    simp only [assign, eval_foldDiv, eval, eval_assign known a, eval_assign known b]
    rfl
  | .mod a b =>
    simp only [assign, eval_foldMod, eval, eval_assign known a, eval_assign known b]
    rfl
  | .quot a b =>
    simp only [assign, eval_foldQuot, eval, eval_assign known a, eval_assign known b]
    rfl
  | .toReal a => simp only [assign, eval_foldToReal, eval, eval_assign known a]
  | .ite c a b =>
    simp only [assign, eval_foldIte, eval, eval_assign known c, eval_assign known a, eval_assign known b]
  | .and parts => rw [assign, eval_foldAnd, evalAll_assignAll known parts, eval]
  | .or parts => rw [assign, eval_foldOr, evalAny_assignAll known parts, eval]
  | .not a => simp only [assign, eval_foldNot, eval, eval_assign known a]
  | .implies a b => simp only [assign, eval_foldImplies, eval, eval_assign known a, eval_assign known b]
  | .eq a b => simp only [assign, eval_foldEq, eval, eval_assign known a, eval_assign known b]
  | .distinct a b => simp only [assign, eval_foldDistinct, eval, eval_assign known a, eval_assign known b]
  | .lt a b =>
    rw [assign, eval_foldCompare (fun _ _ => by rw [eval]), eval_assign known a, eval_assign known b, eval]
  | .le a b =>
    rw [assign, eval_foldCompare (fun _ _ => by rw [eval]), eval_assign known a, eval_assign known b, eval]
theorem evalAll_assignAll (known : Assignment) (parts : List (Term .bool)) :
    evalAll i (assignAll known parts) = evalAll (i.extend known) parts := by
  match parts with
  | [] => rfl
  | a :: rest => rw [assignAll, evalAll, evalAll, eval_assign known a, evalAll_assignAll known rest]
theorem evalAny_assignAll (known : Assignment) (parts : List (Term .bool)) :
    evalAny i (assignAll known parts) = evalAny (i.extend known) parts := by
  match parts with
  | [] => rfl
  | a :: rest => rw [assignAll, evalAny, evalAny, eval_assign known a, evalAny_assignAll known rest]
end

/-! ## Variables that do not occur -/

theorem extend_single (x : Variable) (v : x.ty.Val) (name : String) (ty : Ty) (other : ¬ (name = x.name ∧ ty = x.ty)) :
    (i.extend (.single x v)).var name ty = i.var name ty := by
  simp [Interpretation.extend, Assignment.single, other]

mutual
theorem eval_single {x : Variable} (v : x.ty.Val) {t : Ty} (a : Term t) (h : a.mentions x = false) :
    a.eval (i.extend (.single x v)) = a.eval i := by
  match a with
  | .int _ | .real _ | .bool _ => rfl
  | .var name ty => exact extend_single x v name ty (of_decide_eq_false h)
  | .neg a | .toReal a | .not a =>
    rw [mentions] at h
    simp only [eval, eval_single v a h]
  | .add a b | .sub a b | .mul a b | .implies a b | .eq a b | .distinct a b | .lt a b | .le a b =>
    rw [mentions, Bool.or_eq_false_iff] at h
    simp only [eval, eval_single v a h.1, eval_single v b h.2]
  | .div a b | .mod a b | .quot a b =>
    rw [mentions, Bool.or_eq_false_iff] at h
    simp only [eval, eval_single v a h.1, eval_single v b h.2]
    rfl
  | .ite c a b =>
    rw [mentions, Bool.or_eq_false_iff, Bool.or_eq_false_iff] at h
    simp only [eval, eval_single v c h.1.1, eval_single v a h.1.2, eval_single v b h.2]
  | .and parts =>
    rw [mentions] at h
    simp only [eval, evalAll_single v parts h]
  | .or parts =>
    rw [mentions] at h
    simp only [eval, evalAny_single v parts h]
theorem evalAll_single {x : Variable} (v : x.ty.Val) (parts : List (Term .bool)) (h : mentionsAny x parts = false) :
    evalAll (i.extend (.single x v)) parts = evalAll i parts := by
  match parts with
  | [] => rfl
  | a :: rest =>
    rw [mentionsAny, Bool.or_eq_false_iff] at h
    rw [evalAll, evalAll, eval_single v a h.1, evalAll_single v rest h.2]
theorem evalAny_single {x : Variable} (v : x.ty.Val) (parts : List (Term .bool)) (h : mentionsAny x parts = false) :
    evalAny (i.extend (.single x v)) parts = evalAny i parts := by
  match parts with
  | [] => rfl
  | a :: rest =>
    rw [mentionsAny, Bool.or_eq_false_iff] at h
    rw [evalAny, evalAny, eval_single v a h.1, evalAny_single v rest h.2]
end

end Covenant.Term
