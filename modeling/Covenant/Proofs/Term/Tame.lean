import Covenant.Proofs.Term.Assign

namespace Covenant.Term

variable {xs ys : List Variable} {known : Assignment} {k : Numeric} {t : Ty}

def Divisor (b : Term (.num k)) : Prop := ∃ n : k.Val, n ≠ Numeric.ofInt k 0 ∧ ∀ known, b.assign known = numeral k n

mutual
def Tame (xs : List Variable) : {t : Ty} → Term t → Prop
  | _, .int _ => True
  | _, .real _ => True
  | _, .bool _ => True
  | _, .var name ty => ⟨name, ty⟩ ∈ xs
  | _, .neg a => Tame xs a
  | _, .add a b => Tame xs a ∧ Tame xs b
  | _, .sub a b => Tame xs a ∧ Tame xs b
  | _, .mul a b => Tame xs a ∧ Tame xs b
  | _, .div a b => Tame xs a ∧ Divisor b
  | _, .mod a b => Tame xs a ∧ Divisor b
  | _, .quot a b => Tame xs a ∧ Divisor b
  | _, .toReal a => Tame xs a
  | _, .ite c a b => Tame xs c ∧ Tame xs a ∧ Tame xs b
  | _, .and parts => AllTame xs parts
  | _, .or parts => AllTame xs parts
  | _, .not a => Tame xs a
  | _, .implies a b => Tame xs a ∧ Tame xs b
  | _, .eq a b => Tame xs a ∧ Tame xs b
  | _, .distinct a b => Tame xs a ∧ Tame xs b
  | _, .lt a b => Tame xs a ∧ Tame xs b
  | _, .le a b => Tame xs a ∧ Tame xs b
def AllTame (xs : List Variable) : List (Term .bool) → Prop
  | [] => True
  | a :: rest => Tame xs a ∧ AllTame xs rest
end

theorem allTame_iff {parts : List (Term .bool)} : AllTame xs parts ↔ ∀ p ∈ parts, Tame xs p := by
  induction parts with
  | nil => simp [AllTame]
  | cons p rest ih => simp [AllTame, ih]

theorem tame_numeral (n : k.Val) : Tame xs (numeral k n) := by
  cases k <;> exact trivial

theorem tame_literal (v : t.Val) : Tame xs (literal t v) := by
  cases t with
  | bool => exact trivial
  | num k => exact tame_numeral v

theorem assign_literal (v : t.Val) : (literal t v).assign known = literal t v := by
  obtain _ | _ | _ := t <;> rfl

theorem divisor_numeral {n : k.Val} (h : n ≠ Numeric.ofInt k 0) : Divisor (numeral k n) :=
  ⟨n, h, fun _ => assign_literal (t := .num k) n⟩

/-! ## Folding keeps terms tame -/

theorem tame_foldNeg {a : Term (.num k)} (h : Tame xs a) : Tame xs (foldNeg a) := by
  unfold foldNeg
  split
  · exact tame_numeral _
  · exact h

theorem tame_foldNumbers {op : k.Val → k.Val → k.Val} {keep : Term (.num k) → Term (.num k) → Term (.num k)}
    {a b : Term (.num k)} (h : Tame xs (keep a b)) : Tame xs (foldNumbers op keep a b) := by
  unfold foldNumbers
  split
  · exact tame_numeral _
  · exact h

theorem tame_foldCompare {op : k.Val → k.Val → Bool} {keep : Term (.num k) → Term (.num k) → Term .bool}
    {a b : Term (.num k)} (h : Tame xs (keep a b)) : Tame xs (foldCompare op keep a b) := by
  unfold foldCompare
  split
  · exact trivial
  · exact h

theorem tame_foldDiv {a b : Term .int} (h : Tame xs a) (divides : Divisor b) : Tame xs (foldDiv a b) := by
  unfold foldDiv
  split
  · split
    · exact ⟨h, divides⟩
    · exact trivial
  · exact ⟨h, divides⟩

theorem tame_foldMod {a b : Term .int} (h : Tame xs a) (divides : Divisor b) : Tame xs (foldMod a b) := by
  unfold foldMod
  split
  · split
    · exact ⟨h, divides⟩
    · exact trivial
  · exact ⟨h, divides⟩

theorem tame_foldQuot {a b : Term .real} (h : Tame xs a) (divides : Divisor b) : Tame xs (foldQuot a b) := by
  unfold foldQuot
  split
  · split
    · exact ⟨h, divides⟩
    · exact trivial
  · exact ⟨h, divides⟩

theorem tame_foldToReal {a : Term .int} (h : Tame xs a) : Tame xs (foldToReal a) := by
  unfold foldToReal
  split
  · exact trivial
  · exact h

theorem tame_foldNot {a : Term .bool} (h : Tame xs a) : Tame xs (foldNot a) := by
  unfold foldNot
  split
  · exact trivial
  · exact h

theorem tame_foldIte {c : Term .bool} {a b : Term t} (test : Tame xs c) (left : Tame xs a) (right : Tame xs b) :
    Tame xs (foldIte c a b) := by
  unfold foldIte
  split
  · exact left
  · exact right
  · exact ⟨test, left, right⟩

theorem tame_foldImplies {a b : Term .bool} (left : Tame xs a) (right : Tame xs b) : Tame xs (foldImplies a b) := by
  unfold foldImplies
  split
  · exact trivial
  · exact right
  · exact trivial
  · exact ⟨left, right⟩

theorem tame_foldEq {a b : Term t} (left : Tame xs a) (right : Tame xs b) : Tame xs (foldEq a b) := by
  cases t with
  | bool =>
    simp only [foldEq]
    split
    · exact trivial
    · exact ⟨left, right⟩
  | num k =>
    have kept : Tame xs (Term.eq a b) := ⟨left, right⟩
    exact tame_foldCompare kept

theorem tame_foldDistinct {a b : Term t} (left : Tame xs a) (right : Tame xs b) : Tame xs (foldDistinct a b) := by
  cases t with
  | bool =>
    simp only [foldDistinct]
    split
    · exact trivial
    · exact ⟨left, right⟩
  | num k =>
    have kept : Tame xs (Term.distinct a b) := ⟨left, right⟩
    exact tame_foldCompare kept

theorem tame_foldAnd {parts : List (Term .bool)} (h : AllTame xs parts) : Tame xs (foldAnd parts) := by
  unfold foldAnd
  split
  · exact trivial
  · split
    · exact trivial
    · exact allTame_iff.mpr fun p member => allTame_iff.mp h p (List.mem_filter.mp member).1

theorem tame_foldOr {parts : List (Term .bool)} (h : AllTame xs parts) : Tame xs (foldOr parts) := by
  unfold foldOr
  split
  · exact trivial
  · split
    · exact trivial
    · exact allTame_iff.mpr fun p member => allTame_iff.mp h p (List.mem_filter.mp member).1

theorem Divisor.assign {b : Term (.num k)} (h : Divisor b) : Divisor (b.assign known) := by
  obtain ⟨n, nonzero, folded⟩ := h
  rw [folded known]
  exact divisor_numeral nonzero

mutual
theorem tame_assign (left : ∀ y ∈ xs, known y.name y.ty = none → y ∈ ys) {t : Ty} (a : Term t) (h : Tame xs a) :
    Tame ys (a.assign known) := by
  match a with
  | .int _ | .real _ | .bool _ => exact trivial
  | .var name ty =>
    rw [assign]
    split
    · exact tame_literal _
    · rename_i unknown
      exact left ⟨name, ty⟩ h unknown
  | .neg a => exact tame_foldNeg (tame_assign left a h)
  | .add a b | .sub a b | .mul a b =>
    exact tame_foldNumbers ⟨tame_assign left a h.1, tame_assign left b h.2⟩
  | .div a b => exact tame_foldDiv (tame_assign left a h.1) h.2.assign
  | .mod a b => exact tame_foldMod (tame_assign left a h.1) h.2.assign
  | .quot a b => exact tame_foldQuot (tame_assign left a h.1) h.2.assign
  | .toReal a => exact tame_foldToReal (tame_assign left a h)
  | .ite c a b => exact tame_foldIte (tame_assign left c h.1) (tame_assign left a h.2.1) (tame_assign left b h.2.2)
  | .and parts => exact tame_foldAnd (allTame_assignAll left parts h)
  | .or parts => exact tame_foldOr (allTame_assignAll left parts h)
  | .not a => exact tame_foldNot (tame_assign left a h)
  | .implies a b => exact tame_foldImplies (tame_assign left a h.1) (tame_assign left b h.2)
  | .eq a b => exact tame_foldEq (tame_assign left a h.1) (tame_assign left b h.2)
  | .distinct a b => exact tame_foldDistinct (tame_assign left a h.1) (tame_assign left b h.2)
  | .lt a b | .le a b => exact tame_foldCompare ⟨tame_assign left a h.1, tame_assign left b h.2⟩
theorem allTame_assignAll (left : ∀ y ∈ xs, known y.name y.ty = none → y ∈ ys) (parts : List (Term .bool))
    (h : AllTame xs parts) : AllTame ys (assignAll known parts) := by
  match parts with
  | [] => exact trivial
  | a :: rest => exact ⟨tame_assign left a h.1, allTame_assignAll left rest h.2⟩
end

/-! ## Terms without variables -/

def IsLiteral (a : Term t) : Prop := ∃ v, a = literal t v

theorem IsLiteral.number? {a : Term (.num k)} (h : IsLiteral a) : ∃ n, a.number? = some n := by
  obtain ⟨n, rfl⟩ := h
  cases k <;> exact ⟨n, rfl⟩

theorem IsLiteral.truth? {a : Term .bool} (h : IsLiteral a) : ∃ b, a.truth? = some b := by
  obtain ⟨b, rfl⟩ := h
  exact ⟨b, rfl⟩

theorem literal_foldNeg {a : Term (.num k)} (ih : Tame [] a → IsLiteral a) (h : Tame [] (foldNeg a)) :
    IsLiteral (foldNeg a) := by
  cases found : a.number? with
  | some n =>
    simp only [foldNeg, found]
    exact ⟨_, rfl⟩
  | none =>
    simp only [foldNeg, found] at h
    obtain ⟨n, isNumber⟩ := (ih h).number?
    rw [isNumber] at found
    cases found

theorem numbers_or_kept {a b : Term (.num k)} {kept : Prop} (operands : kept → IsLiteral a ∧ IsLiteral b)
    (h : (∀ m n, a.number? = some m → b.number? = some n → False) → kept) :
    ∃ m n, a.number? = some m ∧ b.number? = some n := by
  by_contra unknown
  obtain ⟨left, right⟩ := operands (h fun m n left right => unknown ⟨m, n, left, right⟩)
  obtain ⟨m, left⟩ := left.number?
  obtain ⟨n, right⟩ := right.number?
  exact unknown ⟨m, n, left, right⟩

theorem literal_foldNumbers {op : k.Val → k.Val → k.Val} {keep : Term (.num k) → Term (.num k) → Term (.num k)}
    {a b : Term (.num k)} (operands : Tame [] (keep a b) → IsLiteral a ∧ IsLiteral b)
    (h : Tame [] (foldNumbers op keep a b)) : IsLiteral (foldNumbers op keep a b) := by
  obtain ⟨m, n, left, right⟩ := numbers_or_kept operands fun unknown => by
    unfold foldNumbers at h
    split at h
    · rename_i m n left right
      exact (unknown m n left right).elim
    · exact h
  simp only [foldNumbers, left, right]
  exact ⟨_, rfl⟩

theorem literal_foldCompare {op : k.Val → k.Val → Bool} {keep : Term (.num k) → Term (.num k) → Term .bool}
    {a b : Term (.num k)} (operands : Tame [] (keep a b) → IsLiteral a ∧ IsLiteral b)
    (h : Tame [] (foldCompare op keep a b)) : IsLiteral (foldCompare op keep a b) := by
  obtain ⟨m, n, left, right⟩ := numbers_or_kept operands fun unknown => by
    unfold foldCompare at h
    split at h
    · rename_i m n left right
      exact (unknown m n left right).elim
    · exact h
  simp only [foldCompare, left, right]
  exact ⟨_, rfl⟩

theorem literal_foldDiv {a : Term .int} {n : Int} (nonzero : n ≠ 0) (ih : Tame [] a → IsLiteral a)
    (h : Tame [] (foldDiv a (.int n))) : IsLiteral (foldDiv a (.int n)) := by
  have isLiteral : IsLiteral a := by
    unfold foldDiv at h
    split at h
    · exact ⟨_, rfl⟩
    · exact ih h.1
  obtain ⟨m, rfl⟩ := isLiteral
  exact ⟨m / n, by simp [literal, numeral, foldDiv, nonzero]⟩

theorem literal_foldMod {a : Term .int} {n : Int} (nonzero : n ≠ 0) (ih : Tame [] a → IsLiteral a)
    (h : Tame [] (foldMod a (.int n))) : IsLiteral (foldMod a (.int n)) := by
  have isLiteral : IsLiteral a := by
    unfold foldMod at h
    split at h
    · exact ⟨_, rfl⟩
    · exact ih h.1
  obtain ⟨m, rfl⟩ := isLiteral
  exact ⟨m % n, by simp [literal, numeral, foldMod, nonzero]⟩

theorem literal_foldQuot {a : Term .real} {q : Rat} (nonzero : q ≠ 0) (ih : Tame [] a → IsLiteral a)
    (h : Tame [] (foldQuot a (.real q))) : IsLiteral (foldQuot a (.real q)) := by
  have isLiteral : IsLiteral a := by
    unfold foldQuot at h
    split at h
    · exact ⟨_, rfl⟩
    · exact ih h.1
  obtain ⟨p, rfl⟩ := isLiteral
  exact ⟨p / q, by simp [literal, numeral, foldQuot, nonzero]⟩

theorem literal_foldToReal {a : Term .int} (ih : Tame [] a → IsLiteral a) (h : Tame [] (foldToReal a)) :
    IsLiteral (foldToReal a) := by
  have isLiteral : IsLiteral a := by
    unfold foldToReal at h
    split at h
    · exact ⟨_, rfl⟩
    · exact ih h
  obtain ⟨n, rfl⟩ := isLiteral
  exact ⟨_, rfl⟩

theorem literal_foldNot {a : Term .bool} (ih : Tame [] a → IsLiteral a) (h : Tame [] (foldNot a)) :
    IsLiteral (foldNot a) := by
  have isLiteral : IsLiteral a := by
    unfold foldNot at h
    split at h
    · exact ⟨_, rfl⟩
    · exact ih h
  obtain ⟨b, rfl⟩ := isLiteral
  exact ⟨_, rfl⟩

theorem literal_foldIte {c : Term .bool} {a b : Term t} (test : Tame [] c → IsLiteral c)
    (left : Tame [] a → IsLiteral a) (right : Tame [] b → IsLiteral b) (h : Tame [] (foldIte c a b)) :
    IsLiteral (foldIte c a b) := by
  have isLiteral : IsLiteral c := by
    unfold foldIte at h
    split at h
    · exact ⟨_, rfl⟩
    · exact ⟨_, rfl⟩
    · exact test h.1
  obtain ⟨_ | _, rfl⟩ := isLiteral
  · exact right h
  · exact left h

theorem literal_foldImplies {a b : Term .bool} (left : Tame [] a → IsLiteral a) (right : Tame [] b → IsLiteral b)
    (h : Tame [] (foldImplies a b)) : IsLiteral (foldImplies a b) := by
  unfold foldImplies at h
  split at h
  · exact ⟨true, rfl⟩
  · exact right h
  · rename_i notFalse notTrue
    exact ⟨true, by simp [foldImplies, literal]⟩
  · rename_i notFalse notTrue _
    obtain ⟨_ | _, rfl⟩ := left h.1
    · exact absurd rfl notFalse
    · exact absurd rfl notTrue

theorem filter_undecided {parts : List (Term .bool)} {d : Bool} (ih : ∀ p ∈ parts, Tame [] p → IsLiteral p)
    (absent : ¬ parts.any (fun p => p.truth? == some !d) = true)
    (h : AllTame [] (parts.filter fun p => p.truth? != some d)) : (parts.filter fun p => p.truth? != some d) = [] := by
  refine List.eq_nil_iff_forall_not_mem.mpr fun p member => ?_
  obtain ⟨inParts, undecided⟩ := List.mem_filter.mp member
  obtain ⟨b, truth⟩ := (ih p inParts (allTame_iff.mp h p member)).truth?
  by_cases same : b = d
  · simp [truth, same] at undecided
  · refine absent (List.any_eq_true.mpr ⟨p, inParts, ?_⟩)
    rw [truth, Bool.eq_not_of_ne same]
    exact beq_self_eq_true _

theorem literal_foldAnd {parts : List (Term .bool)} (ih : ∀ p ∈ parts, Tame [] p → IsLiteral p)
    (h : Tame [] (foldAnd parts)) : IsLiteral (foldAnd parts) := by
  unfold foldAnd at h ⊢
  split
  · exact ⟨false, rfl⟩
  · rename_i noneFalse
    rw [if_neg noneFalse] at h
    have decided : (parts.filter fun p => p.truth? != some true) = [] := by
      refine filter_undecided ih noneFalse ?_
      split at h
      · rename_i empty
        rw [empty]
        exact trivial
      · exact h
    rw [decided]
    exact ⟨true, rfl⟩

theorem literal_foldOr {parts : List (Term .bool)} (ih : ∀ p ∈ parts, Tame [] p → IsLiteral p)
    (h : Tame [] (foldOr parts)) : IsLiteral (foldOr parts) := by
  unfold foldOr at h ⊢
  split
  · exact ⟨true, rfl⟩
  · rename_i noneTrue
    rw [if_neg noneTrue] at h
    have decided : (parts.filter fun p => p.truth? != some false) = [] := by
      refine filter_undecided ih noneTrue ?_
      split at h
      · rename_i empty
        rw [empty]
        exact trivial
      · exact h
    rw [decided]
    exact ⟨false, rfl⟩

theorem literal_foldEq {a b : Term t} (left : Tame [] a → IsLiteral a) (right : Tame [] b → IsLiteral b)
    (h : Tame [] (foldEq a b)) : IsLiteral (foldEq a b) := by
  cases t with
  | bool =>
    obtain ⟨⟨p, rfl⟩, ⟨q, rfl⟩⟩ : IsLiteral a ∧ IsLiteral b := by
      simp only [foldEq] at h
      split at h
      · rename_i p q isLeft isRight
        exact ⟨⟨p, eq_bool_of_truth? isLeft⟩, ⟨q, eq_bool_of_truth? isRight⟩⟩
      · exact ⟨left h.1, right h.2⟩
    exact ⟨_, rfl⟩
  | num k => exact literal_foldCompare (fun kept => ⟨left kept.1, right kept.2⟩) h

theorem literal_foldDistinct {a b : Term t} (left : Tame [] a → IsLiteral a) (right : Tame [] b → IsLiteral b)
    (h : Tame [] (foldDistinct a b)) : IsLiteral (foldDistinct a b) := by
  cases t with
  | bool =>
    obtain ⟨⟨p, rfl⟩, ⟨q, rfl⟩⟩ : IsLiteral a ∧ IsLiteral b := by
      simp only [foldDistinct] at h
      split at h
      · rename_i p q isLeft isRight
        exact ⟨⟨p, eq_bool_of_truth? isLeft⟩, ⟨q, eq_bool_of_truth? isRight⟩⟩
      · exact ⟨left h.1, right h.2⟩
    exact ⟨_, rfl⟩
  | num k => exact literal_foldCompare (fun kept => ⟨left kept.1, right kept.2⟩) h

mutual
theorem literal_assign {t : Ty} (a : Term t) (tame : Tame xs a) (h : Tame [] (a.assign known)) :
    IsLiteral (a.assign known) := by
  match a with
  | .int n => exact ⟨n, rfl⟩
  | .real q => exact ⟨q, rfl⟩
  | .bool b => exact ⟨b, rfl⟩
  | .var name ty =>
    rw [assign] at h ⊢
    split at h
    · exact ⟨_, rfl⟩
    · cases h
  | .neg a => exact literal_foldNeg (literal_assign a tame) h
  | .add a b | .sub a b | .mul a b =>
    exact literal_foldNumbers (fun kept => ⟨literal_assign a tame.1 kept.1, literal_assign b tame.2 kept.2⟩) h
  | .div a b =>
    -- the divisor is a number already, so only the numerator can be open
    obtain ⟨closed, n, nonzero, folded⟩ := tame
    rw [assign, folded] at h ⊢
    exact literal_foldDiv nonzero (literal_assign a closed) h
  | .mod a b =>
    obtain ⟨closed, n, nonzero, folded⟩ := tame
    rw [assign, folded] at h ⊢
    exact literal_foldMod nonzero (literal_assign a closed) h
  | .quot a b =>
    obtain ⟨closed, q, nonzero, folded⟩ := tame
    rw [assign, folded] at h ⊢
    exact literal_foldQuot nonzero (literal_assign a closed) h
  | .toReal a => exact literal_foldToReal (literal_assign a tame) h
  | .ite c a b =>
    exact literal_foldIte (literal_assign c tame.1) (literal_assign a tame.2.1) (literal_assign b tame.2.2) h
  | .and parts => exact literal_foldAnd (literal_assignAll parts tame) h
  | .or parts => exact literal_foldOr (literal_assignAll parts tame) h
  | .not a => exact literal_foldNot (literal_assign a tame) h
  | .implies a b => exact literal_foldImplies (literal_assign a tame.1) (literal_assign b tame.2) h
  | .eq a b => exact literal_foldEq (literal_assign a tame.1) (literal_assign b tame.2) h
  | .distinct a b => exact literal_foldDistinct (literal_assign a tame.1) (literal_assign b tame.2) h
  | .lt a b | .le a b =>
    exact literal_foldCompare (fun kept => ⟨literal_assign a tame.1 kept.1, literal_assign b tame.2 kept.2⟩) h
theorem literal_assignAll (parts : List (Term .bool)) (tame : AllTame xs parts) :
    ∀ p ∈ assignAll known parts, Tame [] p → IsLiteral p := by
  match parts with
  | [] => exact fun p member => nomatch member
  | a :: rest =>
    intro p member h
    rw [assignAll] at member
    rcases List.mem_cons.mp member with rfl | member
    · exact literal_assign a tame.1 h
    · exact literal_assignAll rest tame.2 p member h
end

end Covenant.Term
