import Covenant.Term.Basic
import Mathlib.Algebra.Order.Field.Rat
import Mathlib.Data.Rat.Cast.Order

namespace Covenant.Numeric

variable {k : Numeric}

def rat : {k : Numeric} → k.Val → Rat
  | .int, n => ((n : Int) : Rat)
  | .real, q => q

@[simp] theorem rat_int (n : Int) : rat (k := .int) n = n := rfl
@[simp] theorem rat_real (q : Rat) : rat (k := .real) q = q := rfl

@[simp] theorem neg_int (a : Int) : neg (k := .int) a = -a := rfl
@[simp] theorem neg_real (a : Rat) : neg (k := .real) a = -a := rfl
@[simp] theorem add_int (a b : Int) : add (k := .int) a b = a + b := rfl
@[simp] theorem add_real (a b : Rat) : add (k := .real) a b = a + b := rfl
@[simp] theorem sub_int (a b : Int) : sub (k := .int) a b = a - b := rfl
@[simp] theorem sub_real (a b : Rat) : sub (k := .real) a b = a - b := rfl
@[simp] theorem mul_int (a b : Int) : mul (k := .int) a b = a * b := rfl
@[simp] theorem mul_real (a b : Rat) : mul (k := .real) a b = a * b := rfl

theorem rat_injective : Function.Injective (rat (k := k)) := by
  intro a b h
  cases k with
  | int => exact Int.cast_injective h
  | real => exact h

@[simp] theorem rat_neg (a : k.Val) : rat (neg a) = -rat a := by
  cases k with
  | int => exact Int.cast_neg a
  | real => rfl

@[simp] theorem rat_add (a b : k.Val) : rat (add a b) = rat a + rat b := by
  cases k with
  | int => exact Int.cast_add a b
  | real => rfl

@[simp] theorem rat_sub (a b : k.Val) : rat (sub a b) = rat a - rat b := by
  cases k with
  | int => exact Int.cast_sub a b
  | real => rfl

@[simp] theorem rat_mul (a b : k.Val) : rat (mul a b) = rat a * rat b := by
  cases k with
  | int => exact Int.cast_mul a b
  | real => rfl

@[simp] theorem rat_ofInt (n : Int) : rat (ofInt k n) = n := by
  cases k <;> rfl

theorem lt_eq_decide (a b : k.Val) : lt a b = decide (rat a < rat b) := by
  cases k with
  | int => exact decide_eq_decide.mpr Int.cast_lt.symm
  | real => rfl

theorem le_eq_decide (a b : k.Val) : le a b = decide (rat a ≤ rat b) := by
  cases k with
  | int => exact decide_eq_decide.mpr Int.cast_le.symm
  | real => rfl

theorem same_eq_decide (a b : k.Val) : Ty.same (t := .num k) a b = decide (rat a = rat b) := by
  cases k with
  | int => exact decide_eq_decide.mpr Int.cast_inj.symm
  | real => rfl

end Covenant.Numeric

namespace Covenant

def Interpretation.zeros : Interpretation where
  var _
    | .bool => false
    | .num .int => (0 : Int)
    | .num .real => (0 : Rat)
  divZero _ := 0
  modZero _ := 0
  quotZero _ := 0

namespace Term

variable {i : Interpretation} {k : Numeric} {t : Ty}

@[simp] theorem eval_numeral (n : k.Val) : (numeral k n).eval i = n := by
  cases k <;> rfl

@[simp] theorem eval_literal (v : t.Val) : (literal t v).eval i = v := by
  cases t with
  | bool => rfl
  | num k => exact eval_numeral v

theorem evalAll_eq (parts : List (Term .bool)) : evalAll i parts = (parts.map (·.eval i)).all id := by
  induction parts with
  | nil => rfl
  | cons p rest ih => simp [evalAll, ih]

theorem evalAny_eq (parts : List (Term .bool)) : evalAny i parts = (parts.map (·.eval i)).any id := by
  induction parts with
  | nil => rfl
  | cons p rest ih => simp [evalAny, ih]

theorem evalAll_iff {parts : List (Term .bool)} : evalAll i parts = true ↔ ∀ p ∈ parts, p.eval i = true := by
  simp [evalAll_eq]

theorem evalAny_iff {parts : List (Term .bool)} : evalAny i parts = true ↔ ∃ p ∈ parts, p.eval i = true := by
  simp [evalAny_eq]

theorem eval_between (name : String) (low high : Int) :
    (Term.and [.le (.int low) (.var name .int), .le (.var name .int) (.int high)]).eval i = true ↔
      low ≤ i.var name .int ∧ i.var name .int ≤ high := by
  simp only [eval, evalAll, Bool.and_true, Bool.and_eq_true]
  exact and_congr decide_eq_true_iff decide_eq_true_iff

end Term

end Covenant
