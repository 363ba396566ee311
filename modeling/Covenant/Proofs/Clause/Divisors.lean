import Covenant.Proofs.Clause.Terms
import Covenant.Proofs.Term.Tame

namespace Covenant

variable {xs : List Variable}

/-! ## Operands -/

namespace SomeTerm

variable {a b c t : SomeTerm}

def Tame (xs : List Variable) (t : SomeTerm) : Prop := Term.Tame xs t.term

def FixedDivisor (t : SomeTerm) : Prop :=
  ∃ v : t.ty.Val, SomeVal.number ⟨t.ty, v⟩ ≠ 0 ∧ ∀ known, t.term.assign known = Term.literal t.ty v

theorem tame_indicator {x : Term .bool} (h : x.Tame xs) : x.indicator.Tame xs := ⟨h, trivial, trivial⟩

theorem tame_realIndicator {x : Term .bool} (h : x.Tame xs) : x.realIndicator.Tame xs := ⟨h, trivial, trivial⟩

theorem tame_zero (k : Numeric) : (Term.zero k).Tame xs := by
  cases k <;> exact trivial

theorem tame_pair (left : a.Tame xs) (right : b.Tame xs) :
    (a.pair b).left.Tame xs ∧ (a.pair b).right.Tame xs := by
  obtain ⟨_ | _ | _, a⟩ := a <;> obtain ⟨_ | _ | _, b⟩ := b
  · exact ⟨left, right⟩
  · exact ⟨tame_indicator left, right⟩
  · exact ⟨tame_realIndicator left, right⟩
  · exact ⟨left, tame_indicator right⟩
  · exact ⟨left, right⟩
  · exact ⟨left, right⟩
  · exact ⟨left, tame_realIndicator right⟩
  · exact ⟨left, right⟩
  · exact ⟨left, right⟩

theorem tame_numbers {p : NumberPair} (left : a.Tame xs) (right : b.Tame xs) (h : a.numbers b = .ok p) :
    p.left.Tame xs ∧ p.right.Tame xs := by
  have both := tame_pair left right
  unfold numbers at h
  split at h
  · cases h
  · rename_i paired
    cases h
    rw [paired] at both
    exact both

theorem tame_truth {x : Term .bool} (tame : a.Tame xs) (h : a.truth = .ok x) : x.Tame xs := by
  obtain ⟨_ | _, a⟩ := a
  · cases h
    exact tame
  · cases h

theorem tame_truths {parts : List SomeTerm} {ys : List (Term .bool)} (tame : ∀ p ∈ parts, p.Tame xs)
    (h : parts.mapM truth = .ok ys) : Term.AllTame xs ys := by
  induction parts generalizing ys with
  | nil =>
    cases h
    exact trivial
  | cons part rest ih =>
    rw [List.mapM_cons] at h
    obtain ⟨y, truth, h⟩ := bind_eq_ok.mp h
    obtain ⟨zs, truths, made⟩ := bind_eq_ok.mp h
    cases made
    obtain ⟨first, others⟩ := List.forall_mem_cons.mp tame
    exact ⟨tame_truth first truth, ih others truths⟩

/-! ## Divisors -/

theorem divisor_indicator {x : Term .bool} (h : FixedDivisor ⟨.bool, x⟩) : x.indicator.Divisor := by
  obtain ⟨v, nonzero, folded⟩ := h
  cases v with
  | false => exact absurd rfl nonzero
  | true =>
    refine ⟨(1 : Int), by decide, fun known => ?_⟩
    rw [Term.indicator, Term.assign, folded known]
    rfl

theorem divisor_realIndicator {x : Term .bool} (h : FixedDivisor ⟨.bool, x⟩) : x.realIndicator.Divisor := by
  obtain ⟨v, nonzero, folded⟩ := h
  cases v with
  | false => exact absurd rfl nonzero
  | true =>
    refine ⟨(1 : Rat), by decide, fun known => ?_⟩
    rw [Term.realIndicator, Term.assign, folded known]
    rfl

theorem divisor_number {k : Numeric} {x : Term (.num k)} (h : FixedDivisor ⟨.num k, x⟩) : x.Divisor := by
  obtain ⟨v, nonzero, folded⟩ := h
  refine ⟨v, fun zero => nonzero ?_, folded⟩
  rw [SomeVal.number, zero, Numeric.rat_ofInt]
  rfl

theorem divisor_toReal {x : Term .int} (h : FixedDivisor ⟨.int, x⟩) : (Term.toReal x).Divisor := by
  obtain ⟨v, nonzero, folded⟩ := h
  refine ⟨Rat.ofInt v, fun zero => nonzero zero, fun known => ?_⟩
  rw [Term.assign, folded known]
  rfl

theorem divisor_numbers {p : NumberPair} (h : b.FixedDivisor) (paired : a.numbers b = .ok p) : p.right.Divisor := by
  obtain ⟨_ | _ | _, a⟩ := a <;> obtain ⟨_ | _ | _, b⟩ := b <;> cases paired
  · exact divisor_number h
  · exact divisor_number h
  · exact divisor_indicator h
  · exact divisor_number h
  · exact divisor_number h
  · exact divisor_realIndicator h
  · exact divisor_toReal h
  · exact divisor_number h

theorem divisor_widened {x : Term .real} (h : b.FixedDivisor) (widens : b.widened = .ok x) : x.Divisor := by
  obtain ⟨_ | _ | _, b⟩ := b <;> cases widens
  · exact divisor_realIndicator h
  · exact divisor_toReal h

theorem fixedDivisor_neg (h : a.FixedDivisor) (negated : a.neg = .ok t) : t.FixedDivisor := by
  obtain ⟨_ | k, a⟩ := a <;> cases negated
  obtain ⟨v, nonzero, folded⟩ := h
  refine ⟨Numeric.neg v, ?_, fun known => ?_⟩
  · rw [SomeVal.number, Numeric.rat_neg]
    exact neg_ne_zero.mpr nonzero
  · rw [Term.assign, folded known]
    cases k <;> rfl

/-! ## Operators -/

theorem tame_widened {x : Term .real} (tame : a.Tame xs) (h : a.widened = .ok x) : x.Tame xs := by
  obtain ⟨_ | _ | _, a⟩ := a <;> cases h
  · exact tame_realIndicator tame
  · exact tame

theorem tame_counted (tame : a.Tame xs) : a.counted.Tame xs := by
  obtain ⟨_ | _, a⟩ := a
  · exact tame_indicator tame
  · exact tame

theorem tame_add (left : a.Tame xs) (right : b.Tame xs) (h : a.add b = .ok t) : t.Tame xs := by
  obtain ⟨_ | k, a⟩ := a
  · obtain ⟨p, paired, made⟩ := bind_eq_ok.mp h
    cases made
    exact tame_numbers (a := ⟨.int, a.indicator⟩) (tame_indicator left) (tame_counted right) paired
  · obtain ⟨p, paired, made⟩ := bind_eq_ok.mp h
    cases made
    exact tame_numbers left right paired

theorem tame_sub (left : a.Tame xs) (right : b.Tame xs) (h : a.sub b = .ok t) : t.Tame xs := by
  obtain ⟨p, paired, made⟩ := bind_eq_ok.mp h
  cases made
  exact tame_numbers left right paired

theorem tame_mul (left : a.Tame xs) (right : b.Tame xs) (h : a.mul b = .ok t) : t.Tame xs := by
  obtain ⟨_ | k, a⟩ := a <;> obtain ⟨_ | l, b⟩ := b
  · cases h
    exact ⟨left, tame_indicator right, trivial⟩
  · cases h
    exact ⟨left, right, tame_zero l⟩
  · cases h
    exact ⟨right, left, tame_zero k⟩
  · obtain ⟨p, paired, made⟩ := bind_eq_ok.mp h
    cases made
    exact tame_numbers left right paired

theorem tame_floorDiv (left : a.Tame xs) (right : b.Tame xs) (divides : b.FixedDivisor) (h : a.floorDiv b = .ok t) :
    t.Tame xs := by
  obtain ⟨p, paired, made⟩ := bind_eq_ok.mp h
  have tame := (tame_numbers left right paired).1
  have divisor := divisor_numbers divides paired
  obtain ⟨_ | _, x, y⟩ := p <;> cases made <;> exact ⟨tame, divisor⟩

theorem tame_mod (left : a.Tame xs) (right : b.Tame xs) (divides : b.FixedDivisor) (h : a.mod b = .ok t) :
    t.Tame xs := by
  obtain ⟨p, paired, made⟩ := bind_eq_ok.mp h
  have tame := (tame_numbers left right paired).1
  have divisor := divisor_numbers divides paired
  obtain ⟨_ | _, x, y⟩ := p <;> cases made
  exact ⟨tame, divisor⟩

theorem tame_div (left : a.Tame xs) (divides : b.FixedDivisor) (h : a.div b = .ok t) : t.Tame xs := by
  obtain ⟨x, numerator, h⟩ := bind_eq_ok.mp h
  obtain ⟨y, denominator, made⟩ := bind_eq_ok.mp h
  cases made
  exact ⟨tame_widened left numerator, divisor_widened divides denominator⟩

theorem tame_ite (test : c.Tame xs) (left : a.Tame xs) (right : b.Tame xs) (h : c.ite a b = .ok t) : t.Tame xs := by
  obtain ⟨x, truth, made⟩ := bind_eq_ok.mp h
  cases made
  exact ⟨tame_truth test truth, tame_pair left right⟩

theorem tame_abs (tame : a.Tame xs) (h : a.abs = .ok t) : t.Tame xs := by
  obtain ⟨_ | k, a⟩ := a <;> cases h
  exact ⟨⟨tame_zero k, tame⟩, tame, tame⟩

theorem tame_min (left : a.Tame xs) (right : b.Tame xs) (h : a.min b = .ok t) : t.Tame xs := by
  obtain ⟨c, compared, h⟩ := bind_eq_ok.mp h
  obtain ⟨p, paired, made⟩ := bind_eq_ok.mp compared
  cases made
  exact tame_ite (c := .bool (.le p.left p.right)) (tame_numbers left right paired) left right h

theorem tame_max (left : a.Tame xs) (right : b.Tame xs) (h : a.max b = .ok t) : t.Tame xs := by
  obtain ⟨c, compared, h⟩ := bind_eq_ok.mp h
  obtain ⟨p, paired, made⟩ := bind_eq_ok.mp compared
  cases made
  exact tame_ite (c := .bool (.le p.right p.left)) (tame_numbers left right paired).symm left right h

theorem tame_implies (left : a.Tame xs) (right : b.Tame xs) (h : a.implies b = .ok t) : t.Tame xs := by
  obtain ⟨x, first, h⟩ := bind_eq_ok.mp h
  obtain ⟨y, second, made⟩ := bind_eq_ok.mp h
  cases made
  exact ⟨tame_truth left first, tame_truth right second⟩

end SomeTerm

namespace Clause

variable {a b t : SomeTerm}

/-! ## Literals as divisors -/

def Expr.isNonzeroLiteral : Expr → Bool
  | .constant c => c.value.any (·.number ≠ 0)
  | .unary .neg e => e.isNonzeroLiteral
  | .unary .pos e => e.isNonzeroLiteral
  | _ => false

def BinaryOp.divides : BinaryOp → Bool
  | .floorDiv | .mod | .div => true
  | _ => false

mutual
def Expr.dividesByLiterals : Expr → Bool
  | .constant _ => true
  | .name _ => true
  | .field _ _ => true
  | .unary _ operand => operand.dividesByLiterals
  | .binary op left right =>
    left.dividesByLiterals && right.dividesByLiterals && (!op.divides || right.isNonzeroLiteral)
  | .bool _ operands => allDivideByLiterals operands
  | .compare first rest => first.dividesByLiterals && chainDividesByLiterals rest
  | .ifElse test body other => test.dividesByLiterals && body.dividesByLiterals && other.dividesByLiterals
  | .call _ args _ => allDivideByLiterals args
  | .other _ _ => true
def allDivideByLiterals : List Expr → Bool
  | [] => true
  | e :: rest => e.dividesByLiterals && allDivideByLiterals rest
def chainDividesByLiterals : List (CompareOp × Expr) → Bool
  | [] => true
  | (_, e) :: rest => e.dividesByLiterals && chainDividesByLiterals rest
end

theorem Constant.eq_literal_of_toTerm {c : Constant} (h : c.toTerm = .ok t) :
    ∃ v : t.ty.Val, c.value = some ⟨t.ty, v⟩ ∧ t.term = .literal t.ty v := by
  cases c with
  | bool b =>
    cases h
    exact ⟨b, rfl, rfl⟩
  | int n =>
    simp only [Constant.toTerm] at h
    split at h
    · cases h
    · cases h
      exact ⟨n, rfl, rfl⟩
  | float x =>
    simp only [Constant.toTerm] at h
    split at h
    · rename_i q shortest
      cases h
      exact ⟨q, by simp [Constant.value, shortest], rfl⟩
    · cases h
  | _ => cases h

theorem Constant.tame_toTerm {c : Constant} (h : c.toTerm = .ok t) : t.Tame xs := by
  obtain ⟨v, -, literal⟩ := eq_literal_of_toTerm h
  rw [SomeTerm.Tame, literal]
  exact Term.tame_literal v

theorem Expr.fixedDivisor_toTerm {old : Option Scope} {scope : Scope} {e : Expr} (literal : e.isNonzeroLiteral = true)
    (h : e.toTerm old scope = .ok t) : t.FixedDivisor := by
  induction e using Expr.isNonzeroLiteral.induct generalizing t with
  | case1 c =>
    obtain ⟨v, value, isLiteral⟩ := Constant.eq_literal_of_toTerm h
    refine ⟨v, ?_, fun known => ?_⟩
    · simpa [Expr.isNonzeroLiteral, value] using literal
    · rw [isLiteral]
      exact Term.assign_literal v
  | case2 e ih =>
    obtain ⟨a, operand, h⟩ := bind_eq_ok.mp h
    exact SomeTerm.fixedDivisor_neg (ih literal operand) (ofOperands_eq_ok h)
  | case3 e ih =>
    obtain ⟨a, operand, h⟩ := bind_eq_ok.mp h
    cases h
    exact ih literal operand
  | case4 e notConstant notNeg notPos => simp [Expr.isNonzeroLiteral] at literal

/-! ## Terms of expressions -/

theorem BinaryOp.tame_apply {op : BinaryOp} (left : a.Tame xs) (right : b.Tame xs)
    (divisor : op.divides = true → b.FixedDivisor) (h : op.apply a b = .ok t) : t.Tame xs := by
  cases op with
  | add => exact SomeTerm.tame_add left right (ofOperands_eq_ok h)
  | sub => exact SomeTerm.tame_sub left right (ofOperands_eq_ok h)
  | mul => exact SomeTerm.tame_mul left right (ofOperands_eq_ok h)
  | floorDiv => exact SomeTerm.tame_floorDiv left right (divisor rfl) (ofOperands_eq_ok h)
  | mod => exact SomeTerm.tame_mod left right (divisor rfl) (ofOperands_eq_ok h)
  | div => exact SomeTerm.tame_div left (divisor rfl) (ofOperands_eq_ok h)
  | _ => cases h

theorem UnaryOp.tame_apply {op : UnaryOp} (tame : a.Tame xs) (h : op.apply a = .ok t) : t.Tame xs := by
  cases op with
  | neg =>
    replace h := ofOperands_eq_ok h
    obtain ⟨_ | k, a⟩ := a <;> cases h
    exact tame
  | pos =>
    cases h
    exact tame
  | not =>
    obtain ⟨x, truth, made⟩ := bind_eq_ok.mp (ofOperands_eq_ok h)
    cases made
    have operand := SomeTerm.tame_truth tame truth
    exact operand
  | invert => cases h

theorem CompareOp.tame_apply {op : CompareOp} (left : a.Tame xs) (right : b.Tame xs) (h : op.apply a b = .ok t) :
    t.Tame xs := by
  cases op
  case lt | le =>
    obtain ⟨p, paired, made⟩ := bind_eq_ok.mp (ofOperands_eq_ok h)
    cases made
    exact SomeTerm.tame_numbers left right paired
  case gt | ge =>
    obtain ⟨p, paired, made⟩ := bind_eq_ok.mp (ofOperands_eq_ok h)
    cases made
    exact (SomeTerm.tame_numbers left right paired).symm
  case eq | ne =>
    cases h
    exact SomeTerm.tame_pair left right
  all_goals cases h

theorem BoolOp.tame_apply {op : BoolOp} {parts : List SomeTerm} (tame : ∀ p ∈ parts, p.Tame xs)
    (h : op.apply parts = .ok t) : t.Tame xs := by
  cases op <;>
  · obtain ⟨ys, truths, made⟩ := bind_eq_ok.mp (ofOperands_eq_ok h)
    cases made
    have all := SomeTerm.tame_truths tame truths
    exact all

theorem tame_joinComparisons {parts : List SomeTerm} (tame : ∀ p ∈ parts, p.Tame xs)
    (h : joinComparisons parts = .ok t) : t.Tame xs := by
  unfold joinComparisons at h
  split at h
  · cases h
    exact tame _ (List.mem_singleton_self _)
  · have joined : BoolOp.and.apply parts = .ok t := h
    exact BoolOp.tame_apply tame joined

theorem tame_applyHelper {function : String} {args : List SomeTerm} (tame : ∀ p ∈ args, p.Tame xs)
    (h : applyHelper function args = .ok t) : t.Tame xs := by
  rcases applyHelper_ok h with ⟨-, a, b, rfl, made⟩ | ⟨-, a, rfl, made⟩ | ⟨-, a, b, rfl, made⟩ | ⟨-, a, b, rfl, made⟩
  · exact SomeTerm.tame_implies (tame a (by simp)) (tame b (by simp)) made
  · exact SomeTerm.tame_abs (tame a (by simp)) made
  · exact SomeTerm.tame_min (tame a (by simp)) (tame b (by simp)) made
  · exact SomeTerm.tame_max (tame a (by simp)) (tame b (by simp)) made

def Binding.Tame (xs : List Variable) : Binding → Prop
  | .value t => t.Tame xs
  | .owner fields => ∀ entry ∈ fields, entry.2.Tame xs

def Scope.Tame (xs : List Variable) (scope : Scope) : Prop :=
  ∀ name b, scope.find? name = some b → b.Tame xs

theorem Scope.Tame.value {scope : Scope} {name : String} (tame : scope.Tame xs) (h : scope.value name = .ok t) :
    t.Tame xs := by
  unfold Scope.value at h
  split at h
  · rename_i u found
    cases h
    exact tame name _ found
  · cases h
  · cases h

theorem Scope.Tame.field {scope : Scope} {owner name : String} (tame : scope.Tame xs)
    (h : scope.field owner name = .ok t) : t.Tame xs := by
  unfold Scope.field at h
  split at h
  · rename_i fields found
    split at h
    · rename_i u member
      cases h
      exact tame owner _ found _ (mem_of_lookup member)
    · cases h
  · cases h

mutual
theorem Expr.tame_toTerm {old : Option Scope} {scope : Scope} (before : ∀ s ∈ old, s.Tame xs) (now : scope.Tame xs)
    (e : Expr) {t : SomeTerm} (literals : e.dividesByLiterals = true) (h : e.toTerm old scope = .ok t) :
    t.Tame xs := by
  match e with
  | .constant c => exact Constant.tame_toTerm h
  | .name id => exact now.value h
  | .field owner name =>
    obtain ⟨ownerName, rfl, h⟩ := Expr.toTerm_field h
    exact now.field h
  | .unary op operand =>
    obtain ⟨a, operand_ok, h⟩ := bind_eq_ok.mp h
    exact UnaryOp.tame_apply (Expr.tame_toTerm before now operand literals operand_ok) h
  | .binary op left right =>
    obtain ⟨a, left_ok, h⟩ := bind_eq_ok.mp h
    obtain ⟨b, right_ok, h⟩ := bind_eq_ok.mp h
    simp only [Expr.dividesByLiterals, Bool.and_eq_true] at literals
    obtain ⟨⟨inLeft, inRight⟩, divisor⟩ := literals
    refine BinaryOp.tame_apply (Expr.tame_toTerm before now left inLeft left_ok)
      (Expr.tame_toTerm before now right inRight right_ok) (fun divides => ?_) h
    rw [divides] at divisor
    exact Expr.fixedDivisor_toTerm divisor right_ok
  | .bool op operands =>
    obtain ⟨parts, operands_ok, h⟩ := bind_eq_ok.mp h
    exact BoolOp.tame_apply (tame_toTerms before now operands literals operands_ok) h
  | .compare first rest =>
    obtain ⟨a, first_ok, h⟩ := bind_eq_ok.mp h
    obtain ⟨parts, rest_ok, h⟩ := bind_eq_ok.mp h
    obtain ⟨inFirst, inRest⟩ := (Bool.and_eq_true _ _).mp literals
    have first_tame := Expr.tame_toTerm before now first inFirst first_ok
    exact tame_joinComparisons (tame_toComparisons before now first_tame rest inRest rest_ok) h
  | .ifElse test body other =>
    obtain ⟨c, test_ok, h⟩ := bind_eq_ok.mp h
    obtain ⟨a, body_ok, h⟩ := bind_eq_ok.mp h
    obtain ⟨b, other_ok, h⟩ := bind_eq_ok.mp h
    simp only [Expr.dividesByLiterals, Bool.and_eq_true] at literals
    obtain ⟨⟨inTest, inBody⟩, inOther⟩ := literals
    exact SomeTerm.tame_ite (Expr.tame_toTerm before now test inTest test_ok)
      (Expr.tame_toTerm before now body inBody body_ok) (Expr.tame_toTerm before now other inOther other_ok)
      (ofOperands_eq_ok h)
  | .call callee args keywords =>
    obtain ⟨rfl, ⟨oldScope, arg, rfl, rfl, rfl, h⟩ | ⟨function, ts, rfl, notOld, args_ok, h⟩⟩ := Expr.toTerm_call h
    · obtain ⟨inArg, -⟩ := (Bool.and_eq_true _ _).mp literals
      exact Expr.tame_toTerm before (before oldScope rfl) arg inArg h
    · exact tame_applyHelper (tame_toTerms before now args literals args_ok) h
  | .other kind parts => simp [Expr.toTerm] at h
termination_by sizeOf e
theorem tame_toTerms {old : Option Scope} {scope : Scope} (before : ∀ s ∈ old, s.Tame xs) (now : scope.Tame xs)
    (es : List Expr) {ts : List SomeTerm} (literals : allDivideByLiterals es = true)
    (h : toTerms old scope es = .ok ts) : ∀ t ∈ ts, t.Tame xs := by
  match es with
  | [] =>
    cases h
    exact fun t member => nomatch member
  | e :: rest =>
    obtain ⟨t, head_ok, h⟩ := bind_eq_ok.mp h
    obtain ⟨us, rest_ok, made⟩ := bind_eq_ok.mp h
    cases made
    obtain ⟨inHead, inRest⟩ := (Bool.and_eq_true _ _).mp literals
    exact List.forall_mem_cons.mpr
      ⟨Expr.tame_toTerm before now e inHead head_ok, tame_toTerms before now rest inRest rest_ok⟩
termination_by sizeOf es
theorem tame_toComparisons {old : Option Scope} {scope : Scope} (before : ∀ s ∈ old, s.Tame xs)
    (now : scope.Tame xs) {a : SomeTerm} (left : a.Tame xs) (rest : List (CompareOp × Expr)) {parts : List SomeTerm}
    (literals : chainDividesByLiterals rest = true) (h : toComparisons old scope a rest = .ok parts) :
    ∀ t ∈ parts, t.Tame xs := by
  match rest with
  | [] =>
    cases h
    exact fun t member => nomatch member
  | (op, e) :: rest =>
    obtain ⟨b, operand_ok, h⟩ := bind_eq_ok.mp h
    obtain ⟨part, part_ok, h⟩ := bind_eq_ok.mp h
    obtain ⟨others, rest_ok, made⟩ := bind_eq_ok.mp h
    cases made
    obtain ⟨inOperand, inRest⟩ := (Bool.and_eq_true _ _).mp literals
    have right := Expr.tame_toTerm before now e inOperand operand_ok
    exact List.forall_mem_cons.mpr
      ⟨CompareOp.tame_apply left right part_ok, tame_toComparisons before now right rest inRest rest_ok⟩
termination_by sizeOf rest
end

end Clause

end Covenant
