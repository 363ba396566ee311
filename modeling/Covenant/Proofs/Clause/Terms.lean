import Covenant.Proofs.Basic
import Covenant.Proofs.Clause.Value

namespace Covenant

def SomeTerm.eval (i : Interpretation) (t : SomeTerm) : SomeVal := ⟨t.ty, t.term.eval i⟩

/-! ## Values of a common sort -/

namespace SomeVal

variable {a b : SomeVal}

@[simp] theorem number_toward (v other : SomeVal) : (v.toward other).number = v.number := by
  obtain ⟨_ | _ | _, v⟩ := v <;> obtain ⟨_ | _ | _, o⟩ := other <;>
    simp [toward, whole?, number]

theorem combine_toward (whole : Int → Int → Int) (exact : Rat → Rat → Rat) (h : a.areTruths b = false) :
    combine whole exact (a.toward b) (b.toward a) = combine whole exact a b := by
  obtain ⟨_ | _ | _, a⟩ := a <;> obtain ⟨_ | _ | _, b⟩ := b <;>
    simp_all [toward, combine, whole?, number, areTruths, truth?]

theorem same_eq_decide {t : Ty} (x y : t.Val) :
    Ty.same x y = decide (number ⟨t, x⟩ = number ⟨t, y⟩) := by
  cases t with
  | bool => revert x y; decide
  | num k => exact Numeric.same_eq_decide x y

theorem ofNumbers_of_apart {α : Type} {v : α} (h : a.areTruths b = false) : ofNumbers a b v = some v := by
  simp [ofNumbers, h]

end SomeVal

namespace SomeTerm

open SomeVal

variable {i : Interpretation} {a b c t : SomeTerm}

theorem eval_bool (x : Term .bool) : (SomeTerm.bool x).eval i = SomeVal.bool (x.eval i) := rfl

theorem eval_pair_left (a b : SomeTerm) :
    SomeVal.mk (a.pair b).ty ((a.pair b).left.eval i) = (a.eval i).toward (b.eval i) := by
  obtain ⟨_ | _ | _, a⟩ := a <;> obtain ⟨_ | _ | _, b⟩ := b <;>
    simp [pair, SomeTerm.eval, toward, whole?, number, Term.indicator, Term.realIndicator, Term.eval]

theorem eval_pair_right (a b : SomeTerm) :
    SomeVal.mk (a.pair b).ty ((a.pair b).right.eval i) = (b.eval i).toward (a.eval i) := by
  obtain ⟨_ | _ | _, a⟩ := a <;> obtain ⟨_ | _ | _, b⟩ := b <;>
    simp [pair, SomeTerm.eval, toward, whole?, number, Term.indicator, Term.realIndicator, Term.eval]

theorem eval_numbers {p : NumberPair} (h : a.numbers b = .ok p) :
    (a.eval i).areTruths (b.eval i) = false ∧
      SomeVal.mk (.num p.kind) (p.left.eval i) = (a.eval i).toward (b.eval i) ∧
      SomeVal.mk (.num p.kind) (p.right.eval i) = (b.eval i).toward (a.eval i) := by
  have left := eval_pair_left (i := i) a b
  have right := eval_pair_right (i := i) a b
  have truths : (a.eval i).areTruths (b.eval i) = true → (a.pair b).ty = .bool := by
    obtain ⟨_ | _ | _, a⟩ := a <;> obtain ⟨_ | _ | _, b⟩ := b <;>
      simp [SomeTerm.eval, areTruths, truth?, pair]
  unfold numbers at h
  split at h
  · cases h
  · rename_i k x y paired
    cases h
    rw [paired] at left right truths
    exact ⟨by simpa using truths, left, right⟩

theorem number_numbers {p : NumberPair} (h : a.numbers b = .ok p) :
    (a.eval i).areTruths (b.eval i) = false ∧ Numeric.rat (p.left.eval i) = (a.eval i).number ∧
      Numeric.rat (p.right.eval i) = (b.eval i).number := by
  obtain ⟨apart, left, right⟩ := eval_numbers (i := i) h
  refine ⟨apart, ?_, ?_⟩
  · rw [← number_toward (a.eval i) (b.eval i), ← left]
    rfl
  · rw [← number_toward (b.eval i) (a.eval i), ← right]
    rfl

theorem same_pair (a b : SomeTerm) :
    Ty.same ((a.pair b).left.eval i) ((a.pair b).right.eval i) =
      decide ((a.eval i).number = (b.eval i).number) := by
  rw [← number_toward (a.eval i) (b.eval i), ← number_toward (b.eval i) (a.eval i),
    ← eval_pair_left, ← eval_pair_right, same_eq_decide]

theorem eval_truth {x : Term .bool} (h : a.truth = .ok x) : (a.eval i).truth? = some (x.eval i) := by
  obtain ⟨_ | _, a⟩ := a <;> cases h
  rfl

end SomeTerm

/-! ## Operators -/

namespace Clause

open SomeVal

variable {i : Interpretation} {a b c t : SomeTerm}

theorem ofOperands_eq_ok {α : Type} {r : Except OperandError α} {x : α} (h : ofOperands r = .ok x) : r = .ok x := by
  unfold ofOperands at h
  split at h
  · cases h
    rfl
  · cases h
  · cases h

theorem value_of_add (h : a.add b = .ok t) :
    BinaryOp.value i.atZero .add (a.eval i) (b.eval i) = some (t.eval i) := by
  obtain ⟨_ | _ | _, a⟩ := a <;> obtain ⟨_ | _ | _, b⟩ := b <;> cases h <;>
    simp [BinaryOp.value, SomeTerm.eval, combine, whole?, number, Term.indicator, Term.realIndicator, Term.eval]

theorem value_of_sub (h : a.sub b = .ok t) :
    BinaryOp.value i.atZero .sub (a.eval i) (b.eval i) = some (t.eval i) := by
  obtain ⟨⟨k, x, y⟩, paired, made⟩ := bind_eq_ok.mp h
  obtain ⟨apart, left, right⟩ := SomeTerm.eval_numbers (i := i) paired
  simp only [BinaryOp.value]
  rw [ofNumbers_of_apart apart, ← combine_toward _ _ apart, ← left, ← right]
  cases k <;> cases made <;> rfl

theorem value_of_mul (h : a.mul b = .ok t) :
    BinaryOp.value i.atZero .mul (a.eval i) (b.eval i) = some (t.eval i) := by
  obtain ⟨_ | _ | _, a⟩ := a <;> obtain ⟨_ | _ | _, b⟩ := b <;> cases h
  case bool.bool =>
    cases ha : a.eval i <;> cases hb : b.eval i <;>
      simp [BinaryOp.value, SomeTerm.eval, combine, whole?, Term.indicator, Term.eval, ha, hb]
  all_goals
    simp [BinaryOp.value, SomeTerm.eval, combine, whole?, number, Term.zero, Term.eval]

theorem value_of_floorDiv (h : a.floorDiv b = .ok t) :
    BinaryOp.value i.atZero .floorDiv (a.eval i) (b.eval i) = some (t.eval i) := by
  obtain ⟨⟨k, x, y⟩, paired, made⟩ := bind_eq_ok.mp h
  obtain ⟨apart, left, right⟩ := SomeTerm.eval_numbers (i := i) paired
  simp only [BinaryOp.value]
  rw [ofNumbers_of_apart apart, ← combine_toward _ _ apart, ← left, ← right]
  cases k <;> cases made <;> rfl

theorem value_of_mod (h : a.mod b = .ok t) :
    BinaryOp.value i.atZero .mod (a.eval i) (b.eval i) = some (t.eval i) := by
  obtain ⟨_ | _ | _, a⟩ := a <;> obtain ⟨_ | _ | _, b⟩ := b <;> cases h <;>
    simp [BinaryOp.value, SomeTerm.eval, whole?, ofNumbers, areTruths, truth?, Term.indicator, Term.eval,
      ZeroReading.remainder, Interpretation.atZero]

theorem value_of_div (h : a.div b = .ok t) :
    BinaryOp.value i.atZero .div (a.eval i) (b.eval i) = some (t.eval i) := by
  obtain ⟨_ | _ | _, a⟩ := a <;> obtain ⟨_ | _ | _, b⟩ := b <;> cases h <;>
    simp [BinaryOp.value, SomeTerm.eval, whole?, Term.realIndicator, Term.eval, ZeroReading.quotient,
      Interpretation.atZero]

theorem BinaryOp.value_of_apply {op : BinaryOp} (h : op.apply a b = .ok t) :
    op.value i.atZero (a.eval i) (b.eval i) = some (t.eval i) := by
  cases op with
  | add => exact value_of_add (ofOperands_eq_ok h)
  | sub => exact value_of_sub (ofOperands_eq_ok h)
  | mul => exact value_of_mul (ofOperands_eq_ok h)
  | floorDiv => exact value_of_floorDiv (ofOperands_eq_ok h)
  | mod => exact value_of_mod (ofOperands_eq_ok h)
  | div => exact value_of_div (ofOperands_eq_ok h)
  | _ => cases h

theorem UnaryOp.value_of_apply {op : UnaryOp} (h : op.apply a = .ok t) :
    op.value (a.eval i) = some (t.eval i) := by
  cases op with
  | neg =>
    replace h := ofOperands_eq_ok h
    obtain ⟨_ | _ | _, a⟩ := a <;> cases h <;> simp [UnaryOp.value, SomeTerm.eval, SomeVal.neg, Term.eval]
  | pos =>
    cases h
    rfl
  | not =>
    obtain ⟨x, truth, made⟩ := bind_eq_ok.mp (ofOperands_eq_ok h)
    cases made
    simp only [UnaryOp.value, SomeTerm.eval_truth truth]
    rfl
  | invert => cases h

theorem CompareOp.holds_of_apply {op : CompareOp} (h : op.apply a b = .ok t) :
    ∃ x : Term .bool, t = .bool x ∧ op.holds (a.eval i) (b.eval i) = some (x.eval i) := by
  cases op
  case lt | le | gt | ge =>
    obtain ⟨p, paired, made⟩ := bind_eq_ok.mp (ofOperands_eq_ok h)
    obtain ⟨apart, left, right⟩ := SomeTerm.number_numbers (i := i) paired
    cases made
    refine ⟨_, rfl, ?_⟩
    simp only [CompareOp.holds, ofNumbers_of_apart apart, Term.eval, Numeric.lt_eq_decide,
      Numeric.le_eq_decide, left, right]
  case eq | ne =>
    cases h
    refine ⟨_, rfl, ?_⟩
    simp [CompareOp.holds, Term.eval, SomeTerm.same_pair]
  all_goals cases h

theorem eval_truths {parts : List SomeTerm} {xs : List (Term .bool)} (h : parts.mapM SomeTerm.truth = .ok xs) :
    (parts.map (·.eval i)).mapM truth? = some (xs.map (·.eval i)) := by
  induction parts generalizing xs with
  | nil =>
    cases h
    rfl
  | cons part rest ih =>
    rw [List.mapM_cons] at h
    obtain ⟨x, truth, h⟩ := bind_eq_ok.mp h
    obtain ⟨ys, truths, made⟩ := bind_eq_ok.mp h
    cases made
    simp [SomeTerm.eval_truth truth, ih truths]

theorem truths_bool (xs : List (Term .bool)) : (xs.map SomeTerm.bool).mapM SomeTerm.truth = .ok xs := by
  induction xs with
  | nil => rfl
  | cons x rest ih =>
    rw [List.map_cons, List.mapM_cons, ih]
    rfl

theorem BoolOp.value_of_apply {op : BoolOp} {parts : List SomeTerm} (h : op.apply parts = .ok t) :
    op.value (parts.map (·.eval i)) = some (t.eval i) := by
  cases op with
  | and =>
    obtain ⟨xs, truths, made⟩ := bind_eq_ok.mp (ofOperands_eq_ok h)
    cases made
    simp only [BoolOp.value, eval_truths truths]
    simp [SomeTerm.eval, Term.eval, Term.evalAll_eq]
  | or =>
    obtain ⟨xs, truths, made⟩ := bind_eq_ok.mp (ofOperands_eq_ok h)
    cases made
    simp only [BoolOp.value, eval_truths truths]
    simp [SomeTerm.eval, Term.eval, Term.evalAny_eq]

theorem value_of_choose (h : c.ite a b = .ok t) :
    SomeVal.choose (c.eval i) (a.eval i) (b.eval i) = some (t.eval i) := by
  obtain ⟨x, truth, made⟩ := bind_eq_ok.mp h
  cases made
  rw [SomeVal.choose, SomeTerm.eval_truth truth]
  cases chosen : x.eval i with
  | true =>
    have taken := SomeTerm.eval_pair_left (i := i) a b
    simpa [SomeTerm.eval, Term.eval, chosen] using taken.symm
  | false =>
    have taken := SomeTerm.eval_pair_right (i := i) a b
    simpa [SomeTerm.eval, Term.eval, chosen] using taken.symm

theorem value_of_min (h : a.min b = .ok t) : SomeVal.min (a.eval i) (b.eval i) = some (t.eval i) := by
  obtain ⟨c, compared, h⟩ := bind_eq_ok.mp h
  obtain ⟨p, paired, made⟩ := bind_eq_ok.mp compared
  obtain ⟨apart, left, right⟩ := SomeTerm.number_numbers (i := i) paired
  cases made
  rw [← value_of_choose h, SomeVal.min, ofNumbers_of_apart apart]
  by_cases le : (a.eval i).number ≤ (b.eval i).number <;>
    simp [SomeVal.choose, SomeTerm.eval_bool, truth?, Term.eval, Numeric.le_eq_decide, left, right, le]

theorem value_of_max (h : a.max b = .ok t) : SomeVal.max (a.eval i) (b.eval i) = some (t.eval i) := by
  obtain ⟨c, compared, h⟩ := bind_eq_ok.mp h
  obtain ⟨p, paired, made⟩ := bind_eq_ok.mp compared
  obtain ⟨apart, left, right⟩ := SomeTerm.number_numbers (i := i) paired
  cases made
  rw [← value_of_choose h, SomeVal.max, ofNumbers_of_apart apart]
  by_cases ge : (b.eval i).number ≤ (a.eval i).number <;>
    simp [SomeVal.choose, SomeTerm.eval_bool, truth?, Term.eval, Numeric.le_eq_decide, left, right, ge]

theorem value_of_abs (h : a.abs = .ok t) : (a.eval i).abs = some (t.eval i) := by
  obtain ⟨_ | k, a⟩ := a
  · cases h
  · cases h
    cases k with
    | int =>
      by_cases sign : (0 : Int) ≤ a.eval i
      · simp [SomeVal.abs, SomeTerm.eval, Term.zero, Term.eval, Numeric.le, sign, abs_of_nonneg]
      · simp [SomeVal.abs, SomeTerm.eval, Term.zero, Term.eval, Numeric.le, sign, abs_of_neg (not_le.mp sign)]
    | real =>
      by_cases sign : (0 : Rat) ≤ a.eval i
      · simp [SomeVal.abs, SomeTerm.eval, Term.zero, Term.eval, Numeric.le, sign, abs_of_nonneg]
      · simp [SomeVal.abs, SomeTerm.eval, Term.zero, Term.eval, Numeric.le, sign, abs_of_neg (not_le.mp sign)]

theorem value_of_implies (h : a.implies b = .ok t) :
    helperValue "implies" [a.eval i, b.eval i] = some (t.eval i) := by
  obtain ⟨x, left, h⟩ := bind_eq_ok.mp h
  obtain ⟨y, right, made⟩ := bind_eq_ok.mp h
  cases made
  simp only [helperValue, SomeTerm.eval_truth left, SomeTerm.eval_truth right]
  rfl

theorem eval_joinComparisons {xs : List (Term .bool)} (h : joinComparisons (xs.map SomeTerm.bool) = .ok t) :
    t.eval i = .bool ((xs.map (·.eval i)).all id) := by
  unfold joinComparisons at h
  split at h
  · rename_i part single
    obtain ⟨x, rfl, rfl⟩ := List.map_eq_singleton_iff.mp single
    cases h
    simp [SomeTerm.eval_bool]
  · obtain ⟨ys, truths, made⟩ := bind_eq_ok.mp (ofOperands_eq_ok h)
    cases made
    rw [truths_bool] at truths
    cases truths
    simp [SomeTerm.eval_bool, Term.eval, Term.evalAll_eq]

theorem applyHelper_ok {function : String} {args : List SomeTerm}
    (h : applyHelper function args = .ok t) :
    (function = "implies" ∧ ∃ a b, args = [a, b] ∧ a.implies b = .ok t) ∨
      (function = "abs" ∧ ∃ a, args = [a] ∧ a.abs = .ok t) ∨
      (function = "min" ∧ ∃ a b, args = [a, b] ∧ a.min b = .ok t) ∨
      (function = "max" ∧ ∃ a b, args = [a, b] ∧ a.max b = .ok t) := by
  unfold applyHelper at h
  split at h
  · exact .inl ⟨rfl, _, _, rfl, ofOperands_eq_ok h⟩
  · cases h
  · exact .inr (.inl ⟨rfl, _, rfl, ofOperands_eq_ok h⟩)
  · cases h
  · exact .inr (.inr (.inl ⟨rfl, _, _, rfl, ofOperands_eq_ok h⟩))
  · cases h
  · exact .inr (.inr (.inr ⟨rfl, _, _, rfl, ofOperands_eq_ok h⟩))
  · cases h
  · cases h

theorem helperValue_of_apply {function : String} {args : List SomeTerm} (h : applyHelper function args = .ok t) :
    helperValue function (args.map (·.eval i)) = some (t.eval i) := by
  rcases applyHelper_ok h with ⟨rfl, a, b, rfl, made⟩ | ⟨rfl, a, rfl, made⟩ | ⟨rfl, a, b, rfl, made⟩ |
    ⟨rfl, a, b, rfl, made⟩
  · exact value_of_implies made
  · exact value_of_abs made
  · exact value_of_min made
  · exact value_of_max made

/-! ## Expressions -/

theorem Constant.value_of_toTerm {c : Constant} (h : c.toTerm = .ok t) : c.value = some (t.eval i) := by
  cases c with
  | bool b =>
    cases h
    rfl
  | int n =>
    simp only [Constant.toTerm] at h
    split at h
    · cases h
    · cases h
      rfl
  | float x =>
    simp only [Constant.toTerm] at h
    split at h
    · rename_i q shortest
      cases h
      simp [Constant.value, shortest, SomeTerm.eval, Term.eval]
    · cases h
  | _ => cases h

def Binding.entity (i : Interpretation) : Binding → Entity
  | .value t => .value (t.eval i)
  | .owner fields => .owner fun name => (fields.lookup name).map (·.eval i)

def Scope.environment (i : Interpretation) (scope : Scope) : Environment := fun name =>
  (scope.find? name).map (·.entity i)

theorem Scope.value?_environment {scope : Scope} {name : String} (h : scope.value name = .ok t) :
    (scope.environment i).value? name = some (t.eval i) := by
  unfold Scope.value at h
  split at h
  · rename_i u found
    cases h
    simp [Environment.value?, Scope.environment, found, Binding.entity]
  · cases h
  · cases h

theorem Scope.field?_environment {scope : Scope} {owner name : String} (h : scope.field owner name = .ok t) :
    (scope.environment i).field? owner name = some (t.eval i) := by
  unfold Scope.field at h
  split at h
  · rename_i fields found
    split at h
    · rename_i u member
      cases h
      simp [Environment.field?, Scope.environment, found, Binding.entity, member]
    · cases h
  · cases h

theorem Expr.toTerm_call {old : Option Scope} {scope : Scope} {callee : Expr} {args : List Expr} {keywords : Bool}
    (h : (Expr.call callee args keywords).toTerm old scope = .ok t) :
    keywords = false ∧
      ((∃ before arg, callee = .name "old" ∧ old = some before ∧ args = [arg] ∧ arg.toTerm old before = .ok t) ∨
        ∃ function ts, callee = .name function ∧ function ≠ "old" ∧ toTerms old scope args = .ok ts ∧
          applyHelper function ts = .ok t) := by
  cases keywords with
  | true => cases callee <;> simp [Expr.toTerm] at h
  | false =>
    refine ⟨rfl, ?_⟩
    cases callee with
    | name function =>
      by_cases isOld : function = "old"
      · subst isOld
        left
        rw [Expr.toTerm.eq_def] at h
        simp only [if_true] at h
        split at h
        · cases h
        · rename_i before
          split at h
          · rename_i arg
            exact ⟨before, arg, rfl, rfl, rfl, h⟩
          · cases h
      · right
        rw [Expr.toTerm.eq_def] at h
        simp only [isOld, if_false] at h
        obtain ⟨ts, args_ok, h⟩ := bind_eq_ok.mp h
        exact ⟨function, ts, rfl, isOld, args_ok, h⟩
    | _ => simp [Expr.toTerm] at h

theorem Expr.toTerm_field {old : Option Scope} {scope : Scope} {owner : Expr} {name : String}
    (h : (Expr.field owner name).toTerm old scope = .ok t) :
    ∃ ownerName, owner = .name ownerName ∧ scope.field ownerName name = .ok t := by
  cases owner with
  | name ownerName => exact ⟨ownerName, rfl, h⟩
  | _ => simp [Expr.toTerm] at h

mutual
theorem Expr.value_of_toTerm (i : Interpretation) (old : Option Scope) (scope : Scope) (e : Expr) (t : SomeTerm)
    (h : e.toTerm old scope = .ok t) :
    e.value i.atZero (old.map (·.environment i)) (scope.environment i) = some (t.eval i) := by
  match e with
  | .constant c => exact Constant.value_of_toTerm h
  | .name id => exact Scope.value?_environment h
  | .field owner name =>
    obtain ⟨ownerName, rfl, h⟩ := Expr.toTerm_field h
    exact Scope.field?_environment h
  | .unary op operand =>
    obtain ⟨a, operand_ok, h⟩ := bind_eq_ok.mp h
    have operand_value := Expr.value_of_toTerm i old scope operand a operand_ok
    simp only [Expr.value, operand_value]
    exact UnaryOp.value_of_apply h
  | .binary op left right =>
    obtain ⟨a, left_ok, h⟩ := bind_eq_ok.mp h
    obtain ⟨b, right_ok, h⟩ := bind_eq_ok.mp h
    have left_value := Expr.value_of_toTerm i old scope left a left_ok
    have right_value := Expr.value_of_toTerm i old scope right b right_ok
    simp only [Expr.value, left_value, right_value]
    exact BinaryOp.value_of_apply h
  | .bool op operands =>
    obtain ⟨parts, operands_ok, h⟩ := bind_eq_ok.mp h
    have operands_value := values_of_toTerms i old scope operands parts operands_ok
    simp only [Expr.value, operands_value]
    exact BoolOp.value_of_apply h
  | .compare first rest =>
    obtain ⟨a, first_ok, h⟩ := bind_eq_ok.mp h
    obtain ⟨parts, rest_ok, h⟩ := bind_eq_ok.mp h
    have first_value := Expr.value_of_toTerm i old scope first a first_ok
    obtain ⟨xs, rfl, rest_value⟩ := chain_of_toComparisons i old scope a rest parts rest_ok
    simp [Expr.value, first_value, rest_value, eval_joinComparisons h]
  | .ifElse test body other =>
    obtain ⟨c, test_ok, h⟩ := bind_eq_ok.mp h
    obtain ⟨a, body_ok, h⟩ := bind_eq_ok.mp h
    obtain ⟨b, other_ok, h⟩ := bind_eq_ok.mp h
    have test_value := Expr.value_of_toTerm i old scope test c test_ok
    have body_value := Expr.value_of_toTerm i old scope body a body_ok
    have other_value := Expr.value_of_toTerm i old scope other b other_ok
    simp only [Expr.value, test_value, body_value, other_value]
    exact value_of_choose (ofOperands_eq_ok h)
  | .call callee args keywords =>
    obtain ⟨rfl, ⟨before, arg, rfl, rfl, rfl, h⟩ | ⟨function, ts, rfl, notOld, args_ok, h⟩⟩ := Expr.toTerm_call h
    · rw [Option.map_some, Expr.value_old]
      exact Expr.value_of_toTerm i (some before) before arg t h
    · rw [Expr.value_helper _ _ _ _ notOld, values_of_toTerms i old scope args ts args_ok]
      exact helperValue_of_apply h
  | .other kind parts => simp [Expr.toTerm] at h
termination_by sizeOf e
theorem values_of_toTerms (i : Interpretation) (old : Option Scope) (scope : Scope) (es : List Expr)
    (ts : List SomeTerm) (h : toTerms old scope es = .ok ts) :
    values i.atZero (old.map (·.environment i)) (scope.environment i) es = some (ts.map (·.eval i)) := by
  match es with
  | [] =>
    cases h
    rfl
  | e :: rest =>
    obtain ⟨t, head_ok, h⟩ := bind_eq_ok.mp h
    obtain ⟨us, rest_ok, made⟩ := bind_eq_ok.mp h
    cases made
    have head_value := Expr.value_of_toTerm i old scope e t head_ok
    have rest_value := values_of_toTerms i old scope rest us rest_ok
    simp [values, head_value, rest_value]
termination_by sizeOf es
theorem chain_of_toComparisons (i : Interpretation) (old : Option Scope) (scope : Scope) (a : SomeTerm)
    (rest : List (CompareOp × Expr)) (parts : List SomeTerm) (h : toComparisons old scope a rest = .ok parts) :
    ∃ xs : List (Term .bool), parts = xs.map SomeTerm.bool ∧
      chain i.atZero (old.map (·.environment i)) (scope.environment i) (a.eval i) rest =
        some ((xs.map (·.eval i)).all id) := by
  match rest with
  | [] =>
    cases h
    exact ⟨[], rfl, rfl⟩
  | (op, e) :: rest =>
    obtain ⟨b, operand_ok, h⟩ := bind_eq_ok.mp h
    obtain ⟨part, part_ok, h⟩ := bind_eq_ok.mp h
    obtain ⟨others, rest_ok, made⟩ := bind_eq_ok.mp h
    cases made
    have operand_value := Expr.value_of_toTerm i old scope e b operand_ok
    obtain ⟨x, rfl, part_value⟩ := CompareOp.holds_of_apply (i := i) part_ok
    obtain ⟨xs, rfl, rest_value⟩ := chain_of_toComparisons i old scope b rest others rest_ok
    refine ⟨x :: xs, rfl, ?_⟩
    simp [chain, operand_value, part_value, rest_value]
termination_by sizeOf rest
end

end Clause

end Covenant
