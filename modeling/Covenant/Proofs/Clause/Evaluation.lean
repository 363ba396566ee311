import Covenant.Proofs.Clause.Terms
import Covenant.Proofs.Decimal.Printed
import Mathlib.Data.Rat.Floor

/-!
# Evaluating a clause from left to right

A clause can be read as a computation with exact numbers, a truth value being one or zero. Operands are computed from
left to right, and only as far as they are needed: `and`, `or`, `implies`, conditional expressions and chains of
comparisons leave the rest out once they are decided. A division stops the computation if its divisor is zero, and one
that rounds or takes a remainder also if its divisor is negative.

The term of a clause takes all operands into account. If no whole division has a fraction for an operand, its value is
nevertheless the number that the computation ends with, unless that stops at a division.
-/

namespace Covenant.Clause

inductive Halt where
  | division (op : BinaryOp) (divisor : Rat)
  | undefined
deriving Repr, DecidableEq

def BinaryOp.forbids (op : BinaryOp) (divisor : Rat) : Bool :=
  match op with
  | .floorDiv | .mod => divisor ≤ 0
  | .div => divisor = 0
  | _ => false

def BinaryOp.run (op : BinaryOp) (a b : Rat) : Except Halt Rat :=
  if op.forbids b then .error (.division op b)
  else match op with
    | .add => .ok (a + b)
    | .sub => .ok (a - b)
    | .mul => .ok (a * b)
    | .floorDiv => .ok (a / b).floor
    | .mod => .ok (a - b * (a / b).floor)
    | .div => .ok (a / b)
    | _ => .error .undefined

def ofTruth (b : Bool) : Rat := if b then 1 else 0

def UnaryOp.run (op : UnaryOp) (a : Rat) : Except Halt Rat :=
  match op with
  | .neg => .ok (-a)
  | .pos => .ok a
  | .not => .ok (ofTruth (a = 0))
  | .invert => .error .undefined

def CompareOp.run (op : CompareOp) (a b : Rat) : Except Halt Bool :=
  match op with
  | .lt => .ok (a < b)
  | .le => .ok (a ≤ b)
  | .gt => .ok (b < a)
  | .ge => .ok (b ≤ a)
  | .eq => .ok (a = b)
  | .ne => .ok (a ≠ b)
  | _ => .error .undefined

def BoolOp.stops (op : BoolOp) (a : Rat) : Bool :=
  match op with
  | .and => a = 0
  | .or => a ≠ 0

def BoolOp.unit (op : BoolOp) : Rat :=
  match op with
  | .and => 1
  | .or => 0

def known (v : Option Rat) : Except Halt Rat :=
  match v with
  | some q => .ok q
  | none => .error .undefined

def Constant.run : Constant → Except Halt Rat
  | .bool b => .ok (ofTruth b)
  | .int n => .ok n
  | .float x => known (Decimal.numberOf? (Decimal.text x).toList)
  | _ => .error .undefined

mutual
/-- The number that an expression computes, where `old` is what names stand for below `old(...)`. -/
def Expr.run (old : Option Environment) (env : Environment) : Expr → Except Halt Rat
  | .constant c => c.run
  | .name id => known ((env.value? id).map (·.number))
  | .field (.name owner) name => known ((env.field? owner name).map (·.number))
  | .unary op operand => do op.run (← Expr.run old env operand)
  | .binary op left right => do op.run (← Expr.run old env left) (← Expr.run old env right)
  | .bool op operands => runBool old env op operands
  | .compare first rest => do runChain old env (← Expr.run old env first) rest
  | .ifElse test body other => do
    if (← Expr.run old env test) = 0 then Expr.run old env other else Expr.run old env body
  | .call (.name "old") [arg] false =>
    match old with
    | some before => Expr.run old before arg
    | none => .error .undefined
  | .call (.name "implies") [a, b] false => do
    if (← Expr.run old env a) = 0 then return 1 else Expr.run old env b
  | .call (.name "abs") [a] false => do return |← Expr.run old env a|
  | .call (.name "min") [a, b] false => do return min (← Expr.run old env a) (← Expr.run old env b)
  | .call (.name "max") [a, b] false => do return max (← Expr.run old env a) (← Expr.run old env b)
  | _ => .error .undefined
def runBool (old : Option Environment) (env : Environment) (op : BoolOp) : List Expr → Except Halt Rat
  | [] => .ok op.unit
  | [e] => Expr.run old env e
  | e :: next :: rest => do
    let v ← Expr.run old env e
    if op.stops v then return v else runBool old env op (next :: rest)
def runChain (old : Option Environment) (env : Environment) (a : Rat) : List (CompareOp × Expr) → Except Halt Rat
  | [] => .ok 1
  | (op, e) :: rest => do
    let b ← Expr.run old env e
    if ← op.run a b then runChain old env b rest else return 0
end

/-! ## Operators -/

/-- A computation ends with the number of a value, or it stops at a division. -/
def Agrees (r : Except Halt Rat) (v : SomeVal) : Prop :=
  r = .ok v.number ∨ ∃ op d, BinaryOp.forbids op d = true ∧ r = .error (.division op d)

theorem Agrees.bind {r : Except Halt Rat} {f : Rat → Except Halt Rat} {a v : SomeVal} (first : Agrees r a)
    (rest : Agrees (f a.number) v) : Agrees (r >>= f) v := by
  rcases first with done | ⟨op, d, forbidden, stopped⟩
  · rw [done]
    exact rest
  · rw [stopped]
    exact .inr ⟨op, d, forbidden, rfl⟩

variable {z : ZeroReading} {a b v : SomeVal}

theorem Agrees.congr {r : Except Halt Rat} (h : Agrees r a) (same : b.number = a.number) : Agrees r b := by
  unfold Agrees
  rw [same]
  exact h

theorem number_of_whole {n : Int} (h : a.whole? = some n) : a.number = n := by
  obtain ⟨_ | _ | _, x⟩ := a
  · cases h
    cases x <;> simp [SomeVal.number]
  · cases h
    rfl
  · cases h

theorem whole_of_ty (h : a.ty ≠ .real) : ∃ n, a.whole? = some n := by
  obtain ⟨_ | _ | _, x⟩ := a
  · exact ⟨_, rfl⟩
  · exact ⟨_, rfl⟩
  · exact absurd rfl h

theorem number_combine {whole : Int → Int → Int} {exact : Rat → Rat → Rat}
    (cast : ∀ m n : Int, ((whole m n : Int) : Rat) = exact m n) :
    (SomeVal.combine whole exact a b).number = exact a.number b.number := by
  cases left : a.whole? with
  | none => simp [SomeVal.combine, left, SomeVal.number]
  | some m =>
    cases right : b.whole? with
    | none => simp [SomeVal.combine, left, right, SomeVal.number]
    | some n =>
      rw [number_of_whole left, number_of_whole right, ← cast]
      simp [SomeVal.combine, left, right, SomeVal.number]

theorem of_ofNumbers {w : SomeVal} (h : SomeVal.ofNumbers a b w = some v) : w = v := by
  unfold SomeVal.ofNumbers at h
  split at h
  · cases h
  · exact Option.some.inj h

theorem floor_div {m n : Int} (h : 0 < n) : ((m : Rat) / n).floor = m / n := by
  obtain ⟨d, rfl⟩ := Int.eq_ofNat_of_zero_le h.le
  exact Rat.floor_intCast_div_natCast m d

theorem BinaryOp.run_floorDiv (wholeLeft : a.ty ≠ .real) (wholeRight : b.ty ≠ .real)
    (h : BinaryOp.value z .floorDiv a b = some v) : Agrees (BinaryOp.run .floorDiv a.number b.number) v := by
  obtain ⟨m, left⟩ := whole_of_ty wholeLeft
  obtain ⟨n, right⟩ := whole_of_ty wholeRight
  have made := of_ofNumbers h
  simp only [SomeVal.combine, left, right] at made
  subst made
  rw [number_of_whole left, number_of_whole right]
  -- below zero the two roundings differ, and there the computation stops
  by_cases positive : 0 < n
  · left
    have divides : ¬ (n : Rat) ≤ 0 := by simpa using positive
    simp [BinaryOp.run, BinaryOp.forbids, divides, floor_div positive, SomeVal.number, ZeroReading.wholeQuotient,
      positive.ne']
  · right
    have forbidden : BinaryOp.forbids .floorDiv n = true := by simpa [BinaryOp.forbids] using positive
    exact ⟨_, _, forbidden, by simp [BinaryOp.run, forbidden]⟩

theorem BinaryOp.run_mod (h : BinaryOp.value z .mod a b = some v) :
    Agrees (BinaryOp.run .mod a.number b.number) v := by
  obtain ⟨m, left, h⟩ := Option.bind_eq_some_iff.mp h
  obtain ⟨n, right, h⟩ := Option.bind_eq_some_iff.mp h
  have made := of_ofNumbers h
  subst made
  rw [number_of_whole left, number_of_whole right]
  by_cases positive : 0 < n
  · left
    have divides : ¬ (n : Rat) ≤ 0 := by simpa using positive
    have rest : (m : Rat) - n * ((m / n : Int) : Rat) = ((m % n : Int) : Rat) := by
      rw [Int.emod_def]
      push_cast
      rfl
    simp [BinaryOp.run, BinaryOp.forbids, divides, floor_div positive, SomeVal.number, ZeroReading.remainder,
      positive.ne', rest]
  · right
    have forbidden : BinaryOp.forbids .mod n = true := by simpa [BinaryOp.forbids] using positive
    exact ⟨_, _, forbidden, by simp [BinaryOp.run, forbidden]⟩

theorem BinaryOp.run_div (h : BinaryOp.value z .div a b = some v) :
    Agrees (BinaryOp.run .div a.number b.number) v := by
  obtain ⟨m, left, h⟩ := Option.bind_eq_some_iff.mp h
  obtain ⟨n, right, h⟩ := Option.bind_eq_some_iff.mp h
  cases h
  rw [number_of_whole left, number_of_whole right]
  by_cases zero : n = 0
  · right
    have forbidden : BinaryOp.forbids .div n = true := by simp [BinaryOp.forbids, zero]
    exact ⟨_, _, forbidden, by simp [BinaryOp.run, forbidden]⟩
  · left
    simp [BinaryOp.run, BinaryOp.forbids, zero, SomeVal.number, ZeroReading.quotient]

theorem BinaryOp.run_of_value {op : BinaryOp} (h : op.value z a b = some v)
    (whole : op = .floorDiv → a.ty ≠ .real ∧ b.ty ≠ .real) : Agrees (op.run a.number b.number) v := by
  cases op with
  | add =>
    cases h
    exact .inl (congrArg Except.ok (number_combine (by simp)).symm)
  | sub =>
    cases of_ofNumbers h
    exact .inl (congrArg Except.ok (number_combine (by simp)).symm)
  | mul =>
    cases h
    exact .inl (congrArg Except.ok (number_combine (by simp)).symm)
  | floorDiv => exact BinaryOp.run_floorDiv (whole rfl).1 (whole rfl).2 h
  | mod => exact BinaryOp.run_mod h
  | div => exact BinaryOp.run_div h
  | _ => cases h

theorem UnaryOp.run_of_value {op : UnaryOp} (h : op.value a = some v) : op.run a.number = .ok v.number := by
  cases op with
  | neg => obtain ⟨_ | _ | _, x⟩ := a <;> cases h <;> rfl
  | pos =>
    cases h
    rfl
  | not =>
    obtain ⟨_ | _, x⟩ := a <;> cases h
    cases x <;> rfl
  | invert => cases h

theorem CompareOp.run_of_holds {op : CompareOp} {x : Bool} (h : op.holds a b = some x) :
    op.run a.number b.number = .ok x := by
  cases op with
  | eq | ne =>
    cases h
    rfl
  | lt | le | gt | ge =>
    simp only [CompareOp.holds, SomeVal.ofNumbers] at h
    split at h
    · cases h
    · cases h
      rfl
  | _ => cases h

/-! ## Expressions -/

def Whole (old : Option Scope) (scope : Scope) (e : Expr) : Prop :=
  ∀ t, e.toTerm old scope = .ok t → t.ty ≠ .real

mutual
def Expr.WholeDivisions (old : Option Scope) (scope : Scope) : Expr → Prop
  | .unary _ operand => operand.WholeDivisions old scope
  | .binary op left right =>
    left.WholeDivisions old scope ∧ right.WholeDivisions old scope ∧
      (op = .floorDiv → Whole old scope left ∧ Whole old scope right)
  | .bool _ operands => allWholeDivisions old scope operands
  | .compare first rest => first.WholeDivisions old scope ∧ chainWholeDivisions old scope rest
  | .ifElse test body other =>
    test.WholeDivisions old scope ∧ body.WholeDivisions old scope ∧ other.WholeDivisions old scope
  | .call (.name function) args _ =>
    if function = "old" then ∀ before ∈ old, allWholeDivisions old before args else allWholeDivisions old scope args
  | _ => True
def allWholeDivisions (old : Option Scope) (scope : Scope) : List Expr → Prop
  | [] => True
  | e :: rest => e.WholeDivisions old scope ∧ allWholeDivisions old scope rest
def chainWholeDivisions (old : Option Scope) (scope : Scope) : List (CompareOp × Expr) → Prop
  | [] => True
  | (_, e) :: rest => e.WholeDivisions old scope ∧ chainWholeDivisions old scope rest
end

theorem Constant.run_of_value {c : Constant} (h : c.value = some v) : c.run = .ok v.number := by
  cases c with
  | bool b =>
    cases h
    rfl
  | int n =>
    cases h
    rfl
  | float x =>
    obtain ⟨q, shortest, rfl⟩ := Option.map_eq_some_iff.mp h
    rw [Constant.run, Decimal.numberOf?_text, shortest]
    rfl
  | _ => cases h

theorem eq_bool_of_truth {x : Bool} (h : v.truth? = some x) : v = .bool x := by
  obtain ⟨_ | _, y⟩ := v <;> cases h
  rfl

def BoolOp.joined (op : BoolOp) (xs : List Bool) : Bool :=
  match op with
  | .and => xs.all id
  | .or => xs.any id

theorem BoolOp.joined_of_value {op : BoolOp} {parts : List SomeVal} (h : op.value parts = some v) :
    ∃ xs : List Bool, parts = xs.map SomeVal.bool ∧ v = .bool (op.joined xs) := by
  obtain ⟨xs, truths, made⟩ := Option.bind_eq_some_iff.mp h
  refine ⟨xs, ?_, ?_⟩
  · clear made h
    induction parts generalizing xs with
    | nil =>
      cases truths
      rfl
    | cons part rest ih =>
      rw [List.mapM_cons] at truths
      obtain ⟨x, truth, truths⟩ := Option.bind_eq_some_iff.mp truths
      obtain ⟨ys, others, made⟩ := Option.bind_eq_some_iff.mp truths
      cases made
      rw [eq_bool_of_truth truth, ih ys others, List.map_cons]
  · cases op <;> cases made <;> rfl

theorem BoolOp.joined_cons (op : BoolOp) (x : Bool) (xs : List Bool) :
    op.joined (x :: xs) = if op.stops (ofTruth x) then x else op.joined xs := by
  cases op <;> cases x <;> simp [BoolOp.joined, BoolOp.stops, ofTruth]

theorem toTerms_single {old : Option Scope} {scope : Scope} {es : List Expr} {a : SomeTerm}
    (h : toTerms old scope es = .ok [a]) : ∃ e, es = [e] ∧ e.toTerm old scope = .ok a := by
  match es with
  | [] => cases h
  | e :: rest =>
    obtain ⟨t, head_ok, h⟩ := bind_eq_ok.mp h
    obtain ⟨us, rest_ok, made⟩ := bind_eq_ok.mp h
    cases made
    cases rest with
    | nil => exact ⟨e, rfl, head_ok⟩
    | cons next rest =>
      obtain ⟨u, _, h⟩ := bind_eq_ok.mp rest_ok
      obtain ⟨_, _, made⟩ := bind_eq_ok.mp h
      cases made

theorem toTerms_pair {old : Option Scope} {scope : Scope} {es : List Expr} {a b : SomeTerm}
    (h : toTerms old scope es = .ok [a, b]) :
    ∃ d e, es = [d, e] ∧ d.toTerm old scope = .ok a ∧ e.toTerm old scope = .ok b := by
  match es with
  | [] => cases h
  | d :: rest =>
    obtain ⟨t, head_ok, h⟩ := bind_eq_ok.mp h
    obtain ⟨us, rest_ok, made⟩ := bind_eq_ok.mp h
    cases made
    obtain ⟨e, rfl, last_ok⟩ := toTerms_single rest_ok
    exact ⟨d, e, rfl, head_ok, last_ok⟩

theorem number_abs (h : a.abs = some v) : v.number = |a.number| := by
  obtain ⟨_ | _ | _, x⟩ := a <;> cases h
  · exact Int.cast_abs
  · rfl

theorem number_min (h : a.min b = some v) : v.number = min a.number b.number := by
  rw [← of_ofNumbers h]
  split
  · rename_i le
    rw [SomeVal.number_toward, min_eq_left le]
  · rename_i gt
    rw [SomeVal.number_toward, min_eq_right (not_le.mp gt).le]

theorem number_max (h : a.max b = some v) : v.number = max a.number b.number := by
  rw [← of_ofNumbers h]
  split
  · rename_i ge
    rw [SomeVal.number_toward, max_eq_left ge]
  · rename_i lt
    rw [SomeVal.number_toward, max_eq_right (not_le.mp lt).le]

section

variable {i : Interpretation} {old : Option Environment} {env : Environment} {x y test : Expr} {c p q t : SomeTerm}

theorem Agrees.ifElse (test_agrees : Agrees (test.run old env) (c.eval i)) (left : Agrees (x.run old env) (p.eval i))
    (right : Agrees (y.run old env) (q.eval i)) (h : c.ite p q = .ok t) :
    Agrees ((Expr.ifElse test x y).run old env) (t.eval i) := by
  obtain ⟨b, truth, made⟩ := Option.bind_eq_some_iff.mp (value_of_choose (i := i) h)
  rw [eq_bool_of_truth truth] at test_agrees
  rw [Expr.run, ← Option.some.inj made]
  refine test_agrees.bind ?_
  -- only the branch that is taken is computed
  cases b with
  | true => exact left.congr (SomeVal.number_toward ..)
  | false => exact right.congr (SomeVal.number_toward ..)

theorem Agrees.implies (left : Agrees (x.run old env) (p.eval i)) (right : Agrees (y.run old env) (q.eval i))
    (h : p.implies q = .ok t) : Agrees ((Expr.call (.name "implies") [x, y] false).run old env) (t.eval i) := by
  obtain ⟨b, left_truth, rest⟩ := Option.bind_eq_some_iff.mp (value_of_implies (i := i) h)
  obtain ⟨d, right_truth, made⟩ := Option.bind_eq_some_iff.mp rest
  rw [eq_bool_of_truth left_truth] at left
  rw [eq_bool_of_truth right_truth] at right
  rw [Expr.run, ← Option.some.inj made]
  refine left.bind ?_
  cases b with
  | true => exact right
  | false => exact .inl rfl

theorem Agrees.abs (arg : Agrees (x.run old env) (p.eval i)) (h : p.abs = .ok t) :
    Agrees ((Expr.call (.name "abs") [x] false).run old env) (t.eval i) := by
  rw [Expr.run]
  refine arg.bind ?_
  exact .inl (congrArg Except.ok (number_abs (value_of_abs h)).symm)

theorem Agrees.min (left : Agrees (x.run old env) (p.eval i)) (right : Agrees (y.run old env) (q.eval i))
    (h : p.min q = .ok t) : Agrees ((Expr.call (.name "min") [x, y] false).run old env) (t.eval i) := by
  rw [Expr.run]
  refine left.bind (right.bind ?_)
  exact .inl (congrArg Except.ok (number_min (value_of_min h)).symm)

theorem Agrees.max (left : Agrees (x.run old env) (p.eval i)) (right : Agrees (y.run old env) (q.eval i))
    (h : p.max q = .ok t) : Agrees ((Expr.call (.name "max") [x, y] false).run old env) (t.eval i) := by
  rw [Expr.run]
  refine left.bind (right.bind ?_)
  exact .inl (congrArg Except.ok (number_max (value_of_max h)).symm)

end

mutual
theorem Expr.run_of_toTerm (i : Interpretation) (old : Option Scope) (scope : Scope) (e : Expr) (t : SomeTerm)
    (h : e.toTerm old scope = .ok t) (whole : e.WholeDivisions old scope) :
    Agrees (e.run (old.map (·.environment i)) (scope.environment i)) (t.eval i) := by
  match e with
  | .constant c => exact .inl (Constant.run_of_value (Constant.value_of_toTerm h))
  | .name id =>
    left
    rw [Expr.run, Scope.value?_environment h]
    rfl
  | .field owner member =>
    obtain ⟨ownerName, rfl, h⟩ := Expr.toTerm_field h
    left
    rw [Expr.run, Scope.field?_environment h]
    rfl
  | .unary op operand =>
    obtain ⟨a, operand_ok, h⟩ := bind_eq_ok.mp h
    rw [Expr.run]
    refine (Expr.run_of_toTerm i old scope operand a operand_ok whole).bind ?_
    exact .inl (UnaryOp.run_of_value (UnaryOp.value_of_apply h))
  | .binary op left right =>
    obtain ⟨a, left_ok, h⟩ := bind_eq_ok.mp h
    obtain ⟨b, right_ok, h⟩ := bind_eq_ok.mp h
    obtain ⟨wholeLeft, wholeRight, sorts⟩ := whole
    rw [Expr.run]
    refine (Expr.run_of_toTerm i old scope left a left_ok wholeLeft).bind ?_
    refine (Expr.run_of_toTerm i old scope right b right_ok wholeRight).bind ?_
    refine BinaryOp.run_of_value (BinaryOp.value_of_apply h) fun isFloor => ?_
    exact ⟨(sorts isFloor).1 a left_ok, (sorts isFloor).2 b right_ok⟩
  | .bool op operands =>
    obtain ⟨parts, operands_ok, h⟩ := bind_eq_ok.mp h
    obtain ⟨xs, truths, value⟩ := BoolOp.joined_of_value (BoolOp.value_of_apply (i := i) h)
    rw [Expr.run, value]
    exact runBool_of_toTerms i old scope op operands parts xs operands_ok truths whole
  | .compare first rest =>
    obtain ⟨a, first_ok, h⟩ := bind_eq_ok.mp h
    obtain ⟨parts, rest_ok, h⟩ := bind_eq_ok.mp h
    obtain ⟨xs, made, rest_agrees⟩ := runChain_of_toComparisons i old scope a rest parts rest_ok whole.2
    rw [made] at h
    rw [Expr.run, eval_joinComparisons h]
    exact (Expr.run_of_toTerm i old scope first a first_ok whole.1).bind rest_agrees
  | .ifElse test body other =>
    obtain ⟨c, test_ok, h⟩ := bind_eq_ok.mp h
    obtain ⟨a, body_ok, h⟩ := bind_eq_ok.mp h
    obtain ⟨b, other_ok, h⟩ := bind_eq_ok.mp h
    obtain ⟨wholeTest, wholeBody, wholeOther⟩ := whole
    have test_agrees := Expr.run_of_toTerm i old scope test c test_ok wholeTest
    have body_agrees := Expr.run_of_toTerm i old scope body a body_ok wholeBody
    have other_agrees := Expr.run_of_toTerm i old scope other b other_ok wholeOther
    exact test_agrees.ifElse body_agrees other_agrees (ofOperands_eq_ok h)
  | .call callee args keywords =>
    obtain ⟨rfl, ⟨before, arg, rfl, rfl, rfl, h⟩ | ⟨function, ts, rfl, notOld, args_ok, h⟩⟩ := Expr.toTerm_call h
    · have wholeArg : arg.WholeDivisions (some before) before := by
        rw [Expr.WholeDivisions, if_pos rfl] at whole
        exact (whole before rfl).1
      rw [Expr.run.eq_def]
      exact Expr.run_of_toTerm i (some before) before arg t h wholeArg
    · rw [Expr.WholeDivisions, if_neg notOld] at whole
      rcases applyHelper_ok h with ⟨rfl, a, b, rfl, helper_ok⟩ | ⟨rfl, a, rfl, helper_ok⟩ |
        ⟨rfl, a, b, rfl, helper_ok⟩ | ⟨rfl, a, b, rfl, helper_ok⟩
      · obtain ⟨x, y, rfl, left_ok, right_ok⟩ := toTerms_pair args_ok
        exact (Expr.run_of_toTerm i old scope x a left_ok whole.1).implies
          (Expr.run_of_toTerm i old scope y b right_ok whole.2.1) helper_ok
      · obtain ⟨x, rfl, arg_ok⟩ := toTerms_single args_ok
        exact (Expr.run_of_toTerm i old scope x a arg_ok whole.1).abs helper_ok
      · obtain ⟨x, y, rfl, left_ok, right_ok⟩ := toTerms_pair args_ok
        exact (Expr.run_of_toTerm i old scope x a left_ok whole.1).min
          (Expr.run_of_toTerm i old scope y b right_ok whole.2.1) helper_ok
      · obtain ⟨x, y, rfl, left_ok, right_ok⟩ := toTerms_pair args_ok
        exact (Expr.run_of_toTerm i old scope x a left_ok whole.1).max
          (Expr.run_of_toTerm i old scope y b right_ok whole.2.1) helper_ok
  | .other kind parts => simp [Expr.toTerm] at h
termination_by sizeOf e
theorem runBool_of_toTerms (i : Interpretation) (old : Option Scope) (scope : Scope) (op : BoolOp) (es : List Expr)
    (ts : List SomeTerm) (xs : List Bool) (h : toTerms old scope es = .ok ts)
    (truths : ts.map (·.eval i) = xs.map SomeVal.bool) (whole : allWholeDivisions old scope es) :
    Agrees (runBool (old.map (·.environment i)) (scope.environment i) op es) (.bool (op.joined xs)) := by
  match es with
  | [] =>
    cases h
    cases List.map_eq_nil_iff.mp truths.symm
    cases op <;> exact .inl rfl
  | [e] =>
    obtain ⟨t, head_ok, h⟩ := bind_eq_ok.mp h
    obtain ⟨x, rfl, value⟩ : ∃ x, xs = [x] ∧ t.eval i = .bool x := by
      cases h
      obtain ⟨x, made, value⟩ := List.map_eq_singleton_iff.mp truths.symm
      exact ⟨x, made, value.symm⟩
    rw [runBool, BoolOp.joined_cons]
    have head_agrees := Expr.run_of_toTerm i old scope e t head_ok whole.1
    rw [value] at head_agrees
    cases op <;> cases x <;> exact head_agrees
  | e :: next :: rest =>
    obtain ⟨t, head_ok, h⟩ := bind_eq_ok.mp h
    obtain ⟨us, rest_ok, made⟩ := bind_eq_ok.mp h
    cases made
    obtain ⟨x, ys, rfl, isTruth, others⟩ := List.map_eq_cons_iff.mp truths.symm
    have value : t.eval i = .bool x := isTruth.symm
    have head_agrees := Expr.run_of_toTerm i old scope e t head_ok whole.1
    have rest_agrees := runBool_of_toTerms i old scope op (next :: rest) us ys rest_ok others.symm whole.2
    rw [value] at head_agrees
    rw [runBool, BoolOp.joined_cons]
    refine head_agrees.bind ?_
    have number : (SomeVal.bool x).number = ofTruth x := rfl
    rw [number]
    split
    · exact .inl rfl
    · exact rest_agrees
termination_by sizeOf es
theorem runChain_of_toComparisons (i : Interpretation) (old : Option Scope) (scope : Scope) (a : SomeTerm)
    (rest : List (CompareOp × Expr)) (parts : List SomeTerm) (h : toComparisons old scope a rest = .ok parts)
    (whole : chainWholeDivisions old scope rest) :
    ∃ xs : List (Term .bool), parts = xs.map SomeTerm.bool ∧
      Agrees (runChain (old.map (·.environment i)) (scope.environment i) (a.eval i).number rest)
        (.bool ((xs.map (·.eval i)).all id)) := by
  match rest with
  | [] =>
    cases h
    exact ⟨[], rfl, .inl rfl⟩
  | (op, e) :: rest =>
    obtain ⟨b, operand_ok, h⟩ := bind_eq_ok.mp h
    obtain ⟨part, part_ok, h⟩ := bind_eq_ok.mp h
    obtain ⟨others, rest_ok, made⟩ := bind_eq_ok.mp h
    cases made
    obtain ⟨x, rfl, holds⟩ := CompareOp.holds_of_apply (i := i) part_ok
    obtain ⟨xs, rfl, rest_agrees⟩ := runChain_of_toComparisons i old scope b rest others rest_ok whole.2
    refine ⟨x :: xs, rfl, ?_⟩
    rw [runChain]
    refine (Expr.run_of_toTerm i old scope e b operand_ok whole.1).bind ?_
    rw [CompareOp.run_of_holds holds, ok_bind]
    cases compared : x.eval i with
    | true => simpa [compared] using rest_agrees
    | false => exact .inl (by simp [compared, SomeVal.number])
termination_by sizeOf rest
end

/-- Unless a computation reaches a division it stops at, it ends with the number that the term of the expression has,
whatever divisions by zero are taken to give. -/
theorem computation_ends_with_number_of_term {i : Interpretation} {old : Option Scope} {scope : Scope} {e : Expr}
    {t : SomeTerm} (h : e.toTerm old scope = .ok t) (whole : e.WholeDivisions old scope)
    (safe : ∀ op d, BinaryOp.forbids op d = true →
      e.run (old.map (·.environment i)) (scope.environment i) ≠ .error (.division op d)) :
    e.run (old.map (·.environment i)) (scope.environment i) = .ok (t.eval i).number := by
  rcases Expr.run_of_toTerm i old scope e t h whole with done | ⟨op, d, forbidden, stopped⟩
  · exact done
  · exact absurd stopped (safe op d forbidden)

/-- A division that is not reached when its divisor is zero: `0 if n == 0 else (n + flag) // n`. -/
def guarded : Expr :=
  .ifElse (.compare (.name "n") [(.eq, .constant (.int 0))]) (.constant (.int 0))
    (.binary .floorDiv (.binary .add (.name "n") (.name "flag")) (.name "n"))

def guardedScope : Scope :=
  Scope.empty.bindValues [("n", ⟨.int, .var "n" .int⟩), ("flag", ⟨.bool, .var "flag" .bool⟩)]

def guardedReading : Interpretation where
  var _
    | .bool => true
    | .num .int => (0 : Int)
    | .num .real => (0 : Rat)
  divZero _ := 7
  modZero _ := 7
  quotZero _ := 7

theorem whole_of_sorts {old : Option Scope} {scope : Scope} {e : Expr}
    (h : (e.toTerm old scope).toOption.all (·.ty ≠ .real) = true) : Whole old scope e := by
  intro t made
  rw [made] at h
  simpa [Except.toOption] using h

theorem guarded_computation_ends :
    ∃ t, guarded.toTerm none guardedScope = .ok t ∧ guarded.WholeDivisions none guardedScope ∧
      guarded.run none (guardedScope.environment guardedReading) = .ok (t.eval guardedReading).number := by
  obtain ⟨t, made⟩ : ∃ t, guarded.toTerm none guardedScope = .ok t := exists_of_isOk (by decide +kernel)
  have whole : guarded.WholeDivisions none guardedScope := by
    refine ⟨⟨trivial, trivial, trivial⟩, trivial, ⟨trivial, trivial, nofun⟩, trivial, fun _ => ⟨?_, ?_⟩⟩
    · exact whole_of_sorts (by decide +kernel)
    · exact whole_of_sorts (by decide +kernel)
  have ends : guarded.run none (guardedScope.environment guardedReading) = .ok 0 := by decide +kernel
  refine ⟨t, made, whole, computation_ends_with_number_of_term made whole ?_⟩
  intro op d _ stopped
  rw [Option.map_none, ends] at stopped
  cases stopped

end Covenant.Clause
