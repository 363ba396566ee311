import Covenant.Clause.Typed
import Covenant.Proofs.Term.Eval

namespace Covenant

structure ZeroReading where
  div : Int → Int
  mod : Int → Int
  quot : Rat → Rat

def Interpretation.atZero (i : Interpretation) : ZeroReading := ⟨i.divZero, i.modZero, i.quotZero⟩

namespace ZeroReading

def wholeQuotient (z : ZeroReading) (m n : Int) : Int := if n = 0 then z.div m else m / n

def remainder (z : ZeroReading) (m n : Int) : Int := if n = 0 then z.mod m else m % n

def quotient (z : ZeroReading) (p q : Rat) : Rat := if q = 0 then z.quot p else p / q

end ZeroReading

namespace SomeVal

abbrev bool (b : Bool) : SomeVal := ⟨.bool, b⟩
abbrev int (n : Int) : SomeVal := ⟨.int, n⟩
abbrev real (q : Rat) : SomeVal := ⟨.real, q⟩

def number : SomeVal → Rat
  | ⟨.bool, b⟩ => if b then 1 else 0
  | ⟨.num _, n⟩ => Numeric.rat n

def whole? : SomeVal → Option Int
  | ⟨.bool, b⟩ => some (if b then 1 else 0)
  | ⟨.num .int, n⟩ => some n
  | ⟨.num .real, _⟩ => none

def truth? : SomeVal → Option Bool
  | ⟨.bool, b⟩ => some b
  | _ => none

def areTruths (a b : SomeVal) : Bool := a.truth?.isSome && b.truth?.isSome

def combine (whole : Int → Int → Int) (exact : Rat → Rat → Rat) (a b : SomeVal) : SomeVal :=
  match a.whole?, b.whole? with
  | some m, some n => int (whole m n)
  | _, _ => real (exact a.number b.number)

def toward (v other : SomeVal) : SomeVal :=
  if v.ty = other.ty then v
  else match v.whole?, other.whole? with
    | some n, some _ => int n
    | _, _ => real v.number

def ofNumbers (a b : SomeVal) (v : α) : Option α := if a.areTruths b then none else some v

def neg : SomeVal → Option SomeVal
  | ⟨.bool, _⟩ => none
  | ⟨.num .int, n⟩ => some (int (-n))
  | ⟨.num .real, q⟩ => some (real (-q))

def abs : SomeVal → Option SomeVal
  | ⟨.bool, _⟩ => none
  | ⟨.num .int, n⟩ => some (int |n|)
  | ⟨.num .real, q⟩ => some (real |q|)

def choose (c a b : SomeVal) : Option SomeVal := do
  return if ← c.truth? then a.toward b else b.toward a

def min (a b : SomeVal) : Option SomeVal :=
  ofNumbers a b (if a.number ≤ b.number then a.toward b else b.toward a)

def max (a b : SomeVal) : Option SomeVal :=
  ofNumbers a b (if b.number ≤ a.number then a.toward b else b.toward a)

end SomeVal

namespace Clause

open SomeVal

/-! ## Operators -/

def BinaryOp.value (z : ZeroReading) (op : BinaryOp) (a b : SomeVal) : Option SomeVal :=
  match op with
  | .add => some (combine (· + ·) (· + ·) a b)
  | .sub => ofNumbers a b (combine (· - ·) (· - ·) a b)
  | .mul => some (combine (· * ·) (· * ·) a b)
  | .floorDiv => ofNumbers a b (combine z.wholeQuotient z.quotient a b)
  | .mod => do ofNumbers a b (int (z.remainder (← a.whole?) (← b.whole?)))
  | .div => do return real (z.quotient (← a.whole?) (← b.whole?))
  | _ => none

def UnaryOp.value (op : UnaryOp) (a : SomeVal) : Option SomeVal :=
  match op with
  | .neg => a.neg
  | .pos => some a
  | .not => a.truth?.map (bool !·)
  | .invert => none

def CompareOp.holds (op : CompareOp) (a b : SomeVal) : Option Bool :=
  match op with
  | .lt => ofNumbers a b (decide (a.number < b.number))
  | .le => ofNumbers a b (decide (a.number ≤ b.number))
  | .gt => ofNumbers a b (decide (b.number < a.number))
  | .ge => ofNumbers a b (decide (b.number ≤ a.number))
  | .eq => some (decide (a.number = b.number))
  | .ne => some (decide (a.number ≠ b.number))
  | _ => none

def BoolOp.value (op : BoolOp) (parts : List SomeVal) : Option SomeVal := do
  let truths ← parts.mapM truth?
  match op with
  | .and => return bool (truths.all id)
  | .or => return bool (truths.any id)

def helperValue (function : String) (args : List SomeVal) : Option SomeVal :=
  match function, args with
  | "implies", [a, b] => do return bool (!(← a.truth?) || (← b.truth?))
  | "abs", [a] => a.abs
  | "min", [a, b] => a.min b
  | "max", [a, b] => a.max b
  | _, _ => none

def Constant.value : Constant → Option SomeVal
  | .bool b => some (.bool b)
  | .int n => some (.int n)
  | .float x => (Decimal.shortestValue? x).map SomeVal.real
  | _ => Option.none

/-! ## Expressions -/

inductive Entity where
  | value (v : SomeVal)
  | owner (fields : String → Option SomeVal)

abbrev Environment := String → Option Entity

namespace Environment

def value? (env : Environment) (name : String) : Option SomeVal :=
  match env name with
  | some (.value v) => some v
  | _ => none

def field? (env : Environment) (owner name : String) : Option SomeVal :=
  match env owner with
  | some (.owner fields) => fields name
  | _ => none

end Environment

mutual
/-- The value of an expression, where `old` is what names stand for below `old(...)`. -/
def Expr.value (z : ZeroReading) (old : Option Environment) (env : Environment) : Expr → Option SomeVal
  | .constant c => c.value
  | .name id => env.value? id
  | .field (.name owner) name => env.field? owner name
  | .field _ _ => none
  | .unary op operand => do op.value (← Expr.value z old env operand)
  | .binary op left right => do op.value z (← Expr.value z old env left) (← Expr.value z old env right)
  | .bool op operands => do op.value (← values z old env operands)
  | .compare first rest => do return .bool (← chain z old env (← Expr.value z old env first) rest)
  | .ifElse test body other => do
    SomeVal.choose (← Expr.value z old env test) (← Expr.value z old env body) (← Expr.value z old env other)
  | .call (.name function) args false =>
    if function = "old" then
      match old, args with
      | some before, [arg] => Expr.value z old before arg
      | _, _ => none
    else do helperValue function (← values z old env args)
  | .call _ _ _ => none
  | .other _ _ => none
def values (z : ZeroReading) (old : Option Environment) (env : Environment) : List Expr → Option (List SomeVal)
  | [] => some []
  | e :: rest => do return (← Expr.value z old env e) :: (← values z old env rest)
def chain (z : ZeroReading) (old : Option Environment) (env : Environment) (a : SomeVal) :
    List (CompareOp × Expr) → Option Bool
  | [] => some true
  | (op, e) :: rest => do
    let b ← Expr.value z old env e
    return (← op.holds a b) && (← chain z old env b rest)
end

theorem Expr.value_old (z : ZeroReading) (before env : Environment) (arg : Expr) :
    (Expr.call (.name "old") [arg] false).value z (some before) env = arg.value z (some before) before := by
  rw [Expr.value.eq_def]
  rfl

theorem Expr.value_helper (z : ZeroReading) (old : Option Environment) (env : Environment) {function : String}
    (args : List Expr) (h : function ≠ "old") :
    (Expr.call (.name function) args false).value z old env =
      (values z old env args).bind (helperValue function) := by
  rw [Expr.value.eq_def]
  simp only [h, if_false]
  rfl

end Clause

end Covenant
