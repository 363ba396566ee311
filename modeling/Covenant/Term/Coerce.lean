import Covenant.Term.Basic

namespace Covenant

inductive OperandError where
  | illTyped
  | undefined
deriving Repr, DecidableEq

namespace Term

def indicator (b : Term .bool) : Term .int := .ite b (.int 1) (.int 0)

def realIndicator (b : Term .bool) : Term .real := .ite b (.real 1) (.real 0)

def zero : (k : Numeric) → Term (.num k)
  | .int => .int 0
  | .real => .real 0

end Term

structure TermPair where
  ty : Ty
  left : Term ty
  right : Term ty

structure NumberPair where
  kind : Numeric
  left : Term (.num kind)
  right : Term (.num kind)

namespace SomeTerm

abbrev bool (t : Term .bool) : SomeTerm := ⟨.bool, t⟩
abbrev num {k : Numeric} (t : Term (.num k)) : SomeTerm := ⟨.num k, t⟩

def pair : SomeTerm → SomeTerm → TermPair
  | ⟨.bool, a⟩, ⟨.bool, b⟩ => ⟨.bool, a, b⟩
  | ⟨.bool, a⟩, ⟨.num .int, b⟩ => ⟨.int, a.indicator, b⟩
  | ⟨.bool, a⟩, ⟨.num .real, b⟩ => ⟨.real, a.realIndicator, b⟩
  | ⟨.num .int, a⟩, ⟨.bool, b⟩ => ⟨.int, a, b.indicator⟩
  | ⟨.num .int, a⟩, ⟨.num .int, b⟩ => ⟨.int, a, b⟩
  | ⟨.num .int, a⟩, ⟨.num .real, b⟩ => ⟨.real, .toReal a, b⟩
  | ⟨.num .real, a⟩, ⟨.bool, b⟩ => ⟨.real, a, b.realIndicator⟩
  | ⟨.num .real, a⟩, ⟨.num .int, b⟩ => ⟨.real, a, .toReal b⟩
  | ⟨.num .real, a⟩, ⟨.num .real, b⟩ => ⟨.real, a, b⟩

def numbers (a b : SomeTerm) : Except OperandError NumberPair :=
  match a.pair b with
  | ⟨.bool, _, _⟩ => .error .undefined
  | ⟨.num k, a, b⟩ => .ok ⟨k, a, b⟩

def counted : SomeTerm → SomeTerm
  | ⟨.bool, b⟩ => ⟨.int, b.indicator⟩
  | t => t

def truth : SomeTerm → Except OperandError (Term .bool)
  | ⟨.bool, b⟩ => .ok b
  | _ => .error .illTyped

/-- An addition that starts with a truth value counts it, and a second one with it, before anything else. -/
def add : SomeTerm → SomeTerm → Except OperandError SomeTerm
  | ⟨.bool, a⟩, b => do
    let p ← numbers ⟨.int, a.indicator⟩ b.counted
    return num (.add p.left p.right)
  | a, b => do
    let p ← numbers a b
    return num (.add p.left p.right)

def sub (a b : SomeTerm) : Except OperandError SomeTerm := do
  let p ← numbers a b
  return num (.sub p.left p.right)

def mul : SomeTerm → SomeTerm → Except OperandError SomeTerm
  | ⟨.bool, a⟩, ⟨.bool, b⟩ => .ok (num (.ite a b.indicator (.int 0)))
  | ⟨.bool, a⟩, ⟨.num k, b⟩ => .ok (num (.ite a b (.zero k)))
  | ⟨.num k, a⟩, ⟨.bool, b⟩ => .ok (num (.ite b a (.zero k)))
  | a, b => do
    let p ← numbers a b
    return num (.mul p.left p.right)

def floorDiv (a b : SomeTerm) : Except OperandError SomeTerm := do
  match ← numbers a b with
  | ⟨.int, a, b⟩ => return num (.div a b)
  | ⟨.real, a, b⟩ => return num (.quot a b)

def mod (a b : SomeTerm) : Except OperandError SomeTerm := do
  match ← numbers a b with
  | ⟨.int, a, b⟩ => return num (.mod a b)
  | ⟨.real, _, _⟩ => .error .illTyped

def widened : SomeTerm → Except OperandError (Term .real)
  | ⟨.bool, b⟩ => .ok b.realIndicator
  | ⟨.num .int, a⟩ => .ok (.toReal a)
  | ⟨.num .real, _⟩ => .error .illTyped

def div (a b : SomeTerm) : Except OperandError SomeTerm := do
  let a ← a.widened
  let b ← b.widened
  return num (.quot a b)

def neg : SomeTerm → Except OperandError SomeTerm
  | ⟨.bool, _⟩ => .error .undefined
  | ⟨.num _, a⟩ => .ok (num (.neg a))

def not (a : SomeTerm) : Except OperandError SomeTerm := do
  return bool (.not (← a.truth))

def and (parts : List SomeTerm) : Except OperandError SomeTerm := do
  return bool (.and (← parts.mapM truth))

def or (parts : List SomeTerm) : Except OperandError SomeTerm := do
  return bool (.or (← parts.mapM truth))

def implies (a b : SomeTerm) : Except OperandError SomeTerm := do
  return bool (.implies (← a.truth) (← b.truth))

def lt (a b : SomeTerm) : Except OperandError SomeTerm := do
  let p ← numbers a b
  return bool (.lt p.left p.right)

def le (a b : SomeTerm) : Except OperandError SomeTerm := do
  let p ← numbers a b
  return bool (.le p.left p.right)

def gt (a b : SomeTerm) : Except OperandError SomeTerm := do
  let p ← numbers a b
  return bool (.lt p.right p.left)

def ge (a b : SomeTerm) : Except OperandError SomeTerm := do
  let p ← numbers a b
  return bool (.le p.right p.left)

def eq (a b : SomeTerm) : SomeTerm :=
  let p := a.pair b
  bool (.eq p.left p.right)

def distinct (a b : SomeTerm) : SomeTerm :=
  let p := a.pair b
  bool (.distinct p.left p.right)

def ite (c a b : SomeTerm) : Except OperandError SomeTerm := do
  let c ← c.truth
  let p := a.pair b
  return ⟨p.ty, .ite c p.left p.right⟩

def abs : SomeTerm → Except OperandError SomeTerm
  | ⟨.bool, _⟩ => .error .undefined
  | ⟨.num k, a⟩ => .ok (num (.ite (.le (.zero k) a) a (.neg a)))

def min (a b : SomeTerm) : Except OperandError SomeTerm := do
  ite (← le a b) a b

def max (a b : SomeTerm) : Except OperandError SomeTerm := do
  ite (← ge a b) a b

def fit? : SomeTerm → (t : Ty) → Option (Term t)
  | ⟨.bool, a⟩, .bool => some a
  | ⟨.num .int, a⟩, .num .int => some a
  | ⟨.num .real, a⟩, .num .real => some a
  | ⟨.num .int, a⟩, .num .real => some (.toReal a)
  | _, _ => none

end SomeTerm

end Covenant
