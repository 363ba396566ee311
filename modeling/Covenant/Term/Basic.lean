namespace Covenant

inductive Numeric where
  | int
  | real
deriving Repr, DecidableEq, Inhabited

inductive Ty where
  | bool
  | num (kind : Numeric)
deriving Repr, DecidableEq, Inhabited

namespace Ty

abbrev int : Ty := .num .int
abbrev real : Ty := .num .real

def name : Ty → String
  | .bool => "Bool"
  | .num .int => "Int"
  | .num .real => "Real"

end Ty

abbrev Numeric.Val : Numeric → Type
  | .int => Int
  | .real => Rat

abbrev Ty.Val : Ty → Type
  | .bool => Bool
  | .num kind => kind.Val

inductive Term : Ty → Type where
  | int (n : Int) : Term .int
  | real (q : Rat) : Term .real
  | bool (b : Bool) : Term .bool
  | var (name : String) (ty : Ty) : Term ty
  | neg {k : Numeric} (a : Term (.num k)) : Term (.num k)
  | add {k : Numeric} (a b : Term (.num k)) : Term (.num k)
  | sub {k : Numeric} (a b : Term (.num k)) : Term (.num k)
  | mul {k : Numeric} (a b : Term (.num k)) : Term (.num k)
  /-- Division of whole numbers; the remainder is never negative. -/
  | div (a b : Term .int) : Term .int
  | mod (a b : Term .int) : Term .int
  | quot (a b : Term .real) : Term .real
  | toReal (a : Term .int) : Term .real
  | ite {t : Ty} (c : Term .bool) (a b : Term t) : Term t
  | and (parts : List (Term .bool)) : Term .bool
  | or (parts : List (Term .bool)) : Term .bool
  | not (a : Term .bool) : Term .bool
  | implies (a b : Term .bool) : Term .bool
  | eq {t : Ty} (a b : Term t) : Term .bool
  | distinct {t : Ty} (a b : Term t) : Term .bool
  | lt {k : Numeric} (a b : Term (.num k)) : Term .bool
  | le {k : Numeric} (a b : Term (.num k)) : Term .bool

structure SomeTerm where
  ty : Ty
  term : Term ty

structure SomeVal where
  ty : Ty
  val : ty.Val

structure Interpretation where
  var : String → (ty : Ty) → ty.Val
  divZero : Int → Int
  modZero : Int → Int
  quotZero : Rat → Rat

namespace Numeric

def neg : {k : Numeric} → k.Val → k.Val
  | .int, a => Int.neg a
  | .real, a => Rat.neg a

def add : {k : Numeric} → k.Val → k.Val → k.Val
  | .int, a, b => Int.add a b
  | .real, a, b => Rat.add a b

def sub : {k : Numeric} → k.Val → k.Val → k.Val
  | .int, a, b => Int.sub a b
  | .real, a, b => Rat.sub a b

def mul : {k : Numeric} → k.Val → k.Val → k.Val
  | .int, a, b => Int.mul a b
  | .real, a, b => Rat.mul a b

def lt : {k : Numeric} → k.Val → k.Val → Bool
  | .int, a, b => decide ((a : Int) < b)
  | .real, a, b => decide ((a : Rat) < b)

def le : {k : Numeric} → k.Val → k.Val → Bool
  | .int, a, b => decide ((a : Int) ≤ b)
  | .real, a, b => decide ((a : Rat) ≤ b)

def ofInt : (k : Numeric) → Int → k.Val
  | .int, n => n
  | .real, n => Rat.ofInt n

end Numeric

def Ty.same : {t : Ty} → t.Val → t.Val → Bool
  | .bool, a, b => decide ((a : Bool) = b)
  | .num .int, a, b => decide ((a : Int) = b)
  | .num .real, a, b => decide ((a : Rat) = b)

namespace Term

def numeral : (k : Numeric) → k.Val → Term (.num k)
  | .int, n => .int n
  | .real, q => .real q

def literal : (t : Ty) → t.Val → Term t
  | .bool, b => .bool b
  | .num k, n => numeral k n

mutual
def eval (i : Interpretation) : {t : Ty} → Term t → t.Val
  | _, .int n => n
  | _, .real q => q
  | _, .bool b => b
  | _, .var name ty => i.var name ty
  | _, .neg a => Numeric.neg (eval i a)
  | _, .add a b => Numeric.add (eval i a) (eval i b)
  | _, .sub a b => Numeric.sub (eval i a) (eval i b)
  | _, .mul a b => Numeric.mul (eval i a) (eval i b)
  | _, .div a b =>
    let n : Int := eval i a
    let d : Int := eval i b
    if d = 0 then i.divZero n else n / d
  | _, .mod a b =>
    let n : Int := eval i a
    let d : Int := eval i b
    if d = 0 then i.modZero n else n % d
  | _, .quot a b =>
    let n : Rat := eval i a
    let d : Rat := eval i b
    if d = 0 then i.quotZero n else n / d
  | _, .toReal a => Rat.ofInt (eval i a)
  | _, .ite c a b => if eval i c then eval i a else eval i b
  | _, .and parts => evalAll i parts
  | _, .or parts => evalAny i parts
  | _, .not a => !eval i a
  | _, .implies a b => !eval i a || eval i b
  | _, .eq a b => Ty.same (eval i a) (eval i b)
  | _, .distinct a b => !Ty.same (eval i a) (eval i b)
  | _, .lt a b => Numeric.lt (eval i a) (eval i b)
  | _, .le a b => Numeric.le (eval i a) (eval i b)
def evalAll (i : Interpretation) : List (Term .bool) → Bool
  | [] => true
  | a :: rest => eval i a && evalAll i rest
def evalAny (i : Interpretation) : List (Term .bool) → Bool
  | [] => false
  | a :: rest => eval i a || evalAny i rest
end

end Term

end Covenant
