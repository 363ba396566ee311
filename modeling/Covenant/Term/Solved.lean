import Covenant.Term.Basic
import Covenant.Term.Tree

namespace Covenant

inductive Solved where
  | truth (b : Bool)
  | whole (n : Int)
  | fraction (q : Rat)
  | name (s : String)
deriving Repr, DecidableEq

namespace Solved

def undetermined : Solved := .name "?"

def placeLimit : Nat := 20

def places? (q : Rat) : Option Nat :=
  (List.range (placeLimit + 1)).find? fun n => Nat.pow 10 n % q.den == 0

def fractionValue (q : Rat) : Value :=
  if q.den = 1 ∧ !Text.exceedsDigits q.num then .int q.num
  else match places? q with
    | some n =>
      let x := Decimal.nearest (q.num.natAbs * Nat.pow 10 n / q.den) (-(n : Int))
      .float (if q.num < 0 then -x else x)
    | none => .str (ratText q)

def toValue : Solved → Value
  | truth b => .bool b
  | whole n => if Text.exceedsDigits n then .str (Value.intText n) else .int n
  | fraction q => fractionValue q
  | name "True" => .bool true
  | name "False" => .bool false
  | name s => .str s

end Solved

end Covenant
