import Covenant.Term.Assign

namespace Covenant

/-- Bounds of a number; a bound that is missing does not bound. -/
structure Interval (k : Numeric) where
  low : Option k.Val
  high : Option k.Val

abbrev Ty.Enclosure : Ty → Type
  | .bool => Option Bool
  | .num k => Interval k

abbrev Box := String → Option (Int × Int)

namespace Interval

variable {k : Numeric}

def all : Interval k := ⟨none, none⟩

def point (n : k.Val) : Interval k := ⟨some n, some n⟩

def point? (a : Interval k) : Option k.Val :=
  match a.low, a.high with
  | some l, some h => if Ty.same (t := .num k) l h then some l else none
  | _, _ => none

def neg (a : Interval k) : Interval k := ⟨a.high.map Numeric.neg, a.low.map Numeric.neg⟩

def both (op : k.Val → k.Val → k.Val) : Option k.Val → Option k.Val → Option k.Val
  | some x, some y => some (op x y)
  | _, _ => none

def add (a b : Interval k) : Interval k := ⟨both Numeric.add a.low b.low, both Numeric.add a.high b.high⟩

def sub (a b : Interval k) : Interval k := ⟨both Numeric.sub a.low b.high, both Numeric.sub a.high b.low⟩

def smaller (x y : k.Val) : k.Val := if Numeric.le x y then x else y

def larger (x y : k.Val) : k.Val := if Numeric.le x y then y else x

def hull (a b : Interval k) : Interval k := ⟨both smaller a.low b.low, both larger a.high b.high⟩

def mul (a b : Interval k) : Interval k :=
  match a.low, a.high, b.low, b.high with
  | some l, some h, some m, some n =>
    let (p, q, r, s) := (Numeric.mul l m, Numeric.mul l n, Numeric.mul h m, Numeric.mul h n)
    ⟨some (smaller (smaller p q) (smaller r s)), some (larger (larger p q) (larger r s))⟩
  | _, _, _, _ => all

/-- A whole quotient is not larger than the numerator; by a known divisor it rises or falls with the numerator. -/
def div (a b : Interval .int) : Interval .int :=
  match b.point? with
  | some d =>
    if (0 : Int) < d then ⟨a.low.map fun n => Int.ediv n d, a.high.map fun n => Int.ediv n d⟩
    else if (d : Int) < 0 then ⟨a.high.map fun n => Int.ediv n d, a.low.map fun n => Int.ediv n d⟩
    else all
  | none => all

def mod (a b : Interval .int) : Interval .int :=
  match b.point? with
  | some d =>
    let size : Int := (d : Int).natAbs
    if size = 0 then all
    else match a.low, a.high with
      | some l, some h => if (0 : Int) ≤ l ∧ (h : Int) < size then a else ⟨some (0 : Int), some (size - 1)⟩
      | _, _ => ⟨some (0 : Int), some (size - 1)⟩
  | none => all

def toReal (a : Interval .int) : Interval .real := ⟨a.low.map Rat.ofInt, a.high.map Rat.ofInt⟩

def below (a b : Interval k) : Bool :=
  match a.high, b.low with
  | some h, some l => Numeric.lt h l
  | _, _ => false

def notAbove (a b : Interval k) : Bool :=
  match a.high, b.low with
  | some h, some l => Numeric.le h l
  | _, _ => false

def lt (a b : Interval k) : Option Bool :=
  if a.below b then some true else if b.notAbove a then some false else none

def le (a b : Interval k) : Option Bool :=
  if a.notAbove b then some true else if b.below a then some false else none

def eq (a b : Interval k) : Option Bool :=
  if a.below b || b.below a then some false
  else match a.point?, b.point? with
    | some x, some y => some (Ty.same (t := .num k) x y)
    | _, _ => none

end Interval

namespace Term

def enclosedEq : {t : Ty} → t.Enclosure → t.Enclosure → Option Bool
  | .bool, some p, some q => some (decide ((p : Bool) = q))
  | .bool, _, _ => none
  | .num _, a, b => Interval.eq a b

def enclosedVar (box : Box) (name : String) : (ty : Ty) → ty.Enclosure
  | .bool => none
  | .num .int => match box name with
    | some (l, h) => ⟨some l, some h⟩
    | none => .all
  | .num .real => .all

def enclosedIte : {t : Ty} → Option Bool → t.Enclosure → t.Enclosure → t.Enclosure
  | _, some true, a, _ => a
  | _, some false, _, b => b
  | .bool, none, some p, some q => if p = q then some p else none
  | .bool, none, _, _ => none
  | .num _, none, a, b => Interval.hull a b

mutual
def enclose (box : Box) : {t : Ty} → Term t → t.Enclosure
  | _, .int n => Interval.point (k := .int) n
  | _, .real q => Interval.point (k := .real) q
  | _, .bool b => some b
  | _, .var name ty => enclosedVar box name ty
  | _, .neg a => Interval.neg (enclose box a)
  | _, .add a b => Interval.add (enclose box a) (enclose box b)
  | _, .sub a b => Interval.sub (enclose box a) (enclose box b)
  | _, .mul a b => Interval.mul (enclose box a) (enclose box b)
  | _, .div a b => Interval.div (enclose box a) (enclose box b)
  | _, .mod a b => Interval.mod (enclose box a) (enclose box b)
  | _, .quot _ _ => Interval.all
  | _, .toReal a => Interval.toReal (enclose box a)
  | _, .ite c a b => enclosedIte (enclose box c) (enclose box a) (enclose box b)
  | _, .and parts => encloseAll box parts
  | _, .or parts => encloseAny box parts
  | _, .not a => Option.map (!·) (enclose box a : Option Bool)
  | _, .implies a b =>
    match (enclose box a : Option Bool), (enclose box b : Option Bool) with
    | some false, _ => some true
    | _, some true => some true
    | some true, some false => some false
    | _, _ => none
  | _, .eq a b => enclosedEq (enclose box a) (enclose box b)
  | _, .distinct a b => (enclosedEq (enclose box a) (enclose box b)).map (!·)
  | _, .lt a b => Interval.lt (enclose box a) (enclose box b)
  | _, .le a b => Interval.le (enclose box a) (enclose box b)
def encloseAll (box : Box) : List (Term .bool) → Option Bool
  | [] => some true
  | a :: rest =>
    match (enclose box a : Option Bool), encloseAll box rest with
    | some false, _ => some false
    | _, some false => some false
    | some true, some true => some true
    | _, _ => none
def encloseAny (box : Box) : List (Term .bool) → Option Bool
  | [] => some false
  | a :: rest =>
    match (enclose box a : Option Bool), encloseAny box rest with
    | some true, _ => some true
    | _, some true => some true
    | some false, some false => some false
    | _, _ => none
end

def refuted (box : Box) : List (Term .bool) → Bool
  | [] => false
  | a :: rest => (enclose box a : Option Bool) == some false || refuted box rest

end Term

end Covenant
