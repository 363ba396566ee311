import Covenant.Term.Basic

namespace Covenant

structure Variable where
  name : String
  ty : Ty
deriving Repr, DecidableEq

abbrev Assignment := String → (ty : Ty) → Option ty.Val

namespace Assignment

def empty : Assignment := fun _ _ => none

def single (x : Variable) (v : x.ty.Val) : Assignment :=
  fun name ty => if h : name = x.name ∧ ty = x.ty then some (h.2 ▸ v) else none

end Assignment

def Interpretation.extend (i : Interpretation) (known : Assignment) : Interpretation :=
  { i with var := fun name ty => (known name ty).getD (i.var name ty) }

namespace Term

def number? : {k : Numeric} → Term (.num k) → Option k.Val
  | .int, .int n => some n
  | .real, .real q => some q
  | _, _ => none

def truth? : Term .bool → Option Bool
  | .bool b => some b
  | _ => none

def foldNeg {k : Numeric} (a : Term (.num k)) : Term (.num k) :=
  match a.number? with
  | some n => numeral k (Numeric.neg n)
  | none => .neg a

def foldNumbers {k : Numeric} (op : k.Val → k.Val → k.Val) (keep : Term (.num k) → Term (.num k) → Term (.num k))
    (a b : Term (.num k)) : Term (.num k) :=
  match a.number?, b.number? with
  | some m, some n => numeral k (op m n)
  | _, _ => keep a b

def foldCompare {k : Numeric} (op : k.Val → k.Val → Bool) (keep : Term (.num k) → Term (.num k) → Term .bool)
    (a b : Term (.num k)) : Term .bool :=
  match a.number?, b.number? with
  | some m, some n => .bool (op m n)
  | _, _ => keep a b

def foldDiv (a b : Term .int) : Term .int :=
  match a, b with
  | .int n, .int d => if d = 0 then .div (.int n) (.int d) else .int (n / d)
  | a, b => .div a b

def foldMod (a b : Term .int) : Term .int :=
  match a, b with
  | .int n, .int d => if d = 0 then .mod (.int n) (.int d) else .int (n % d)
  | a, b => .mod a b

def foldQuot (a b : Term .real) : Term .real :=
  match a, b with
  | .real n, .real d => if d = 0 then .quot (.real n) (.real d) else .real (n / d)
  | a, b => .quot a b

def foldToReal (a : Term .int) : Term .real :=
  match a with
  | .int n => .real (Rat.ofInt n)
  | a => .toReal a

def foldNot (a : Term .bool) : Term .bool :=
  match a with
  | .bool b => .bool (!b)
  | a => .not a

def foldIte {t : Ty} (c : Term .bool) (a b : Term t) : Term t :=
  match c with
  | .bool true => a
  | .bool false => b
  | c => .ite c a b

def foldImplies (a b : Term .bool) : Term .bool :=
  match a, b with
  | .bool false, _ => .bool true
  | .bool true, b => b
  | _, .bool true => .bool true
  | a, b => .implies a b

def foldEq : {t : Ty} → Term t → Term t → Term .bool
  | .bool, a, b =>
    match a.truth?, b.truth? with
    | some p, some q => .bool (decide (p = q))
    | _, _ => .eq a b
  | .num k, a, b => foldCompare (Ty.same (t := .num k)) .eq a b

def foldDistinct : {t : Ty} → Term t → Term t → Term .bool
  | .bool, a, b =>
    match a.truth?, b.truth? with
    | some p, some q => .bool (!decide (p = q))
    | _, _ => .distinct a b
  | .num k, a, b => foldCompare (fun m n => !Ty.same (t := .num k) m n) .distinct a b

def foldAnd (parts : List (Term .bool)) : Term .bool :=
  if parts.any (fun p => p.truth? == some false) then .bool false
  else match parts.filter (fun p => p.truth? != some true) with
    | [] => .bool true
    | undecided => .and undecided

def foldOr (parts : List (Term .bool)) : Term .bool :=
  if parts.any (fun p => p.truth? == some true) then .bool true
  else match parts.filter (fun p => p.truth? != some false) with
    | [] => .bool false
    | undecided => .or undecided

mutual
def assign (known : Assignment) : {t : Ty} → Term t → Term t
  | _, .int n => .int n
  | _, .real q => .real q
  | _, .bool b => .bool b
  | _, .var name ty => match known name ty with
    | some v => literal ty v
    | none => .var name ty
  | _, .neg a => foldNeg (assign known a)
  | _, .add a b => foldNumbers Numeric.add .add (assign known a) (assign known b)
  | _, .sub a b => foldNumbers Numeric.sub .sub (assign known a) (assign known b)
  | _, .mul a b => foldNumbers Numeric.mul .mul (assign known a) (assign known b)
  | _, .div a b => foldDiv (assign known a) (assign known b)
  | _, .mod a b => foldMod (assign known a) (assign known b)
  | _, .quot a b => foldQuot (assign known a) (assign known b)
  | _, .toReal a => foldToReal (assign known a)
  | _, .ite c a b => foldIte (assign known c) (assign known a) (assign known b)
  | _, .and parts => foldAnd (assignAll known parts)
  | _, .or parts => foldOr (assignAll known parts)
  | _, .not a => foldNot (assign known a)
  | _, .implies a b => foldImplies (assign known a) (assign known b)
  | _, .eq a b => foldEq (assign known a) (assign known b)
  | _, .distinct a b => foldDistinct (assign known a) (assign known b)
  | _, .lt a b => foldCompare Numeric.lt .lt (assign known a) (assign known b)
  | _, .le a b => foldCompare Numeric.le .le (assign known a) (assign known b)
def assignAll (known : Assignment) : List (Term .bool) → List (Term .bool)
  | [] => []
  | a :: rest => assign known a :: assignAll known rest
end

mutual
def mentions (x : Variable) : {t : Ty} → Term t → Bool
  | _, .int _ => false
  | _, .real _ => false
  | _, .bool _ => false
  | _, .var name ty => decide (name = x.name ∧ ty = x.ty)
  | _, .neg a => mentions x a
  | _, .add a b => mentions x a || mentions x b
  | _, .sub a b => mentions x a || mentions x b
  | _, .mul a b => mentions x a || mentions x b
  | _, .div a b => mentions x a || mentions x b
  | _, .mod a b => mentions x a || mentions x b
  | _, .quot a b => mentions x a || mentions x b
  | _, .toReal a => mentions x a
  | _, .ite c a b => mentions x c || mentions x a || mentions x b
  | _, .and parts => mentionsAny x parts
  | _, .or parts => mentionsAny x parts
  | _, .not a => mentions x a
  | _, .implies a b => mentions x a || mentions x b
  | _, .eq a b => mentions x a || mentions x b
  | _, .distinct a b => mentions x a || mentions x b
  | _, .lt a b => mentions x a || mentions x b
  | _, .le a b => mentions x a || mentions x b
def mentionsAny (x : Variable) : List (Term .bool) → Bool
  | [] => false
  | a :: rest => mentions x a || mentionsAny x rest
end

end Term

end Covenant
