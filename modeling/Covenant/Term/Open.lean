import Covenant.Term.Assign
import Covenant.Term.Linear
import Covenant.Term.Polynomial

/-!
# Open terms

Terms that are left with unknowns after all bounded variables have been fixed. They are explored case by case:
every case assumes linear constraints, and in it a term has a truth value or a linear form. A product of unknowns is an
unknown itself; when all else is assumed, values of its whole factors are tried out. A division by zero is an unknown
for each numerator, and equal numerators share it.
-/

namespace Covenant

inductive ZeroDivision where
  | div
  | mod
  | quot
deriving Repr, DecidableEq

structure Case where
  constraints : List Constraint := []
  truths : List (String × Bool) := []
  unknowns : List (Variable × Unknown) := []
  /-- The factors of the unknowns that are products, in ascending order. -/
  products : List (Unknown × List Unknown) := []
  quotients : List ((Linear × Linear) × (Unknown × Unknown)) := []
  divisions : List ((ZeroDivision × Linear) × Unknown) := []
  next : Nat := 0

namespace Case

def eliminationLimit : Nat := 400

def model? (c : Case) : Option (List (Unknown × Rat)) :=
  Constraint.model? eliminationLimit c.constraints

def fresh (c : Case) (kind : Numeric) : Unknown × Case :=
  (⟨c.next, kind⟩, { c with next := c.next + 1 })

/-! ## Products -/

def factors (c : Case) (x : Unknown) : List Unknown :=
  (c.products.lookup x).getD [x]

def insertFactor (x : Unknown) : List Unknown → List Unknown
  | [] => [x]
  | y :: rest => if x.id ≤ y.id then x :: y :: rest else y :: insertFactor x rest

def productOf (c : Case) (factors : List Unknown) : Linear × Case :=
  match factors with
  | [] => (.number 1, c)
  | [x] => (.unknown x, c)
  | factors =>
    match c.products.find? fun entry => entry.2 = factors with
    | some (x, _) => (.unknown x, c)
    | none =>
      let (x, c) := c.fresh (if factors.all (·.kind = .int) then .int else .real)
      (.unknown x, { c with products := (x, factors) :: c.products })

def timesPart (c : Case) (s : Linear) (x : Unknown) (a : Rat) : Linear × Case :=
  s.parts.foldl (fun (total, c) (y, b) =>
    let (t, c) := c.productOf ((c.factors x).foldl (fun ys x => insertFactor x ys) (c.factors y))
    (total.add (t.scale (a * b)), c)) (((Linear.unknown x).scale (a * s.constant)), c)

def times (c : Case) (s t : Linear) : Linear × Case :=
  t.parts.foldl (fun (total, c) (x, a) =>
    let (u, c) := c.timesPart s x a
    (total.add u, c)) (s.scale t.constant, c)

/-! ## Trying out the factors of products -/

def timesPower (c : Case) (s t : Linear) : Nat → Linear × Case
  | 0 => (s, c)
  | n + 1 =>
    let (u, c) := c.times s t
    c.timesPower u t n

def replaceFactor (c : Case) (x : Unknown) (s : Linear) : Case :=
  let (met, others) := c.products.partition fun entry => entry.2.contains x
  let start : Case := { c with
    constraints := Constraint.replaceAll x s c.constraints
    products := others }
  met.foldl (fun (c : Case) (product, factors) =>
    let (t, c) := c.productOf (factors.filter (· ≠ x))
    let (t, c) := c.timesPower t s (factors.count x)
    { c with constraints := Constraint.replaceAll product t c.constraints }) start

def openFactors (c : Case) : List Unknown :=
  (c.products.flatMap fun entry => entry.2.filter (·.kind = .int)).eraseDups

def definition? (c : Case) (x : Unknown) (k : Constraint) : Option Linear :=
  let s := k.sum.primitive
  let others := s.drop x
  let free := others.parts.all fun (y, a) => y.kind = .int && a.den = 1 && !(c.factors y).contains x
  if k.relation = .eq && (s.factor x).num.natAbs = 1 && (s.factor x).den = 1 && free && others.constant.den = 1 then
    some (others.scale (-1 / s.factor x))
  else none

def defined? (c : Case) : Option (Unknown × Linear) :=
  c.openFactors.findSome? fun x => (c.constraints.findSome? (c.definition? x)).map (x, ·)

def power? (c : Case) (x y : Unknown) : Option Nat :=
  let factors := c.factors y
  if factors.all (· = x) then some factors.length else none

def polynomial? (c : Case) (x : Unknown) (s : Linear) : Option Polynomial := do
  let powers ← s.parts.mapM fun (y, a) => do return ((← c.power? x y), a)
  let common : Nat := powers.foldl (fun n power => Nat.lcm n power.2.den) s.constant.den
  let coefficient (q : Rat) : Int := (q * Rat.ofInt common).num
  return powers.foldl (fun p (n, a) => p.add (List.replicate n 0 ++ [coefficient a])) [coefficient s.constant]

def conditions (c : Case) (x : Unknown) : List (Relation × Polynomial) :=
  c.constraints.filterMap fun k => (c.polynomial? x k.sum).map (k.relation, ·)

def meets (v : Int) (conditions : List (Relation × Polynomial)) : Bool :=
  conditions.all fun (r, p) => Constraint.holdsAtZero r (Rat.ofInt (p.value v))

def nearReach : Nat := 40
def farReach : Nat := 1000

/-- Remainders repeat at the latest after a common multiple of the divisors. -/
def tryReach (c : Case) : Nat :=
  let period := c.quotients.foldl (fun n entry => Nat.lcm n (max 1 entry.1.2.constant.floor.natAbs)) 1
  max nearReach (min farReach period)

def sizes : List Int := (List.range 24).flatMap fun i => [Int.pow 2 i, -Int.pow 2 i]

/-- The values to try for a whole factor: those near zero and near the places where one of its conditions begins or
ceases to hold, and some of every size, as far as they meet all conditions. -/
def candidates (c : Case) (x : Unknown) : List Int :=
  let conditions := c.conditions x
  let corners := (0 :: conditions.flatMap fun (_, p) => p.corners).eraseDups
  let reach := c.tryReach
  let near := corners.flatMap fun v => (List.range (2 * reach + 1)).map fun i => v + Int.ofNat i - reach
  (corners ++ near ++ sizes).eraseDups.filter fun v => meets v conditions

def choice? (c : Case) : Option (Unknown × List Int) :=
  (c.openFactors.map fun x => (x, c.candidates x)).foldl (fun best (x, vs) => match best with
    | none => some (x, vs)
    | some (y, ws) => if vs.length < ws.length then some (x, vs) else some (y, ws)) none

/-- A case with a solution in which no whole factor of a product is open. `fuel` bounds the number of steps: a factor
that an equation defines is replaced, and of another one values are tried. Products of fractions stay free. -/
def resolved? : Nat → Case → Option Case
  | 0, _ => none
  | fuel + 1, c =>
    if c.model?.isNone then none
    else match c.defined? with
      | some (x, s) => resolved? fuel (c.replaceFactor x s)
      | none =>
        match c.choice? with
        | none => some c
        | some (x, values) =>
          values.findSome? fun v => resolved? fuel (c.replaceFactor x (.number (Rat.ofInt v)))

def resolutionLimit : Nat := 100

end Case

/-- A computation that splits into cases, which are tried in order until what follows finds a solution. -/
def Cases (α : Type) := Case → (α → Case → Option Case) → Option Case

namespace Cases

def pure (a : α) : Cases α := fun c rest => rest a c

def bind (m : Cases α) (f : α → Cases β) : Cases β := fun c rest => m c fun a c => f a c rest

instance : Monad Cases where
  pure := Cases.pure
  bind := Cases.bind

def either (m n : Cases α) : Cases α := fun c rest => (m c rest).orElse fun _ => n c rest

def never : Cases α := fun _ _ => none

def step (f : Case → α × Case) : Cases α := fun c rest => let (a, c) := f c; rest a c

def require (r : Relation) (s : Linear) : Cases Unit := fun c rest =>
  if s.isNumber then (if Constraint.holdsAtZero r s.constant then rest () c else none)
  else
    let c := { c with constraints := ⟨r, s⟩ :: c.constraints }
    if c.model?.isSome then rest () c else none

def fresh (kind : Numeric) : Cases Unknown := step (·.fresh kind)

def unknownOf (x : Variable) (kind : Numeric) : Cases Linear := step fun c =>
  match c.unknowns.lookup x with
  | some u => (.unknown u, c)
  | none =>
    let (u, c) := c.fresh kind
    (.unknown u, { c with unknowns := (x, u) :: c.unknowns })

def truthOf (name : String) : Cases Bool := fun c rest =>
  match c.truths.lookup name with
  | some b => rest b c
  | none => [false, true].findSome? fun b => rest b { c with truths := (name, b) :: c.truths }

def isEqual (s t : Linear) : Cases Bool :=
  let d := s.sub t
  either (do require .eq d; Cases.pure true)
    (either (do require .lt d; Cases.pure false) (do require .lt (d.scale (-1)); Cases.pure false))

def isLess (s t : Linear) : Cases Bool :=
  let d := s.sub t
  either (do require .lt d; Cases.pure true) (do require .le (d.scale (-1)); Cases.pure false)

def isAtMost (s t : Linear) : Cases Bool :=
  let d := s.sub t
  either (do require .le d; Cases.pure true) (do require .lt (d.scale (-1)); Cases.pure false)

def product (s t : Linear) : Cases Linear := step (·.times s t)

/-- The value of a division by zero: equal numerators give equal values. -/
def atZero (op : ZeroDivision) (n : Linear) : Cases Linear := fun c rest =>
  match c.divisions.lookup (op, n) with
  | some u => rest (.unknown u) c
  | none =>
    let earlier := c.divisions.filter fun entry => entry.1.1 = op
    let shared : Cases Linear := earlier.foldr (fun ((_, m), u) others =>
      either (do require .eq (n.sub m); Cases.pure (.unknown u)) others) never
    let apart : Cases Unit := earlier.foldr (fun ((_, m), _) others => do
      if ← isEqual n m then never else others) (Cases.pure ())
    let own : Cases Linear := do
      apart
      let u ← fresh (if op = .quot then .real else .int)
      step fun c => (.unknown u, { c with divisions := ((op, n), u) :: c.divisions })
    either shared own c rest

def divided (n d size : Linear) : Cases (Linear × Linear) := fun c rest =>
  let numbers : Int × Int := (n.constant.floor, d.constant.floor)
  if n.isNumber && d.isNumber then
    rest (.number (Rat.ofInt (numbers.1 / numbers.2)), .number (Rat.ofInt (numbers.1 % numbers.2))) c
  else match c.quotients.lookup (n, d) with
    | some (q, r) => rest (.unknown q, .unknown r) c
    | none => (do
        let q ← fresh .int
        let r ← fresh .int
        require .le ((Linear.unknown r).scale (-1))
        require .lt ((Linear.unknown r).sub size)
        require .eq (((← product (.unknown q) d).add (.unknown r)).sub n)
        step fun c => ((Linear.unknown q, Linear.unknown r),
          { c with quotients := ((n, d), (q, r)) :: c.quotients })) c rest

def wholeDivision (op : ZeroDivision) (n d : Linear) : Cases Linear := do
  if ← isEqual d (.number 0) then atZero op n
  else
    let (q, r) ← if ← isLess (.number 0) d then divided n d d else divided n d (d.scale (-1))
    if op = .mod then return r else return q

def exactDivision (n d : Linear) : Cases Linear := do
  if ← isEqual d (.number 0) then atZero .quot n
  else if d.isNumber then return n.scale (1 / d.constant)
  else
    let q ← fresh .real
    require .eq ((← product (.unknown q) d).sub n)
    return .unknown q

end Cases

abbrev Ty.Reading : Ty → Type
  | .bool => Bool
  | .num _ => Linear

namespace Term

def sameReading : {t : Ty} → t.Reading → t.Reading → Cases Bool
  | .bool, a, b => Cases.pure (decide ((a : Bool) = b))
  | .num _, a, b => Cases.isEqual a b

def readVariable (name : String) : (ty : Ty) → Cases ty.Reading
  | .bool => Cases.truthOf name
  | .num k => Cases.unknownOf ⟨name, .num k⟩ k

mutual
def explore : {t : Ty} → Term t → Cases t.Reading
  | _, .int n => Cases.pure (.number (Rat.ofInt n))
  | _, .real q => Cases.pure (.number q)
  | _, .bool b => Cases.pure b
  | _, .var name ty => readVariable name ty
  | _, .neg a => do
    let s : Linear ← explore a
    return s.scale (-1)
  | _, .add a b => do
    let s : Linear ← explore a
    let t : Linear ← explore b
    return s.add t
  | _, .sub a b => do
    let s : Linear ← explore a
    let t : Linear ← explore b
    return s.sub t
  | _, .mul a b => do
    let s : Linear ← explore a
    let t : Linear ← explore b
    Cases.product s t
  | _, .div a b => do
    let s : Linear ← explore a
    let t : Linear ← explore b
    Cases.wholeDivision .div s t
  | _, .mod a b => do
    let s : Linear ← explore a
    let t : Linear ← explore b
    Cases.wholeDivision .mod s t
  | _, .quot a b => do
    let s : Linear ← explore a
    let t : Linear ← explore b
    Cases.exactDivision s t
  | _, .toReal a => do
    let s : Linear ← explore a
    return s
  | _, .ite c a b => do
    let holds : Bool ← explore c
    if holds then explore a else explore b
  | _, .and parts => exploreAll parts
  | _, .or parts => exploreAny parts
  | _, .not a => do
    let holds : Bool ← explore a
    return !holds
  | _, .implies a b => do
    let holds : Bool ← explore a
    if holds then explore b else return true
  | _, .eq a b => do
    let x ← explore a
    let y ← explore b
    sameReading x y
  | _, .distinct a b => do
    let x ← explore a
    let y ← explore b
    let same : Bool ← sameReading x y
    return !same
  | _, .lt a b => do
    let s : Linear ← explore a
    let t : Linear ← explore b
    Cases.isLess s t
  | _, .le a b => do
    let s : Linear ← explore a
    let t : Linear ← explore b
    Cases.isAtMost s t
def exploreAll : List (Term .bool) → Cases Bool
  | [] => Cases.pure true
  | a :: rest => do
    let holds : Bool ← explore a
    if holds then exploreAll rest else return false
def exploreAny : List (Term .bool) → Cases Bool
  | [] => Cases.pure false
  | a :: rest => do
    let holds : Bool ← explore a
    if holds then return true else exploreAny rest
end

def satisfiedCase? (ts : List (Term .bool)) : Option Case :=
  exploreAll ts {} fun holds c => if holds then c.resolved? Case.resolutionLimit else none

end Term

end Covenant
