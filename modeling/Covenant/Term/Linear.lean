import Covenant.Term.Basic

namespace Covenant

structure Unknown where
  id : Nat
  kind : Numeric
deriving Repr, DecidableEq

/-- A sum of multiples of unknowns and a number. Every unknown occurs once and its factor is not zero. -/
structure Linear where
  parts : List (Unknown × Rat) := []
  constant : Rat := 0
deriving Repr, DecidableEq

namespace Linear

def number (q : Rat) : Linear := ⟨[], q⟩

def unknown (x : Unknown) : Linear := ⟨[(x, 1)], 0⟩

def factor (s : Linear) (x : Unknown) : Rat :=
  (s.parts.lookup x).getD 0

def isNumber (s : Linear) : Bool := s.parts.isEmpty

def addPart (x : Unknown) (c : Rat) : List (Unknown × Rat) → List (Unknown × Rat)
  | [] => if c = 0 then [] else [(x, c)]
  | (y, d) :: rest =>
    if y = x then (if c + d = 0 then rest else (y, c + d) :: rest) else (y, d) :: addPart x c rest

def scale (c : Rat) (s : Linear) : Linear :=
  if c = 0 then number 0 else ⟨s.parts.map fun (x, d) => (x, c * d), c * s.constant⟩

def add (s t : Linear) : Linear :=
  ⟨t.parts.foldl (fun parts (x, c) => addPart x c parts) s.parts, s.constant + t.constant⟩

def sub (s t : Linear) : Linear := s.add (t.scale (-1))

def drop (s : Linear) (x : Unknown) : Linear :=
  ⟨s.parts.filter fun part => part.1 ≠ x, s.constant⟩

def replace (s : Linear) (x : Unknown) (t : Linear) : Linear :=
  (s.drop x).add (t.scale (s.factor x))

def isWhole (s : Linear) : Bool := s.parts.all fun part => part.1.kind = .int

def value (s : Linear) (values : List (Unknown × Rat)) : Rat :=
  s.parts.foldl (fun total (x, c) => total + c * (values.lookup x).getD 0) s.constant

def primitive (s : Linear) : Linear :=
  let common : Nat := s.parts.foldl (fun n part => Nat.lcm n part.2.den) 1
  let divisor : Nat := s.parts.foldl (fun n part => Nat.gcd n (part.2 * Rat.ofInt common).num.natAbs) 0
  if divisor = 0 then s else s.scale (Rat.ofInt common / Rat.ofInt divisor)

end Linear

inductive Relation where
  | eq
  | le
  | lt
deriving Repr, DecidableEq

structure Constraint where
  relation : Relation
  sum : Linear
deriving Repr, DecidableEq

namespace Constraint

def holdsAtZero (r : Relation) (q : Rat) : Bool :=
  match r with
  | .eq => q = 0
  | .le => q ≤ 0
  | .lt => q < 0

/-- A constraint over whole numbers with whole factors and the strongest number that means the same; nothing if
it cannot hold. -/
def tightened (c : Constraint) : Option Constraint :=
  if !c.sum.isWhole || c.sum.isNumber then some c
  else
    let s := c.sum.primitive
    match c.relation with
    | .eq => if s.constant.den = 1 then some ⟨.eq, s⟩ else none
    | .le => some ⟨.le, { s with constant := s.constant.ceil }⟩
    | .lt => some ⟨.le, { s with constant := s.constant.floor + 1 }⟩

def settle : List Constraint → Option (List Constraint)
  | [] => some []
  | c :: rest => do
    let c ← c.tightened
    let rest ← settle rest
    if c.sum.isNumber then (if holdsAtZero c.relation c.sum.constant then some rest else none)
    else some (c :: rest)

def replaceAll (x : Unknown) (t : Linear) (cs : List Constraint) : List Constraint :=
  cs.map fun c => { c with sum := c.sum.replace x t }

def takeEquation : List Constraint → Option (Linear × List Constraint)
  | [] => none
  | c :: rest =>
    if c.relation = .eq then some (c.sum, rest)
    else (takeEquation rest).map fun (s, others) => (s, c :: others)

def firstUnknown (kind : Numeric) (cs : List Constraint) : Option Unknown :=
  cs.findSome? fun c => (c.sum.parts.find? fun part => part.1.kind = kind).map (·.1)

/-- An unknown whose factors are all one or minus one is eliminated exactly. -/
def easyUnknown (cs : List Constraint) : Option Unknown :=
  let unknowns := cs.flatMap fun c => c.sum.parts.map (·.1)
  unknowns.find? fun x => cs.all fun c => (c.sum.factor x).num.natAbs ≤ 1 && (c.sum.factor x).den = 1

def freshId (cs : List Constraint) : Nat :=
  cs.foldl (fun n c => c.sum.parts.foldl (fun n part => max n (part.1.id + 1)) n) 0

structure Bound where
  factor : Rat
  sum : Linear
  strict : Bool

def strictly (b : Bool) : Relation := if b then .lt else .le

/-- The lower bounds, the upper bounds and the constraints without the unknown. In a lower bound the factor times
the unknown is at least the sum, in an upper bound at most. -/
def bounds (x : Unknown) : List Constraint → List Bound × List Bound × List Constraint
  | [] => ([], [], [])
  | c :: rest =>
    let (lowers, uppers, others) := bounds x rest
    let a := c.sum.factor x
    let strict := c.relation == .lt
    if a = 0 then (lowers, uppers, c :: others)
    else if a < 0 then (⟨-a, c.sum.drop x, strict⟩ :: lowers, uppers, others)
    else (lowers, ⟨a, (c.sum.drop x).scale (-1), strict⟩ :: uppers, others)

def compareBounds (lowers uppers : List Bound) (gap : Rat → Rat → Rat) : List Constraint :=
  lowers.flatMap fun l => uppers.map fun u =>
    let difference := (l.sum.scale u.factor).sub (u.sum.scale l.factor)
    ⟨strictly (l.strict || u.strict), difference.add (.number (gap l.factor u.factor))⟩

def greatest (values : List (Rat × Bool)) : Option (Rat × Bool) :=
  values.foldl (fun best (q, strict) => match best with
    | none => some (q, strict)
    | some (p, s) => if p < q then some (q, strict) else if p = q then some (p, s || strict) else some (p, s)) none

def least (values : List (Rat × Bool)) : Option (Rat × Bool) :=
  (greatest (values.map fun (q, s) => (-q, s))).map fun (q, s) => (-q, s)

def between (low high : Option (Rat × Bool)) : Rat :=
  match low, high with
  | none, none => 0
  | some (l, s), none => if s then l + 1 else l
  | none, some (h, s) => if s then h - 1 else h
  | some (l, s), some (h, _) => if s then (l + h) / 2 else l

def wholeBetween (low high : Option (Rat × Bool)) : Rat :=
  match low, high with
  | some (l, _), _ => l.ceil
  | none, some (h, _) => h.floor
  | none, none => 0

def boundValues (bs : List Bound) (values : List (Unknown × Rat)) : List (Rat × Bool) :=
  bs.map fun b => (b.sum.value values / b.factor, b.strict)

def extend (x : Unknown) (lowers uppers : List Bound) (values : List (Unknown × Rat)) : List (Unknown × Rat) :=
  let low := greatest (boundValues lowers values)
  let high := least (boundValues uppers values)
  (x, if x.kind = .int then wholeBetween low high else between low high) :: values

/-- Values that satisfy the constraints, if there are any. `fuel` bounds the number of eliminations. -/
def model? : Nat → List Constraint → Option (List (Unknown × Rat))
  | 0, _ => none
  | fuel + 1, cs => do
    let cs ← settle cs
    match takeEquation cs with
    | some (s, others) =>
      let real := s.parts.find? fun part => part.1.kind = .real
      let unit := s.parts.find? fun part => part.2 = 1 || part.2 = -1
      match real.or unit with
      | some (x, a) =>
        let t := (s.drop x).scale (-1 / a)
        let values ← model? fuel (replaceAll x t others)
        return (x, t.value values) :: values
      | none =>
        -- no factor is one: a new unknown makes the other factors smaller than the smallest
        match s.parts.foldl (fun best part => match best with
            | none => some part
            | some (y, d) => if part.2.num.natAbs < d.num.natAbs then some part else some (y, d))
            (none : Option (Unknown × Rat)) with
        | none => model? fuel others
        | some (x, a) =>
          let y : Unknown := ⟨freshId cs, .int⟩
          let quotients : Linear := ⟨(s.drop x).parts.map fun (z, c) => (z, Rat.ofInt (c.num / a.num)), 0⟩
          let quotients := ⟨quotients.parts.filter fun part => part.2 ≠ 0, 0⟩
          let t := (Linear.unknown y).sub quotients
          let values ← model? fuel (replaceAll x t cs)
          return (x, t.value values) :: values
    | none =>
      match firstUnknown .real cs with
      | some x =>
        let (lowers, uppers, others) := bounds x cs
        let values ← model? fuel (compareBounds lowers uppers (fun _ _ => 0) ++ others)
        return extend x lowers uppers values
      | none =>
        match (easyUnknown cs).or (firstUnknown .int cs) with
        | none => return []
        | some x =>
          let (lowers, uppers, others) := bounds x cs
          let room := compareBounds lowers uppers (fun a b => (a - 1) * (b - 1)) ++ others
          match model? fuel room with
          | some values => return extend x lowers uppers values
          | none =>
            let exact := lowers.all (fun l => l.factor = 1) || uppers.all (fun u => u.factor = 1)
            if exact then none
            else
              let widest := uppers.foldl (fun m u => max m u.factor) 1
              lowers.findSome? fun l =>
                let steps := ((l.factor * widest - l.factor - widest) / widest).floor.toNat
                (List.range (steps + 1)).findSome? fun i =>
                  let s := ((Linear.unknown x).scale l.factor).sub (l.sum.add (.number i))
                  model? fuel (⟨.eq, s⟩ :: cs)

end Constraint

end Covenant
