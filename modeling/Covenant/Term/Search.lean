import Covenant.Term.Enclosure
import Covenant.Term.Open
import Covenant.Term.Solved

/-!
# Search for a solution

The bounded variables are fixed one after another, each to its least value for which a solution is left: false
before true, whole numbers upwards. A part of a range in which a constraint cannot hold is passed over. What then stays
open is explored case by case. A fraction is reported if all solutions with the same whole numbers and truth values
agree on it.
-/

namespace Covenant

namespace Search

structure Range where
  low : Int
  high : Int
deriving Repr, DecidableEq

def settle : List (Term .bool) → Option (List (Term .bool))
  | [] => some []
  | .bool true :: rest => settle rest
  | .bool false :: _ => none
  | c :: rest => (settle rest).map (c :: ·)

def fix (known : Assignment) (constraints : List (Term .bool)) : Option (List (Term .bool)) :=
  settle (Term.assignAll known constraints)

def smallestPart : Nat := 4

/-- The first success for one of `count` numbers from `start` on. A part of them that is not `possible` is passed over;
`fuel` bounds how often a part is halved. -/
def firstWithin (possible : Int → Nat → Bool) (f : Int → Option α) :
    (fuel : Nat) → (start : Int) → (count : Nat) → Option α
  | 0, _, _ => none
  | fuel + 1, start, count =>
    if count = 0 then none
    else if count = 1 then f start
    else if smallestPart ≤ count && !possible start count then none
    else
      let half := count / 2
      match firstWithin possible f fuel start half with
      | some a => some a
      | none => firstWithin possible f fuel (start + half) (count - half)

def Range.size (r : Range) : Nat := (r.high + 1 - r.low).toNat

def Range.box (r : Range) (unknowns : List Variable) : Box := fun name =>
  if unknowns.any fun x => x.name == name && x.ty == .int then some (r.low, r.high) else none

def narrowed (box : Box) (name : String) (start : Int) (count : Nat) : Box := fun other =>
  if other = name then some (start, start + count - 1) else box other

def Range.first (r : Range) (possible : Int → Nat → Bool) (f : (ty : Ty) → ty.Val → Option α) : Ty → Option α
  | .bool => (f .bool false).or (f .bool true)
  | .num .int => firstWithin possible (fun n => f .int n) r.size r.low r.size
  | .num .real => none

def Range.least (r : Range) (f : (ty : Ty) → ty.Val → Option α) : Ty → Option α
  | .bool => f .bool false
  | .num .int => if r.size = 0 then none else f .int r.low
  | .num .real => none

def solved : (ty : Ty) → ty.Val → Solved
  | .bool, b => .truth b
  | .num .int, n => .whole n
  | .num .real, q => .fraction q

/-- The values of the bounded variables in the first solution, and the constraints that they leave. A variable
that no constraint mentions takes its least value. -/
def search (r : Range) : List Variable → List (Term .bool) → Option (List (Variable × Solved) × List (Term .bool))
  | [], constraints =>
    if constraints.isEmpty || (Term.satisfiedCase? constraints).isSome then some ([], constraints) else none
  | ⟨name, ty⟩ :: rest, constraints =>
    let attempt (ty : Ty) (v : ty.Val) :=
      match fix (.single ⟨name, ty⟩ v) constraints with
      | none => none
      | some left => (search r rest left).map fun (values, left) => ((⟨name, ty⟩, solved ty v) :: values, left)
    let possible (start : Int) (count : Nat) : Bool :=
      !Term.refuted (narrowed (r.box rest) name start count) constraints
    if ty = .real then search r rest constraints
    else if Term.mentionsAny ⟨name, ty⟩ constraints then r.first possible attempt ty
    else r.least attempt ty

def valueIn (c : Case) (x : Variable) : Rat :=
  match c.unknowns.lookup x, c.model? with
  | some u, some values => (values.lookup u).getD 0
  | _, _ => 0

def agreed (constraints : List (Term .bool)) (name : String) : Solved :=
  if !Term.mentionsAny ⟨name, .real⟩ constraints then .undetermined
  else match Term.satisfiedCase? constraints with
    | none => .undetermined
    | some c =>
      let q := valueIn c ⟨name, .real⟩
      let other := Term.distinct (.var name .real) (.real q)
      if (Term.satisfiedCase? (constraints ++ [other])).isSome then .undetermined else .fraction q

def report (unknowns : List Variable) (values : List (Variable × Solved)) (constraints : List (Term .bool)) :
    List (String × Solved) :=
  unknowns.map fun x =>
    match values.lookup x with
    | some v => (x.name, v)
    | none => (x.name, agreed constraints x.name)

end Search

def solve (r : Search.Range) (unknowns : List Variable) (constraints : List (Term .bool)) :
    Option (List (String × Solved)) := do
  let folded ← Search.fix .empty constraints
  let (values, left) ← Search.search r unknowns folded
  return Search.report unknowns values left

end Covenant
