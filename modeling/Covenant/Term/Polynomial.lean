namespace Covenant

/-- The coefficients, that of the constant first. -/
abbrev Polynomial := List Int

namespace Polynomial

def value (p : Polynomial) (x : Int) : Int :=
  p.foldr (fun c v => c + x * v) 0

def add : Polynomial → Polynomial → Polynomial
  | [], q => q
  | p, [] => p
  | a :: p, b :: q => (a + b) :: add p q

def shift (p : Polynomial) : Polynomial :=
  p.foldr (fun c v => add [c] (add v (0 :: v))) []

def difference (p : Polynomial) : Polynomial :=
  (add p.shift (p.map (- ·))).take (p.length - 1)

/-- No change of sign is further away from zero. -/
def reach (p : Polynomial) : Int :=
  p.foldl (fun n c => n + c.natAbs) 2

/-- The numbers after `low` up to `high` whose sign is not that of the number before, for a polynomial that only rises
or only falls there. -/
def changesBetween (p : Polynomial) : Nat → (low high : Int) → List Int
  | 0, _, _ => []
  | fuel + 1, low, high =>
    if high ≤ low ∨ (p.value low).sign = (p.value high).sign then []
    else if high = low + 1 then [high]
    else
      let middle := (low + high) / 2
      changesBetween p fuel low middle ++ changesBetween p fuel middle high

def changesAlong (p : Polynomial) (low : Int) : List Int → List Int
  | [] => []
  | high :: rest => changesBetween p ((high - low).toNat.log2 + 2) low high ++ changesAlong p high rest

/-- The numbers whose sign is not that of the number before, in ascending order; `degree` bounds the degree. -/
def changes : (degree : Nat) → Polynomial → List Int
  | 0, _ => []
  | degree + 1, p =>
    let turns := (changes degree p.difference).filter fun x => x.natAbs < p.reach
    changesAlong p (-p.reach) (turns ++ [p.reach])

def corners (p : Polynomial) : List Int :=
  (p.changes (p.length - 1)).flatMap fun x => [x - 1, x]

end Polynomial

end Covenant
