namespace Covenant.Text

structure Run where
  first : Nat
  last : Nat
deriving Repr, DecidableEq

def Run.holds (run : Run) (code : Nat) : Bool :=
  run.first ≤ code && code ≤ run.last

def runsFrom : Nat → List Nat → List Run
  | start, gap :: length :: rest =>
    ⟨start + gap, start + gap + length - 1⟩ :: runsFrom (start + gap + length) rest
  | _, _ => []

def numbers (table : String) : List Nat :=
  (table.splitOn " ").filterMap String.toNat?

def runs (table : String) : List Run :=
  runsFrom 0 (numbers table)

def inRuns (table : List Run) (code : Nat) : Bool :=
  table.any (·.holds code)

end Covenant.Text
