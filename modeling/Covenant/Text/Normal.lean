import Covenant.Text.Runs
import Covenant.Text.NormalTable
import Std.Data.HashMap

namespace Covenant.Text

def expansionEntries (first length : Nat) (codes : List Nat) (size : Nat) : List (Nat × List Nat) :=
  (List.range size).map fun i => (first + i, (codes.drop (length * i)).take length)

def expansionsFrom : Nat → Nat → List Nat → List (Nat × List Nat)
  | fuel + 1, start, gap :: size :: length :: rest =>
    expansionEntries (start + gap) length rest size ++
      expansionsFrom fuel (start + gap + size) (rest.drop (length * size))
  | _, _, _ => []

def shiftEntries (first : Nat) (target : List Nat) (count : Nat) : List (Nat × List Nat) :=
  (List.range count).map fun i => (first + i, target.map (· + i))

def shiftsFrom : Nat → Nat → List Nat → List (Nat × List Nat)
  | fuel + 1, start, gap :: count :: length :: rest =>
    shiftEntries (start + gap) (rest.take length) count ++ shiftsFrom fuel (start + gap + count) (rest.drop length)
  | _, _, _ => []

def shortNumbers (table : String) : List Nat :=
  (table.splitOn " ").map fun word =>
    word.toList.foldl (fun n c => 36 * n + if c.isDigit then c.toNat - 48 else c.toNat - 87) 0

def expansions : Std.HashMap Nat (List Nat) :=
  let listed := shortNumbers expansionTable
  let shifted := numbers shiftTable
  Std.HashMap.ofList (expansionsFrom listed.length 0 listed ++ shiftsFrom shifted.length 0 shifted)

def pairUp (first : Nat) : List Nat → List ((Nat × Nat) × Nat)
  | second :: composite :: rest => ((first, second), composite) :: pairUp first rest
  | _ => []

def pairsFrom : Nat → List Nat → List ((Nat × Nat) × Nat)
  | fuel + 1, first :: size :: rest =>
    pairUp first (rest.take (2 * size)) ++ pairsFrom fuel (rest.drop (2 * size))
  | _, _ => []

def addComposite (known : Std.HashMap (Nat × Nat) Nat) (code : Nat) : Std.HashMap (Nat × Nat) Nat :=
  match expansions.getD code [] with
  | [] => known
  | first :: marks =>
    match marks.dropLast.foldlM (fun base mark => known.get? (base, mark)) first, marks.getLast? with
    | some base, some mark => known.insert (base, mark) code
    | _, _ => known

/-- The composites of pairs; shorter expansions come first, so that longer ones are built on them. -/
def composites : Std.HashMap (Nat × Nat) Nat :=
  let codes := (runs compositeTable).flatMap fun run => List.range' run.first (run.last + 1 - run.first)
  let data := numbers pairTable
  let ordered := (List.range 5).flatMap fun length =>
    codes.filter fun code => (expansions.getD code []).length == length
  ordered.foldl addComposite (Std.HashMap.ofList (pairsFrom data.length data))

def classesFrom : Nat → List Nat → List (Nat × Nat)
  | start, gap :: count :: cls :: rest =>
    ((List.range count).map fun i => (start + gap + i, cls)) ++ classesFrom (start + gap + count) rest
  | _, _ => []

def combiningClasses : Std.HashMap Nat Nat :=
  Std.HashMap.ofList (classesFrom 0 (numbers classTable))

def combiningClass (code : Nat) : Nat :=
  combiningClasses.getD code 0

/-! ## Hangul syllables

A syllable is a leading consonant, a vowel and perhaps a trailing consonant; its code point is computed. -/

def syllableBase : Nat := 0xAC00
def leadBase : Nat := 0x1100
def vowelBase : Nat := 0x1161
def trailBase : Nat := 0x11A7
def vowelCount : Nat := 21
def trailCount : Nat := 28
def syllableCount : Nat := 19 * vowelCount * trailCount

def isSyllable (code : Nat) : Bool :=
  syllableBase ≤ code && code < syllableBase + syllableCount

def expandSyllable (code : Nat) : List Nat :=
  let i := code - syllableBase
  let trail := i % trailCount
  [leadBase + i / (vowelCount * trailCount), vowelBase + i % (vowelCount * trailCount) / trailCount] ++
    (if trail = 0 then [] else [trailBase + trail])

def composeSyllable? (first second : Nat) : Option Nat :=
  if leadBase ≤ first ∧ first < leadBase + 19 ∧ vowelBase ≤ second ∧ second < vowelBase + vowelCount then
    some (syllableBase + ((first - leadBase) * vowelCount + (second - vowelBase)) * trailCount)
  else if isSyllable first ∧ (first - syllableBase) % trailCount = 0 ∧
      trailBase < second ∧ second < trailBase + trailCount then
    some (first + (second - trailBase))
  else none

/-! ## The three steps -/

def expand (code : Nat) : List Nat :=
  if isSyllable code then expandSyllable code else expansions.getD code [code]

def insertMark (code : Nat) : List Nat → List Nat
  | [] => [code]
  | last :: before =>
    if combiningClass code ≠ 0 ∧ combiningClass code < combiningClass last then
      last :: insertMark code before
    else code :: last :: before

def sortMarks (codes : List Nat) : List Nat :=
  (codes.foldl (fun done code => insertMark code done) []).reverse

def compose? (first second : Nat) : Option Nat :=
  (composeSyllable? first second).or (composites.get? (first, second))

/-- Composes onto `base`; `marks` are the characters after it that did not compose, last first. -/
def composeOnto (base : Nat) (marks : List Nat) : List Nat → List Nat
  | [] => base :: marks.reverse
  | code :: rest =>
    let blocked := match marks with
      | [] => false
      | last :: _ => combiningClass code ≤ combiningClass last
    match if blocked then none else compose? base code with
    | some composite => composeOnto composite marks rest
    | none =>
      if combiningClass code = 0 then base :: marks.reverse ++ composeOnto code [] rest
      else composeOnto base (code :: marks) rest

def composeAll : List Nat → List Nat
  | [] => []
  | code :: rest => composeOnto code [] rest

def normalForm (s : String) : String :=
  if s.toList.all (·.toNat < 128) then s
  else
    let codes := s.toList.flatMap fun c => expand c.toNat
    String.ofList ((composeAll (sortMarks codes)).map Char.ofNat)

end Covenant.Text
