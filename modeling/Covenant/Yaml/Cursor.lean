import Covenant.Fault

namespace Covenant.Yaml

def malformed : Fault := ⟨.markup, "<yaml>", []⟩

/-- The line breaks; in the text of a document every other line end has become a newline. -/
def isBreak (c : Char) : Bool :=
  c == '\n' || c == '\x85' || c == '\u2028' || c == '\u2029'

structure Cursor where
  rest : List Char
  index : Nat := 0
  line : Nat := 0
  column : Nat := 0
deriving Inhabited

namespace Cursor

def peek? (c : Cursor) : Option Char := c.rest.head?

def peekAt? (c : Cursor) (distance : Nat) : Option Char := c.rest[distance]?

def atEnd (c : Cursor) : Bool := c.rest.isEmpty

def looksAt (c : Cursor) (char : Char) : Bool := c.peek? == some char

def next (c : Cursor) : Cursor :=
  match c.rest with
  | [] => c
  | x :: rest =>
    if isBreak x then ⟨rest, c.index + 1, c.line + 1, 0⟩
    else if x == '\ufeff' then ⟨rest, c.index + 1, c.line, c.column⟩
    else ⟨rest, c.index + 1, c.line, c.column + 1⟩

def skip (c : Cursor) : Nat → Cursor
  | 0 => c
  | n + 1 => c.next.skip n

def takeWhile (c : Cursor) (p : Char → Bool) : List Char × Cursor :=
  let taken := c.rest.takeWhile p
  (taken, c.skip taken.length)

def skipWhile (c : Cursor) (p : Char → Bool) : Cursor := (c.takeWhile p).2

def skipSpaces (c : Cursor) : Cursor := c.skipWhile (· == ' ')

def takeBreak (c : Cursor) : List Char × Cursor :=
  match c.peek? with
  | some x =>
    if x == '\n' || x == '\x85' then (['\n'], c.next) else if isBreak x then ([x], c.next) else ([], c)
  | none => ([], c)

def breakAt (c : Cursor) (distance : Nat) : Bool :=
  match c.peekAt? distance with
  | none => true
  | some x => isBreak x

def spaceAt (c : Cursor) (distance : Nat) : Bool :=
  c.breakAt distance || c.peekAt? distance == some ' '

def blankAt (c : Cursor) (distance : Nat) : Bool :=
  c.spaceAt distance || c.peekAt? distance == some '\t'

def atSeparator (c : Cursor) : Bool :=
  (c.rest.take 3 == ['-', '-', '-'] || c.rest.take 3 == ['.', '.', '.']) && c.blankAt 3

def finishLine (c : Cursor) : Except Fault Cursor :=
  let c := c.skipSpaces
  let c := if c.looksAt '#' then c.skipWhile (!isBreak ·) else c
  if c.breakAt 0 then .ok c.takeBreak.2 else .error malformed

end Cursor

end Covenant.Yaml
