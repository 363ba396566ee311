import Covenant.Yaml.Cursor

namespace Covenant.Yaml

def folded (first breaks : List Char) : List Char :=
  if first != ['\n'] then first ++ breaks
  else if breaks.isEmpty then [' ']
  else breaks

/-! ## Plain scalars -/

structure Plain where
  text : List Char
  cursor : Cursor
  lineEnded : Bool

def flowIndicators : List Char := [',', '?', '[', ']', '\x7b', '\x7d']

def isBlankChar (c : Char) : Bool := c == ' ' || c == '\t' || isBreak c

def endsAtColon (inFlow : Bool) : Option Char → Bool
  | none => true
  | some next => isBlankChar next || (inFlow && [',', '[', ']', '\x7b', '\x7d'].contains next)

def plainPart (inFlow : Bool) : List Char → List Char
  | [] => []
  | c :: cs =>
    if isBlankChar c || (c == ':' && endsAtColon inFlow cs.head?) || (inFlow && flowIndicators.contains c) then []
    else c :: plainPart inFlow cs

def emptyLines : Nat → Cursor → List Char → Cursor × Option (List Char)
  | 0, c, breaks => (c, some breaks)
  | fuel + 1, c, breaks =>
    if c.looksAt ' ' then emptyLines fuel c.next breaks
    else match c.takeBreak with
      | ([], _) => (c, some breaks)
      | (found, c) => if c.atSeparator then (c, none) else emptyLines fuel c (breaks ++ found)

def plainBlanks (c : Cursor) : Plain :=
  let (spaces, c) := c.takeWhile (· == ' ')
  match c.takeBreak with
  | ([], _) => ⟨spaces, c, false⟩
  | (first, c) =>
    if c.atSeparator then ⟨[], c, true⟩
    else match emptyLines (c.rest.length + 1) c [] with
      | (c, none) => ⟨[], c, true⟩
      | (c, some breaks) => ⟨folded first breaks, c, true⟩

def plainParts (inFlow : Bool) (indent : Nat) : Nat → Plain → List Char → Plain
  | 0, done, _ => done
  | fuel + 1, done, blanks =>
    if done.cursor.looksAt '#' then done
    else
      let part := plainPart inFlow done.cursor.rest
      if part.isEmpty then done
      else
        let after := plainBlanks (done.cursor.skip part.length)
        let done : Plain := ⟨done.text ++ blanks ++ part, after.cursor, after.lineEnded⟩
        if after.text.isEmpty || (!inFlow && done.cursor.column < indent) then done
        else plainParts inFlow indent fuel done after.text

/-- The plain scalar at the cursor. Outside brackets its lines are indented by at least `indent`. -/
def plain (inFlow : Bool) (indent : Nat) (c : Cursor) : Plain :=
  plainParts inFlow indent (c.rest.length + 1) ⟨[], c, false⟩ []

/-! ## Quoted scalars -/

def quotedBreaks : Nat → Cursor → List Char → Except Fault (List Char × Cursor)
  | 0, _, _ => .error malformed
  | fuel + 1, c, breaks =>
    if c.atSeparator then .error malformed
    else
      let c := c.skipWhile fun x => x == ' ' || x == '\t'
      match c.takeBreak with
      | ([], _) => .ok (breaks, c)
      | (found, c) => quotedBreaks fuel c (breaks ++ found)

def quotedBlanks (c : Cursor) : Except Fault (List Char × Cursor) :=
  let (spaces, c) := c.takeWhile fun x => x == ' ' || x == '\t'
  if c.atEnd then .error malformed
  else match c.takeBreak with
    | ([], _) => .ok (spaces, c)
    | (first, c) => do
      let (breaks, c) ← quotedBreaks (c.rest.length + 1) c []
      return (folded first breaks, c)

def escapes : List (Char × Char) :=
  [('0', '\x00'), ('a', '\x07'), ('b', '\x08'), ('t', '\x09'), ('\t', '\x09'), ('n', '\x0a'), ('v', '\x0b'),
   ('f', '\x0c'), ('r', '\x0d'), ('e', '\x1b'), (' ', ' '), ('"', '"'), ('\\', '\\'), ('/', '/'), ('N', '\x85'),
   ('_', '\xa0'), ('L', '\u2028'), ('P', '\u2029')]

def codeLengths : List (Char × Nat) := [('x', 2), ('u', 4), ('U', 8)]

def hexDigit? (c : Char) : Option Nat :=
  if c.isDigit then some (c.toNat - 48)
  else if 'a' ≤ c && c ≤ 'f' then some (c.toNat - 87)
  else if 'A' ≤ c && c ≤ 'F' then some (c.toNat - 55)
  else none

def hexNumber? (length : Nat) (cs : List Char) : Option Nat :=
  if cs.length < length then none
  else (cs.take length).foldlM (fun n c => (hexDigit? c).map (16 * n + ·)) 0

def paired? (high low : Nat) : Option Nat :=
  if 0xD800 ≤ high && high < 0xDC00 && 0xDC00 ≤ low && low < 0xE000 then
    some (0x10000 + (high - 0xD800) * 0x400 + (low - 0xDC00))
  else none

def secondHalf? : List Char → Option Nat
  | '\\' :: 'u' :: rest => hexNumber? 4 rest
  | _ => none

/-- The character with a code. A half of a pair that stands alone is none, and no text can hold it. -/
def charOfCode (code : Nat) : Except Fault Char :=
  if code.isValidChar then .ok (Char.ofNat code)
  else if code < 0x110000 then .error malformed
  else if code < 0x80000000 then .error ⟨.value, "chr() arg not in range(0x110000)", []⟩
  else .error ⟨.overflow, "Python int too large to convert to C int", []⟩

def escaped (c : Cursor) : Except Fault (List Char × Cursor) :=
  match c.peek? with
  | none => .error malformed
  | some x =>
    match escapes.lookup x, codeLengths.lookup x with
    | some y, _ => .ok ([y], c.next)
    | none, some length =>
      match hexNumber? length c.next.rest with
      | none => .error malformed
      | some code =>
        let after := c.next.skip length
        match (secondHalf? after.rest).bind (paired? code) with
        | some whole => do return ([← charOfCode whole], after.skip 6)
        | none => do return ([← charOfCode code], after)
    | none, none =>
      match c.takeBreak with
      | ([], _) => .error malformed
      | (_, c) => quotedBreaks (c.rest.length + 1) c []

def quotedParts (double : Bool) : Nat → Cursor → List Char → Except Fault (List Char × Cursor)
  | 0, _, _ => .error malformed
  | fuel + 1, c, done =>
    match c.peek? with
    | none => .error malformed
    | some '\'' =>
      if double then quotedParts double fuel c.next (done ++ ['\''])
      else if c.peekAt? 1 == some '\'' then quotedParts double fuel (c.skip 2) (done ++ ['\''])
      else .ok (done, c.next)
    | some '"' => if double then .ok (done, c.next) else quotedParts double fuel c.next (done ++ ['"'])
    | some '\\' =>
      if double then do
        let (chars, c) ← escaped c.next
        quotedParts double fuel c (done ++ chars)
      else quotedParts double fuel c.next (done ++ ['\\'])
    | some x =>
      if isBlankChar x then do
        let (blanks, c) ← quotedBlanks c
        quotedParts double fuel c (done ++ blanks)
      else
        let (chars, c) := c.takeWhile fun y => !(isBlankChar y || y == '\'' || y == '"' || y == '\\')
        quotedParts double fuel c (done ++ chars)

def quotedScalar (double : Bool) (c : Cursor) : Except Fault (List Char × Cursor) :=
  quotedParts double (c.rest.length + 1) c.next []

/-! ## Block scalars -/

inductive Chomping where
  | strip
  | clip
  | keep
deriving Repr, DecidableEq

def chomping? : Char → Option Chomping
  | '+' => some .keep
  | '-' => some .strip
  | _ => none

def indentation? (c : Cursor) : Except Fault (Option Nat × Cursor) :=
  match c.peek? with
  | some '0' => .error malformed
  | some x => .ok (if x.isDigit then (some (x.toNat - 48), c.next) else (none, c))
  | none => .ok (none, c)

def blockHeader (c : Cursor) : Except Fault (Chomping × Option Nat × Cursor) := do
  match c.peek?.bind chomping? with
  | some chomping =>
    let (indent, c) ← indentation? c.next
    if c.spaceAt 0 then return (chomping, indent, c) else .error malformed
  | none =>
    let (indent, c) ← indentation? c
    let (chomping, c) := match indent, c.peek?.bind chomping? with
      | some _, some chomping => (chomping, c.next)
      | _, _ => (.clip, c)
    if c.spaceAt 0 then return (chomping, indent, c) else .error malformed

def leadingLines : Nat → Cursor → List Char → Nat → List Char × Nat × Cursor
  | 0, c, breaks, widest => (breaks, widest, c)
  | fuel + 1, c, breaks, widest =>
    if c.looksAt ' ' then leadingLines fuel c.next breaks (max widest c.next.column)
    else match c.takeBreak with
      | ([], _) => (breaks, widest, c)
      | (found, c) => leadingLines fuel c (breaks ++ found) widest

def skipTo (column : Nat) : Nat → Cursor → Cursor
  | 0, c => c
  | fuel + 1, c => if c.column < column && c.looksAt ' ' then skipTo column fuel c.next else c

def blockBreaks (indent : Nat) : Nat → Cursor → List Char → List Char × Cursor
  | 0, c, breaks => (breaks, c)
  | fuel + 1, c, breaks =>
    let c := skipTo indent indent c
    match c.takeBreak with
    | ([], _) => (breaks, c)
    | (found, c) => blockBreaks indent fuel c (breaks ++ found)

structure BlockLines where
  text : List Char
  lastBreak : List Char
  breaks : List Char
  cursor : Cursor

def startsIndented (c : Cursor) : Bool := c.looksAt ' ' || c.looksAt '\t'

def blockLines (fold : Bool) (indent : Nat) : Nat → BlockLines → BlockLines
  | 0, done => done
  | fuel + 1, done =>
    let c := done.cursor
    if c.column != indent || c.atEnd then done
    else
      let indented := startsIndented c
      let (chars, c) := c.takeWhile (!isBreak ·)
      let (lastBreak, c) := c.takeBreak
      let (breaks, c) := blockBreaks indent (c.rest.length + 1) c []
      let text := done.text ++ done.breaks ++ chars
      if c.column != indent || c.atEnd then ⟨text, lastBreak, breaks, c⟩
      else
        let joint :=
          if fold && lastBreak == ['\n'] && !indented && !startsIndented c then
            (if breaks.isEmpty then [' '] else [])
          else lastBreak
        blockLines fold indent fuel ⟨text ++ joint, lastBreak, breaks, c⟩

/-- The block scalar whose mark is at the cursor, inside a collection that is indented by `parent - 1`. -/
def blockScalar (fold : Bool) (parent : Nat) (c : Cursor) : Except Fault (List Char × Cursor) := do
  let (chomping, increment, c) ← blockHeader c.next
  let c ← c.finishLine
  let least := max parent 1
  let fuel := c.rest.length + 1
  let (indent, breaks, c) := match increment with
    | none =>
      let (breaks, widest, c) := leadingLines fuel c [] 0
      (max least widest, breaks, c)
    | some n =>
      let indent := least + n - 1
      let (breaks, c) := blockBreaks indent fuel c []
      (indent, breaks, c)
  let lines := blockLines fold indent fuel ⟨[], [], breaks, c⟩
  let tail := match chomping with
    | .strip => []
    | .clip => lines.lastBreak
    | .keep => lines.lastBreak ++ lines.breaks
  return (lines.text ++ tail, lines.cursor)

end Covenant.Yaml
