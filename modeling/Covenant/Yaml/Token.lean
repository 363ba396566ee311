import Covenant.Yaml.Written

/-!
# Tokens

The marks and scalars of a document in their order. Indentation is made explicit: a block collection is opened where
a line is indented further and closed where the indentation ends. A mapping key that has no mark of its own is known
by the colon after it, so its mark is inserted before it when the colon is met.
-/

namespace Covenant.Yaml

structure WrittenTag where
  handle : Option String
  suffix : String
deriving Repr, DecidableEq

inductive Token where
  | version (major : Nat)
  | tagHandle (handle start : String)
  | otherDirective
  | documentStart
  | documentEnd
  | blockSequenceStart
  | blockMappingStart
  | blockEnd
  | flowSequenceStart
  | flowSequenceEnd
  | flowMappingStart
  | flowMappingEnd
  | flowEntry
  | blockEntry
  | key
  | value
  | reference (name : String)
  | anchor (name : String)
  | tag (t : WrittenTag)
  | scalar (text : String) (plain : Bool)
deriving Repr, DecidableEq

/-- A token that becomes a mapping key if a colon follows it on the same line. -/
structure PossibleKey where
  place : Nat
  required : Bool
  index : Nat
  line : Nat
  column : Nat

def keyLimit : Nat := 1024

structure Scan where
  cursor : Cursor
  tokens : List Token := []
  /-- The indentation of the innermost block collection, one more than its column; zero outside. -/
  indent : Nat := 0
  outerIndents : List Nat := []
  depth : Nat := 0
  allowKey : Bool := true
  keys : List (Nat × PossibleKey) := []

namespace Scan

def inFlow (s : Scan) : Bool := s.depth != 0

def level (s : Scan) : Nat := s.cursor.column + 1

def push (s : Scan) (t : Token) : Scan := { s with tokens := s.tokens ++ [t] }

def mark (s : Scan) (t : Token) (length : Nat) : Scan :=
  { s.push t with cursor := s.cursor.skip length }

/-! ### Possible keys -/

def isStale (s : Scan) (k : PossibleKey) : Bool :=
  k.line != s.cursor.line || s.cursor.index - k.index > keyLimit

def dropStale (s : Scan) : Except Fault Scan :=
  if s.keys.any fun (_, k) => s.isStale k && k.required then .error malformed
  else .ok { s with keys := s.keys.filter fun (_, k) => !s.isStale k }

def dropKey (s : Scan) : Except Fault Scan :=
  match s.keys.lookup s.depth with
  | some k =>
    if k.required then .error malformed
    else .ok { s with keys := s.keys.filter fun (d, _) => d != s.depth }
  | none => .ok s

def saveKey (s : Scan) : Except Fault Scan :=
  if s.allowKey then do
    let required := !s.inFlow && s.indent == s.level
    let s ← s.dropKey
    let k : PossibleKey := ⟨s.tokens.length, required, s.cursor.index, s.cursor.line, s.cursor.column⟩
    return { s with keys := (s.depth, k) :: s.keys }
  else .ok s

/-! ### Indentation -/

def unwind (s : Scan) (level : Nat) : Scan :=
  if s.inFlow then s else go s.outerIndents s
where
  go : List Nat → Scan → Scan
  | [], s => s
  | outer :: rest, s =>
    if s.indent > level then go rest { s.push .blockEnd with indent := outer, outerIndents := rest } else s

/-- Opens a block collection at `level` unless it is open, its mark being inserted before `place`. -/
def openBlock (s : Scan) (level : Nat) (place : Nat) (t : Token) : Scan :=
  if s.indent < level then
    { s with indent := level, outerIndents := s.indent :: s.outerIndents, tokens := s.tokens.insertIdx place t }
  else s

/-! ### Marks -/

def skipIgnored : Nat → Scan → Scan
  | 0, s => s
  | fuel + 1, s =>
    let c := s.cursor.skipSpaces
    let c := if c.looksAt '#' then c.skipWhile (!isBreak ·) else c
    match c.takeBreak with
    | ([], c) => { s with cursor := c }
    | (_, c) => skipIgnored fuel { s with cursor := c, allowKey := s.allowKey || !s.inFlow }

def isNameChar (c : Char) : Bool :=
  c.isDigit || ('A' ≤ c && c ≤ 'Z') || ('a' ≤ c && c ≤ 'z') || c == '-' || c == '_'

def endsName (c : Cursor) : Bool :=
  c.blankAt 0 || match c.peek? with
    | some x => ['?', ':', ',', ']', '\x7d', '%', '@', '\x60'].contains x
    | none => true

def name (c : Cursor) : Except Fault (String × Cursor) :=
  let (chars, c) := c.next.takeWhile isNameChar
  if chars.isEmpty || !endsName c then .error malformed else .ok (String.ofList chars, c)

def isUriChar (c : Char) : Bool :=
  isNameChar c ||
    [';', '/', '?', ':', '@', '&', '=', '+', '$', ',', '.', '!', '~', '*', '\'', '(', ')', '[', ']'].contains c

def uriBytes : Nat → Cursor → List Nat → Except Fault (List Nat × Cursor)
  | 0, _, _ => .error malformed
  | fuel + 1, c, bytes =>
    if c.looksAt '%' then
      match hexNumber? 2 c.next.rest with
      | some byte => uriBytes fuel (c.skip 3) (bytes ++ [byte])
      | none => .error malformed
    else .ok (bytes, c)

def uriParts : Nat → Cursor → List Char → Except Fault (List Char × Cursor)
  | 0, _, _ => .error malformed
  | fuel + 1, c, done =>
    if c.looksAt '%' then do
      let (bytes, c) ← uriBytes (c.rest.length + 1) c []
      match String.fromUTF8? ⟨(bytes.map UInt8.ofNat).toArray⟩ with
      | some s => uriParts fuel c (done ++ s.toList)
      | none => .error malformed
    else
      let (chars, c) := c.takeWhile isUriChar
      if chars.isEmpty then .ok (done, c) else uriParts fuel c (done ++ chars)

def uri (c : Cursor) : Except Fault (String × Cursor) := do
  match ← uriParts (c.rest.length + 1) c [] with
  | ([], _) => .error malformed
  | (chars, c) => return (String.ofList chars, c)

def tagHandle (c : Cursor) : Except Fault (String × Cursor) :=
  if !c.looksAt '!' then .error malformed
  else if c.peekAt? 1 == some ' ' then .ok ("!", c.next)
  else
    let (chars, after) := c.next.takeWhile isNameChar
    if after.looksAt '!' then .ok (String.ofList ('!' :: chars ++ ['!']), after.next) else .error malformed

def writtenTag (c : Cursor) : Except Fault (WrittenTag × Cursor) := do
  let (t, c) ←
    if c.peekAt? 1 == some '<' then do
      let (suffix, c) ← uri (c.skip 2)
      if c.looksAt '>' then pure (⟨none, suffix⟩, c.next) else .error malformed
    else if c.blankAt 1 then pure (⟨none, "!"⟩, c.next)
    else do
      let word := c.next.rest.takeWhile fun x => x != ' ' && !isBreak x
      let (handle, c) ← if word.contains '!' then tagHandle c else pure ("!", c.next)
      let (suffix, c) ← uri c
      pure ((⟨some handle, suffix⟩ : WrittenTag), c)
  if c.spaceAt 0 then return (t, c) else .error malformed

def directiveNumber (c : Cursor) : Except Fault (Nat × Cursor) :=
  let (digits, c) := c.takeWhile Char.isDigit
  if digits.isEmpty then .error malformed
  else .ok (digits.foldl (fun n d => 10 * n + (d.toNat - 48)) 0, c)

def directive (c : Cursor) : Except Fault (Token × Cursor) := do
  let (chars, c) := c.next.takeWhile isNameChar
  if chars.isEmpty || !c.spaceAt 0 then .error malformed
  let (t, c) ← match String.ofList chars with
    | "YAML" => do
      let (major, c) ← directiveNumber c.skipSpaces
      if !c.looksAt '.' then .error malformed
      let (_, c) ← directiveNumber c.next
      if c.spaceAt 0 then pure (Token.version major, c) else .error malformed
    | "TAG" => do
      let (handle, c) ← tagHandle c.skipSpaces
      if !c.looksAt ' ' then .error malformed
      let (start, c) ← uri c.skipSpaces
      if c.spaceAt 0 then pure (Token.tagHandle handle start, c) else .error malformed
    | _ => pure (Token.otherDirective, c.skipWhile (!isBreak ·))
  return (t, ← c.finishLine)

def atMargin (s : Scan) : Except Fault Scan := do
  let s ← (s.unwind 0).dropKey
  return { s with allowKey := false }

def openBracket (s : Scan) (t : Token) : Except Fault Scan := do
  let s ← s.saveKey
  return { s.mark t 1 with depth := s.depth + 1, allowKey := true }

def closeBracket (s : Scan) (t : Token) : Except Fault Scan := do
  if s.depth == 0 then .error malformed
  let s ← s.dropKey
  return { s.mark t 1 with depth := s.depth - 1, allowKey := false }

def entry (s : Scan) : Except Fault Scan := do
  if !s.inFlow && !s.allowKey then .error malformed
  let s := if s.inFlow then s else s.openBlock s.level s.tokens.length .blockSequenceStart
  let s ← s.dropKey
  return { s.mark .blockEntry 1 with allowKey := true }

def explicitKey (s : Scan) : Except Fault Scan := do
  if !s.inFlow && !s.allowKey then .error malformed
  let s := if s.inFlow then s else s.openBlock s.level s.tokens.length .blockMappingStart
  let s ← s.dropKey
  return { s.mark .key 1 with allowKey := !s.inFlow }

def colon (s : Scan) : Except Fault Scan := do
  match s.keys.lookup s.depth with
  | some k =>
    let s := { s with
      keys := s.keys.filter fun (d, _) => d != s.depth
      tokens := s.tokens.insertIdx k.place .key }
    let s := if s.inFlow then s else s.openBlock (k.column + 1) k.place .blockMappingStart
    return { s.mark .value 1 with allowKey := false }
  | none =>
    if !s.inFlow && !s.allowKey then .error malformed
    let s := if s.inFlow then s else s.openBlock s.level s.tokens.length .blockMappingStart
    let s ← s.dropKey
    return { s.mark .value 1 with allowKey := !s.inFlow }

def node (s : Scan) (read : Cursor → Except Fault (Token × Cursor)) : Except Fault Scan := do
  let s ← s.saveKey
  let (t, c) ← read s.cursor
  return { s.push t with cursor := c, allowKey := false }

def block (s : Scan) (fold : Bool) : Except Fault Scan := do
  let s ← s.dropKey
  let (text, c) ← blockScalar fold s.indent s.cursor
  return { s.push (.scalar (String.ofList text) false) with cursor := c, allowKey := true }

def quotedToken (double : Bool) (c : Cursor) : Except Fault (Token × Cursor) := do
  let (text, c) ← quotedScalar double c
  return (.scalar (String.ofList text) false, c)

def indicators : List Char :=
  ['-', '?', ':', ',', '[', ']', '\x7b', '\x7d', '#', '&', '*', '!', '|', '>', '\'', '"', '%', '@', '\x60']

def startsPlain (s : Scan) (x : Char) : Bool :=
  !(isBlankChar x || indicators.contains x) ||
    (!s.cursor.blankAt 1 && (x == '-' || (!s.inFlow && (x == '?' || x == ':'))))

def plainScalar (s : Scan) : Except Fault Scan := do
  let s ← s.saveKey
  let p := plain s.inFlow s.indent s.cursor
  return { s.push (.scalar (String.ofList p.text) true) with cursor := p.cursor, allowKey := p.lineEnded }

def token (s : Scan) (x : Char) : Except Fault Scan :=
  let c := s.cursor
  let atStart := c.column == 0
  if x == '%' && atStart then do
    let s ← s.atMargin
    let (t, c) ← directive s.cursor
    return { s.push t with cursor := c }
  else if x == '-' && atStart && c.atSeparator then do return (← s.atMargin).mark .documentStart 3
  else if x == '.' && atStart && c.atSeparator then do return (← s.atMargin).mark .documentEnd 3
  else if x == '[' then s.openBracket .flowSequenceStart
  else if x == '\x7b' then s.openBracket .flowMappingStart
  else if x == ']' then s.closeBracket .flowSequenceEnd
  else if x == '\x7d' then s.closeBracket .flowMappingEnd
  else if x == ',' then do
    let s ← s.dropKey
    return { s.mark .flowEntry 1 with allowKey := true }
  else if x == '-' && c.blankAt 1 then s.entry
  else if x == '?' && (s.inFlow || c.blankAt 1) then s.explicitKey
  else if x == ':' && (s.inFlow || c.blankAt 1) then s.colon
  else if x == '*' then s.node fun c => do
    let (name, c) ← name c
    return (.reference name, c)
  else if x == '&' then s.node fun c => do
    let (name, c) ← name c
    return (.anchor name, c)
  else if x == '!' then s.node fun c => do
    let (t, c) ← writtenTag c
    return (.tag t, c)
  else if x == '|' && !s.inFlow then s.block false
  else if x == '>' && !s.inFlow then s.block true
  else if x == '\'' then s.node (quotedToken false)
  else if x == '"' then s.node (quotedToken true)
  else if s.startsPlain x then s.plainScalar
  else .error malformed

def step (s : Scan) : Except Fault (Scan × Bool) := do
  let s ← (s.skipIgnored (s.cursor.rest.length + 1)).dropStale
  let s := s.unwind s.level
  match s.cursor.peek? with
  | none => return (← s.atMargin, true)
  | some x => return (← s.token x, false)

def settled (s : Scan) : List Token :=
  s.tokens.take ((s.keys.filter fun (_, k) => !s.isStale k).foldl (fun n (_, k) => min n k.place) s.tokens.length)

end Scan

structure Tokens where
  tokens : List Token
  fault : Option Fault := none

def Scan.run : Nat → Scan → Tokens
  | 0, s => ⟨s.settled, some malformed⟩
  | fuel + 1, s =>
    match s.step with
    | .ok (s, true) => ⟨s.tokens, none⟩
    | .ok (s, false) => s.run fuel
    | .error f => ⟨s.settled, some f⟩

/-- The tokens of a document. Every token takes at least one character, and a byte order mark is passed over. -/
def Tokens.ofText (text : String) : Tokens :=
  let c : Cursor := ⟨text.toList, 0, 0, 0⟩
  Scan.run (text.length + 1) { cursor := if c.looksAt '\ufeff' then c.next else c }

end Covenant.Yaml
