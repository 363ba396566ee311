import Covenant.Clause.Number
import Covenant.Text.Name

namespace Covenant.Clause

structure TextMarks where
  raw : Bool := false
  bytes : Bool := false
  formatted : Bool := false
deriving Repr, DecidableEq

def textMarks? (word : List Char) : Option TextMarks :=
  match word.map Char.toLower with
  | [] => some ⟨false, false, false⟩
  | ['u'] => some ⟨false, false, false⟩
  | ['r'] => some ⟨true, false, false⟩
  | ['b'] => some ⟨false, true, false⟩
  | ['f'] => some ⟨false, false, true⟩
  | ['b', 'r'] | ['r', 'b'] => some ⟨true, true, false⟩
  | ['f', 'r'] | ['r', 'f'] => some ⟨true, false, true⟩
  | _ => none

/-- The body of a text up to its closing quote, and the rest. A backslash keeps the next character from closing
the text; only a tripled quote lets the text run over several lines. -/
def textBody (quote : Char) (triple : Bool) : List Char → Option (List Char × List Char)
  | [] => none
  | '\\' :: c :: cs => (textBody quote triple cs).map fun (body, rest) => ('\\' :: c :: body, rest)
  | c :: cs =>
    if c = quote then
      if triple then
        match cs with
        | q :: r :: rest =>
          if q = quote ∧ r = quote then some ([], rest)
          else (textBody quote triple cs).map fun (body, rest) => (c :: body, rest)
        | _ => none
      else some ([], cs)
    else if c = '\n' ∧ !triple then none
    else (textBody quote triple cs).map fun (body, rest) => (c :: body, rest)

def quotedBody (quote : Char) : List Char → Option (List Char × List Char)
  | q :: r :: cs =>
    if q = quote ∧ r = quote then textBody quote true cs
    else textBody quote false (q :: r :: cs)
  | cs => textBody quote false cs

/-! ## Escapes -/

def isOctal (c : Char) : Bool := '0' ≤ c && c ≤ '7'

def hexCode? (count : Nat) (cs : List Char) : Option (Nat × List Char) :=
  let digits := cs.take count
  if digits.length = count ∧ digits.all isHexDigit then some (valueIn 16 digits, cs.drop count) else none

def octalCode (first : Char) (cs : List Char) : Nat × List Char :=
  let more := (cs.take 2).takeWhile isOctal
  (valueIn 8 (first :: more), cs.drop more.length)

def simpleEscape? (c : Char) : Option Nat :=
  match c with
  | '\\' => some 92
  | '\'' => some 39
  | '"' => some 34
  | 'a' => some 7
  | 'b' => some 8
  | 'f' => some 12
  | 'n' => some 10
  | 'r' => some 13
  | 't' => some 9
  | 'v' => some 11
  | _ => none

def namedCode? : List Char → Option (Nat × List Char)
  | '{' :: cs => do
    let (name, rest) ← Text.cutFirst? '}' cs
    return (← Text.named? (String.ofList name), rest)
  | _ => none

/-- The code points of a body with its escapes resolved. An unknown escape stands for itself; `fuel` bounds the
length of the body. -/
def unescape (bytes : Bool) : Nat → List Char → Option (List Nat)
  | _, [] => some []
  | 0, _ => none
  | fuel + 1, '\\' :: c :: cs =>
    match simpleEscape? c with
    | some code => (unescape bytes fuel cs).map (code :: ·)
    | none =>
      if c = '\n' then unescape bytes fuel cs
      else if isOctal c then
        let (code, rest) := octalCode c cs
        (unescape bytes fuel rest).map ((if bytes then code % 256 else code) :: ·)
      else if c = 'x' then do
        let (code, rest) ← hexCode? 2 cs
        (unescape bytes fuel rest).map (code :: ·)
      else if !bytes && c = 'u' then do
        let (code, rest) ← hexCode? 4 cs
        (unescape bytes fuel rest).map (code :: ·)
      else if !bytes && c = 'U' then do
        let (code, rest) ← hexCode? 8 cs
        if 0x10FFFF < code then none
        (unescape bytes fuel rest).map (code :: ·)
      else if !bytes && c = 'N' then do
        let (code, rest) ← namedCode? cs
        (unescape bytes fuel rest).map (code :: ·)
      else (unescape bytes fuel cs).map fun codes => 92 :: c.toNat :: codes
  | fuel + 1, c :: cs => (unescape bytes fuel cs).map (c.toNat :: ·)

def bodyCodes (marks : TextMarks) (body : List Char) : Option (List Nat) :=
  if marks.bytes && body.any (fun c => 128 ≤ c.toNat) then none
  else if marks.raw then some (body.map Char.toNat)
  else unescape marks.bytes (body.length + 1) body

/-! ## Formatted texts -/

/-- The literal part of a formatted text up to the next single brace. Doubled braces count as text at the top
level only, and braces around the name of a character at every level; `inName` says that the text stands between these.
The part read is returned as written. -/
def literalPart (raw top inName : Bool) : List Char → Option (List Char × List Char)
  | [] => some ([], [])
  | '\\' :: c :: cs =>
    let keep (start : List Char) (r : Option (List Char × List Char)) := r.map fun (part, rest) => (start ++ part, rest)
    if inName then
      -- a backslash is an ordinary character of the name
      keep ['\\'] (literalPart raw top true (c :: cs))
    else if raw ∨ c = '{' ∨ c = '}' then keep ['\\'] (literalPart raw top false (c :: cs))
    else if c = 'N' ∧ cs.head? = some '{' then keep ['\\', c] (literalPart raw top true cs)
    else keep ['\\', c] (literalPart raw top false cs)
  | c :: cs =>
    let keep (c : Char) (r : Option (List Char × List Char)) := r.map fun (part, rest) => (c :: part, rest)
    if inName then keep c (literalPart raw top (c != '}') cs)
    else if c = '{' ∨ c = '}' then
      match cs with
      | d :: cs' =>
        if top ∧ d = c then keep c (literalPart raw top false cs')
        else if top ∧ c = '}' then none
        else some ([], c :: cs)
      | [] => if top ∧ c = '}' then none else some ([], c :: cs)
    else keep c (literalPart raw top false cs)

structure FieldScan where
  quote : Option (Char × Bool) := none
  brackets : List Char := []

def closes (opening closing : Char) : Bool :=
  (opening == '(' && closing == ')') || (opening == '[' && closing == ']') ||
    (opening == '{' && closing == '}')

def fieldSource : Nat → FieldScan → List Char → Option (List Char × List Char)
  | 0, _, _ => none
  | _, s, [] => if s.quote.isNone && s.brackets.isEmpty then some ([], []) else none
  | fuel + 1, s, c :: cs =>
    let keep (s : FieldScan) (read : List Char) (rest : List Char) :=
      (fieldSource fuel s rest).map fun (source, rest) => (read ++ source, rest)
    if c = '\\' then none
    else match s.quote with
      | some (quote, triple) =>
        if c ≠ quote then keep s [c] cs
        else if triple then
          match cs with
          | d :: e :: rest =>
            if d = c ∧ e = c then keep { s with quote := none } [c, d, e] rest else keep s [c] cs
          | _ => keep s [c] cs
        else keep { s with quote := none } [c] cs
      | none =>
        if c = '\'' ∨ c = '"' then
          match cs with
          | d :: e :: rest =>
            if d = c ∧ e = c then keep { s with quote := some (c, true) } [c, d, e] rest
            else keep { s with quote := some (c, false) } [c] cs
          | _ => keep { s with quote := some (c, false) } [c] cs
        else if c = '[' ∨ c = '{' ∨ c = '(' then keep { s with brackets := c :: s.brackets } [c] cs
        else if c = '#' then none
        else if s.brackets.isEmpty ∧ (c = '!' ∨ c = ':' ∨ c = '}' ∨ c = '=' ∨ c = '<' ∨ c = '>') then
          match cs with
          | '=' :: rest =>
            if c = '!' ∨ c = '=' ∨ c = '<' ∨ c = '>' then keep s [c, '='] rest else some ([], c :: cs)
          | _ => if c = '<' ∨ c = '>' then keep s [c] cs else some ([], c :: cs)
        else if c = ']' ∨ c = '}' ∨ c = ')' then
          match s.brackets with
          | opening :: brackets => if closes opening c then keep { s with brackets := brackets } [c] cs else none
          | [] => none
        else keep s [c] cs

def isFieldBlank (c : Char) : Bool :=
  c == ' ' || c == '\t' || c == '\n' || c == '\x0c' || c == '\r'

def fieldConversion (cs : List Char) : Option (List Char) :=
  let cs := match cs with
    | '=' :: rest => rest.dropWhile fun c => isFieldBlank c || c == '\x0b'
    | cs => cs
  match cs with
  | '!' :: c :: d :: rest => if (c = 's' ∨ c = 'r' ∨ c = 'a') ∧ (d = '}' ∨ d = ':') then some (d :: rest) else none
  | '!' :: _ => none
  | cs => some cs

/-- The sources of the expressions in a formatted text, from which `level` formats are open. Returns what
follows the part that was read. -/
def formatFields (raw : Bool) : Nat → Nat → List Char → Option (List (List Char) × List Char)
  | 0, _, _ => none
  | fuel + 1, level, cs => do
    let (part, rest) ← literalPart raw (level == 0) false cs
    if !raw && (unescape false (part.length + 1) part).isNone then none
    match rest with
    | '{' :: rest =>
      if 2 ≤ level then none
      let (source, rest) ← fieldSource (rest.length + 1) {} rest
      if source.all isFieldBlank then none
      let rest ← fieldConversion rest
      let (inner, rest) ← match rest with
        | ':' :: rest => formatFields raw fuel (level + 1) rest
        | rest => some ([], rest)
      match rest with
      | '}' :: rest =>
        let (more, rest) ← formatFields raw fuel level rest
        return (source :: inner ++ more, rest)
      | _ => none
    | rest => return ([], rest)

def embeddedSources (raw : Bool) (body : List Char) : Option (List (List Char)) := do
  let (sources, rest) ← formatFields raw (body.length + 1) 0 body
  if rest.isEmpty then some sources else none

end Covenant.Clause
