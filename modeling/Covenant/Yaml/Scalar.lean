import Covenant.Text.Digit
import Covenant.Text.LowerCase
import Covenant.Yaml.Moment
import Covenant.Yaml.Cursor
import Covenant.Yaml.Tag
import Covenant.Yaml.Written

namespace Covenant.Yaml

/-! ## Numbers -/

def digitIn? (base : Nat) (c : Char) : Option Nat :=
  ((Text.digitValue? c).or (hexDigit? c)).filter (· < base)

def baseMarks (base : Nat) : List Char :=
  match base with
  | 2 => ['b', 'B']
  | 8 => ['o', 'O']
  | 16 => ['x', 'X']
  | _ => []

def dropBaseMark (base : Nat) (cs : List Char) : List Char :=
  match cs with
  | '0' :: mark :: rest => if (baseMarks base).contains mark then rest else cs
  | cs => cs

def takeSign (cs : List Char) : Int × List Char :=
  match cs with
  | '-' :: rest => (-1, rest)
  | '+' :: rest => (1, rest)
  | cs => (1, cs)

def wholeNumber (base : Nat) (text : String) : Except Fault Int :=
  let (sign, cs) := takeSign (Text.trimNumber text)
  let cs := dropBaseMark base cs
  match cs.mapM (digitIn? base) with
  | some (d :: ds) =>
    if base == 10 && cs.length > Text.digitLimit then .error (.tooManyDigits cs.length)
    else .ok (sign * Int.ofNat ((d :: ds).foldl (fun n d => base * n + d) 0))
  | _ => .error (.invalidLiteral base text)

def decimalNumber (text : String) : Except Fault Float :=
  match Decimal.read? text with
  | some x => .ok x
  | none => .error ⟨.value, "could not convert string to float: " ++ Text.quoted text, []⟩

def emptyText : Fault := ⟨.index, "string index out of range", []⟩

def startsWith (start : String) (cs : List Char) : Bool :=
  (Text.dropStart? start.toList cs).isSome

def unsignedInt (cs : List Char) : Except Fault Int :=
  let text := String.ofList cs
  match cs with
  | [] => .error emptyText
  | ['0'] => .ok 0
  | first :: _ =>
    if startsWith "0b" cs then wholeNumber 2 (String.ofList (cs.drop 2))
    else if startsWith "0x" cs then wholeNumber 16 (String.ofList (cs.drop 2))
    else if first == '0' then wholeNumber 8 text
    else if cs.contains ':' then do
      let digits ← (Text.splitText ':' text).mapM (wholeNumber 10)
      return digits.foldl (fun n d => 60 * n + d) 0
    else wholeNumber 10 text

def intValue (text : String) : Except Fault Value := do
  let (sign, cs) := takeSign (text.toList.filter (· != '_'))
  return .int (sign * (← unsignedInt cs))

def sixtyFold (digits : List Float) : Float :=
  (digits.foldl (fun (total, weight) d => (total + d * weight, weight * 60.0)) (0.0, 1.0)).1

def unsignedFloat (cs : List Char) : Except Fault Float :=
  let text := String.ofList cs
  if text == ".inf" then .ok (1.0 / 0.0)
  else if text == ".nan" then .ok (0.0 / 0.0)
  else if cs.contains ':' then do
    return sixtyFold (← (Text.splitText ':' text).mapM decimalNumber).reverse
  else decimalNumber text

def floatValue (text : String) : Except Fault Value := do
  let cs := (Text.lower (String.ofList (text.toList.filter (· != '_')))).toList
  if cs.isEmpty then .error emptyText
  let (sign, cs) := takeSign cs
  let x ← unsignedFloat cs
  return .float (if sign < 0 then -x else x)

/-! ## Other scalars -/

def boolWords : List (String × Bool) :=
  [("yes", true), ("no", false), ("true", true), ("false", false), ("on", true), ("off", false)]

def boolValue (text : String) : Except Fault Value :=
  let word := Text.lower text
  match boolWords.lookup word with
  | some b => .ok (.bool b)
  | none => .error (.missingKey word)

def timestampValue (text : String) : Except Fault Value :=
  match Timestamp.read? text with
  | none => .error { kind := .attribute }
  | some t => do
    t.check
    return t.value

def sixBits? (c : Char) : Option Nat :=
  if 'A' ≤ c && c ≤ 'Z' then some (c.toNat - 65)
  else if 'a' ≤ c && c ≤ 'z' then some (c.toNat - 71)
  else if c.isDigit then some (c.toNat + 4)
  else if c == '+' then some 62
  else if c == '/' then some 63
  else none

/-- Bytes from base 64. `held` are the bits of an unfinished group of four and `pads` the padding since the last of
them; characters outside the alphabet are passed over. -/
def base64 : (held : List Nat) → (pads : Nat) → List Char → Option (List Nat)
  | held, _, [] => if held.isEmpty then some [] else none
  | held, pads, c :: cs =>
    if c == '=' then
      if held.length < 2 then base64 held pads cs
      else if held.length + pads + 1 ≥ 4 then some []
      else base64 held (pads + 1) cs
    else match sixBits? c with
      | none => base64 held pads cs
      | some bits =>
        match held with
        | [] => base64 [bits] 0 cs
        | [a] => (base64 [a, bits] 0 cs).map ((a * 4 + bits / 16) :: ·)
        | [a, b] => (base64 [a, b, bits] 0 cs).map ((b % 16 * 16 + bits / 4) :: ·)
        | _ => (base64 [] 0 cs).map ((held.getLastD 0 % 4 * 64 + bits) :: ·)

def binaryValue (text : String) : Except Fault Value :=
  if text.toList.any (·.toNat ≥ 128) then .error malformed
  else match base64 [] 0 text.toList with
    | some bytes => .ok (.bytes bytes)
    | none => .error malformed

def scalarValue (tag : Tag) (text : String) : Except Fault Value :=
  match tag with
  | .null => .ok .null
  | .bool => boolValue text
  | .int => intValue text
  | .float => floatValue text
  | .str => .ok (.str text)
  | .timestamp => timestampValue text
  | .binary => binaryValue text
  | _ => .error malformed

end Covenant.Yaml
