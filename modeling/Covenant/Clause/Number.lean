import Covenant.Clause.Expr

namespace Covenant.Clause

def isWordChar (c : Char) : Bool :=
  c.isAlphanum || c == '_' || 128 ≤ c.toNat

def wordsAfterNumber : List (List Char) :=
  ["and", "else", "for", "if", "in", "is", "or", "not"].map String.toList

def endsNumber : List Char → Bool
  | [] => true
  | cs@(c :: _) => wordsAfterNumber.any (·.isPrefixOf cs) || !isWordChar c

/-- Digits of a base with single low lines between them, and the rest. Fails at a low line that no digit
follows. -/
def digitRun (isDigit : Char → Bool) : List Char → Option (List Char × List Char)
  | '_' :: c :: cs =>
    if isDigit c then (digitRun isDigit cs).map fun (ds, rest) => (c :: ds, rest) else none
  | ['_'] => none
  | c :: cs =>
    if isDigit c then (digitRun isDigit cs).map fun (ds, rest) => (c :: ds, rest) else some ([], c :: cs)
  | [] => some ([], [])

def digitOf (c : Char) : Nat :=
  if c.isDigit then c.toNat - 48
  else if 'a' ≤ c ∧ c ≤ 'f' then c.toNat - 87
  else c.toNat - 55

def valueIn (base : Nat) (digits : List Char) : Nat :=
  digits.foldl (fun n c => base * n + digitOf c) 0

def isHexDigit (c : Char) : Bool :=
  c.isDigit || ('a' ≤ c && c ≤ 'f') || ('A' ≤ c && c ≤ 'F')

def basedNumber (base : Nat) (isDigit : Char → Bool) (cs : List Char) : Option (Constant × List Char) := do
  let (digits, rest) ← digitRun isDigit cs
  if digits.isEmpty then none
  if !endsNumber rest then none
  return (.int (valueIn base digits), rest)

def floatEnd (whole places : List Char) (cs : List Char) : Option (Constant × List Char) := do
  let digits := valueIn 10 (whole ++ places)
  let number (exponent : Int) := Decimal.nearest digits (exponent - places.length)
  let finish (x : Float) (cs : List Char) : Option (Constant × List Char) :=
    match cs with
    | 'j' :: rest | 'J' :: rest => if endsNumber rest then some (.imaginary x, rest) else none
    | rest => if endsNumber rest then some (.float x, rest) else none
  match cs with
  | e :: rest =>
    if e = 'e' ∨ e = 'E' then
      match rest with
      | sign :: d :: _ =>
        if sign = '+' ∨ sign = '-' then
          if !d.isDigit then none
          let (ds, rest) ← digitRun Char.isDigit (rest.drop 1)
          let size : Int := valueIn 10 ds
          finish (number (if sign = '-' then -size else size)) rest
        else if sign.isDigit then
          let (ds, rest) ← digitRun Char.isDigit rest
          finish (number (valueIn 10 ds)) rest
        else if endsNumber cs then some (.float (number 0), cs) else none
      | [d] =>
        if d.isDigit then finish (number (valueIn 10 [d])) []
        else if endsNumber cs then some (.float (number 0), cs) else none
      | [] => none
    else finish (number 0) cs
  | [] => finish (number 0) []

def fractionEnd (whole : List Char) (cs : List Char) : Option (Constant × List Char) :=
  match cs with
  | c :: _ =>
    if c.isDigit then do
      let (places, rest) ← digitRun Char.isDigit cs
      floatEnd whole places rest
    else floatEnd whole [] cs
  | [] => floatEnd whole [] []

def isWhole (digits : List Char) : Bool :=
  digits.all (· == '0') || (digits.head? != some '0' && digits.length ≤ Text.digitLimit)

def decimalNumber (cs : List Char) : Option (Constant × List Char) := do
  let (whole, rest) ← digitRun Char.isDigit cs
  match rest with
  | '.' :: rest => fractionEnd whole rest
  | 'j' :: _ | 'J' :: _ => floatEnd whole [] rest
  | e :: after =>
    -- an exponent mark without digits may be the beginning of a word
    let exponent : Bool := (e == 'e' || e == 'E') && match after with
      | sign :: _ => sign.isDigit || sign == '+' || sign == '-'
      | [] => false
    if exponent then floatEnd whole [] rest
    else if isWhole whole && endsNumber rest then some (.int (valueIn 10 whole), rest) else none
  | [] => if isWhole whole then some (.int (valueIn 10 whole), []) else none

def scanNumber : List Char → Option (Constant × List Char)
  | '0' :: 'x' :: cs | '0' :: 'X' :: cs => basedNumber 16 isHexDigit cs
  | '0' :: 'o' :: cs | '0' :: 'O' :: cs => basedNumber 8 (fun c => '0' ≤ c && c ≤ '7') cs
  | '0' :: 'b' :: cs | '0' :: 'B' :: cs => basedNumber 2 (fun c => c == '0' || c == '1') cs
  | '.' :: cs => fractionEnd [] cs
  | cs => decimalNumber cs

end Covenant.Clause
