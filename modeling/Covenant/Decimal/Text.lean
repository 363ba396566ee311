import Covenant.Decimal.Shortest
import Covenant.Text.Digit

namespace Covenant.Decimal

/-- Where positional notation ends: the position of the point, counted from before the first digit, lies
strictly above `low` and not above `high`. -/
structure Style where
  low : Int
  high : Int
  undefined : String
  infinite : String

/-- Numbers are written positionally from a ten-thousandth up to sixteen digits before the point, always with a
digit on both sides of it; otherwise with an exponent of two digits and its sign. -/
def displayed : Style := ⟨-4, 16, "nan", "inf"⟩

def digitsText (n : Nat) : String := String.ofList (Nat.toDigits 10 n)

def zeros (n : Nat) : String := String.ofList (List.replicate n '0')

def exponentText (e : Int) : String :=
  let ds := digitsText e.natAbs
  (if e < 0 then "-" else "+") ++ zeros (2 - ds.length) ++ ds

def Style.write (style : Style) (s : Scientific) : String :=
  let ds := digitsText s.digits
  let point := (ds.length : Int) + s.exponent
  if style.low < point ∧ point ≤ style.high then
    if point ≤ 0 then "0." ++ zeros (-point).toNat ++ ds
    else if (ds.length : Int) ≤ point then ds ++ zeros (point - ds.length).toNat ++ ".0"
    else
      let (whole, rest) := ds.toList.splitAt point.toNat
      String.ofList whole ++ "." ++ String.ofList rest
  else
    let mantissa := match ds.toList with
      | first :: second :: rest => first.toString ++ "." ++ String.ofList (second :: rest)
      | _ => ds
    mantissa ++ "e" ++ exponentText (point - 1)

def minus (negative : Bool) : String := if negative then "-" else ""

def text (x : Float) : String :=
  match parts x with
  | .undefined => displayed.undefined
  | .infinite negative => minus negative ++ displayed.infinite
  | .zero negative => minus negative ++ "0.0"
  | .finite negative size => minus negative ++ displayed.write size.shortest

/-! ## Reading -/

/-- The machine number nearest to `digits * 10 ^ exponent`. Numbers far outside the range are cut off first,
so that no huge power is computed. -/
def nearest (digits : Nat) (exponent : Int) : Float :=
  let size := (digitsText digits).length + exponent
  if digits = 0 then 0.0
  else if size > 400 then 1.0 / 0.0
  else if size < -400 then 0.0
  else if exponent < 0 then Float.ofScientific digits true (-exponent).toNat
  else Float.ofScientific digits false exponent.toNat

def takeDigits : List Char → List Char × List Char
  | '_' :: cs => ([], '_' :: cs)
  | cs => go cs
where
  go : List Char → List Char × List Char
  | '_' :: c :: cs =>
    if (Text.digitValue? c).isSome then let (ds, rest) := go (c :: cs); (ds, rest) else ([], '_' :: c :: cs)
  | c :: cs =>
    if (Text.digitValue? c).isSome then let (ds, rest) := go cs; (c :: ds, rest) else ([], c :: cs)
  | [] => ([], [])

def value (ds : List Char) : Nat :=
  ds.foldl (fun n c => 10 * n + (Text.digitValue? c).getD 0) 0

def readExponent? : List Char → Option Int
  | [] => some 0
  | mark :: cs =>
    if mark = 'e' ∨ mark = 'E' then
      let (sign, cs) : Int × List Char := match cs with
        | '-' :: cs => (-1, cs)
        | '+' :: cs => (1, cs)
        | cs => (1, cs)
      match takeDigits cs with
      | ([], _) => none
      | (ds, []) => some (sign * value ds)
      | _ => none
    else none

def readUnsigned? (cs : List Char) : Option Float := do
  let (whole, rest) := takeDigits cs
  let (places, rest) := match rest with
    | '.' :: rest => takeDigits rest
    | rest => ([], rest)
  if whole.isEmpty && places.isEmpty then none
  let exponent ← readExponent? rest
  return nearest (value (whole ++ places)) (exponent - places.length)

def readWord? (word : String) : Option Float :=
  if word = "inf" ∨ word = "infinity" then some (1.0 / 0.0)
  else if word = "nan" then some (0.0 / 0.0)
  else none

def readAny? (cs : List Char) : Option Float :=
  (readUnsigned? cs).or (readWord? (String.ofList (cs.map Char.toLower)))

def read? (s : String) : Option Float :=
  match ((s.toList.dropWhile Text.isNumberBlank).reverse.dropWhile Text.isNumberBlank).reverse with
  | '-' :: cs => (readAny? cs).map Float.neg
  | '+' :: cs => readAny? cs
  | cs => readAny? cs

end Covenant.Decimal
