import Covenant.Text.Blank

namespace Covenant.Text

def zeroCodes : List Nat :=
  [0x0030, 0x0660, 0x06F0, 0x07C0, 0x0966, 0x09E6, 0x0A66, 0x0AE6, 0x0B66, 0x0BE6, 0x0C66,
   0x0CE6, 0x0D66, 0x0DE6, 0x0E50, 0x0ED0, 0x0F20, 0x1040, 0x1090, 0x17E0, 0x1810, 0x1946,
   0x19D0, 0x1A80, 0x1A90, 0x1B50, 0x1BB0, 0x1C40, 0x1C50, 0xA620, 0xA8D0, 0xA900, 0xA9D0,
   0xA9F0, 0xAA50, 0xABF0, 0xFF10, 0x104A0, 0x10D30, 0x11066, 0x110F0, 0x11136, 0x111D0,
   0x112F0, 0x11450, 0x114D0, 0x11650, 0x116C0, 0x11730, 0x118E0, 0x11950, 0x11C50, 0x11D50,
   0x11DA0, 0x16A60, 0x16AC0, 0x16B50, 0x1D7CE, 0x1D7D8, 0x1D7E2, 0x1D7EC, 0x1D7F6, 0x1E140,
   0x1E2F0, 0x1E950, 0x1FBF0]

def digitValue? (c : Char) : Option Nat :=
  (zeroCodes.find? fun first => first ≤ c.toNat && c.toNat < first + 10).map (c.toNat - ·)

def digitsFrom? (read : Nat) : List Char → Option Nat
  | [] => some read
  | '_' :: c :: cs => do digitsFrom? (10 * read + (← digitValue? c)) cs
  | c :: cs => do digitsFrom? (10 * read + (← digitValue? c)) cs

def digits? : List Char → Option Nat
  | [] => none
  | c :: cs => do digitsFrom? (← digitValue? c) cs

/-- The blanks that may surround a number: the information separators do not count here. -/
def isNumberBlank (c : Char) : Bool :=
  isBlank c && !(0x1C ≤ c.toNat && c.toNat ≤ 0x1F)

def digitLimit : Nat := 4300

def exceedsDigits (n : Int) : Bool := Nat.pow 10 digitLimit ≤ n.natAbs

def tooLongToWrite : String :=
  s!"Exceeds the limit ({digitLimit} digits) for integer string conversion; "
    ++ "use sys.set_int_max_str_digits() to increase the limit"

def countDigits (cs : List Char) : Nat :=
  (cs.filter (· != '_')).length

def readSigned? : List Char → Option Int
  | '-' :: cs => if countDigits cs ≤ digitLimit then (digits? cs).map fun n => -(n : Int) else none
  | '+' :: cs => if countDigits cs ≤ digitLimit then (digits? cs).map Int.ofNat else none
  | cs => if countDigits cs ≤ digitLimit then (digits? cs).map Int.ofNat else none

def trimNumber (s : String) : List Char :=
  ((s.toList.dropWhile isNumberBlank).reverse.dropWhile isNumberBlank).reverse

def readInt? (s : String) : Option Int :=
  readSigned? (trimNumber s)

def excessDigits? (s : String) : Option Nat :=
  let cs := match trimNumber s with
    | '-' :: cs => cs
    | '+' :: cs => cs
    | cs => cs
  if digitLimit < countDigits cs && (digits? cs).isSome then some (countDigits cs) else none

end Covenant.Text
