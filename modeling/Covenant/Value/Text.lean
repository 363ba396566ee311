import Covenant.Value.Basic
import Covenant.Decimal.Text
import Covenant.Text.Digit
import Covenant.Text.Quoted
import Covenant.Text.Pieces

namespace Covenant.Value

def intText (n : Int) : String :=
  (if n < 0 then "-" else "") ++ Decimal.digitsText n.natAbs

def between (opening closing : String) (items : List String) : String :=
  opening ++ Text.joined ", " items ++ closing

def tupleText : List String → String
  | [item] => "(" ++ item ++ ",)"
  | items => between "(" ")" items

def setText (items : List String) : String :=
  if items.isEmpty then "set()" else between "\x7b" "\x7d" items

def frozenSetText (items : List String) : String :=
  if items.isEmpty then "frozenset()" else "frozenset(" ++ between "\x7b" "\x7d" items ++ ")"

mutual
def inner : Value → String
  | null => "None"
  | bool b => if b then "True" else "False"
  | int n => intText n
  | float x => Decimal.text x
  | str s => Text.quoted s
  | bytes bs => Text.quoteBytes bs
  | foreign _ _ shown => shown
  | list xs => between "[" "]" (innerAll xs)
  | tuple xs => tupleText (innerAll xs)
  | set xs => setText (innerAll xs)
  | frozenSet xs => frozenSetText (innerAll xs)
  | map es => between "\x7b" "\x7d" (innerEntries es)
  | object _ shown _ => shown
  | again shown => shown
def innerAll : List Value → List String
  | [] => []
  | x :: xs => inner x :: innerAll xs
def innerEntries : List (Value × Value) → List String
  | [] => []
  | (k, v) :: es => (inner k ++ ": " ++ inner v) :: innerEntries es
end

def text : Value → String
  | str s => s
  | foreign _ plain _ => plain
  | v => inner v

mutual
def writable : Value → Bool
  | int n => !Text.exceedsDigits n
  | list xs => writableAll xs
  | tuple xs => writableAll xs
  | set xs => writableAll xs
  | frozenSet xs => writableAll xs
  | map es => writableEntries es
  | _ => true
def writableAll : List Value → Bool
  | [] => true
  | x :: xs => writable x && writableAll xs
def writableEntries : List (Value × Value) → Bool
  | [] => true
  | (k, v) :: es => writable k && writable v && writableEntries es
end

/-- The text of a value whose numbers can be written. How deep it is nested plays no part, unlike for clauses, documents
and merging. -/
def text? (v : Value) : Option String :=
  if v.writable then some v.text else none

end Covenant.Value
