import Covenant.Text.Pattern

namespace Covenant.Yaml

inductive Tag where
  | null
  | bool
  | int
  | float
  | str
  | timestamp
  | binary
  | seq
  | map
  | set
  | orderedMap
  | pairs
  | merge
  | defaultKey
  | unknown
deriving Repr, DecidableEq

namespace Tag

def names : List (String × Tag) :=
  [("null", null), ("bool", bool), ("int", int), ("float", float), ("str", str), ("timestamp", timestamp),
   ("binary", binary), ("seq", seq), ("map", map), ("set", set), ("omap", orderedMap), ("pairs", pairs),
   ("merge", merge), ("value", defaultKey)]

def standardStart : String := "tag:yaml.org,2002:"

def ofText (text : String) : Tag :=
  ((names.find? fun (name, _) => standardStart ++ name == text).map (·.2)).getD unknown

/-! ## Tags of plain scalars -/

open Covenant.Text

def sign : Pattern := .maybe (.among "-+")

def number : Pattern := .seq .digit (.star (.among "0123456789_"))

def positive : Pattern := .seq (.among "123456789") (.star (.among "0123456789_"))

def exponent : Pattern := .maybe (.inOrder [.among "eE", .among "-+", .many .digit])

def sixties : Pattern := .many (.inOrder [.char ':', .maybe (.among "012345"), .digit])

def boolPattern : Pattern :=
  .anyOf (["yes", "Yes", "YES", "no", "No", "NO", "true", "True", "TRUE", "false", "False", "FALSE", "on", "On", "ON",
    "off", "Off", "OFF"].map .text)

def floatPattern : Pattern :=
  .anyOf [
    .inOrder [sign, number, .char '.', .star (.among "0123456789_"), exponent],
    .inOrder [.char '.', number, exponent],
    .inOrder [sign, number, sixties, .char '.', .star (.among "0123456789_")],
    .inOrder [sign, .char '.', .anyOf (["inf", "Inf", "INF"].map .text)],
    .inOrder [.char '.', .anyOf (["nan", "NaN", "NAN"].map .text)]]

def intPattern : Pattern :=
  .seq sign (.anyOf [
    .inOrder [.text "0b", .many (.among "01_")],
    .inOrder [.char '0', .many (.among "01234567_")],
    .char '0',
    positive,
    .inOrder [.text "0x", .many (.among "0123456789abcdefABCDEF_")],
    .inOrder [positive, sixties]])

def nullPattern : Pattern := .anyOf (["~", "null", "Null", "NULL", ""].map .text)

def twoDigits : Pattern := .seq .digit .digit

def oneOrTwoDigits : Pattern := .seq .digit (.maybe .digit)

def datePattern : Pattern :=
  .inOrder [twoDigits, twoDigits, .char '-', twoDigits, .char '-', twoDigits]

def zonePattern : Pattern :=
  .alt (.char 'Z') (.inOrder [.among "-+", oneOrTwoDigits, .maybe (.inOrder [.char ':', twoDigits])])

def momentPattern : Pattern :=
  .inOrder [
    twoDigits, twoDigits, .char '-', oneOrTwoDigits, .char '-', oneOrTwoDigits,
    .alt (.among "Tt") (.many (.among " \t")),
    oneOrTwoDigits, .char ':', twoDigits, .char ':', twoDigits,
    .maybe (.inOrder [.char '.', .star .digit]),
    .maybe (.inOrder [.star (.among " \t"), zonePattern])]

def patterns : List (Tag × Pattern) :=
  [(bool, boolPattern), (float, floatPattern), (int, intPattern), (merge, .text "<<"), (null, nullPattern),
   (timestamp, .alt datePattern momentPattern), (defaultKey, .char '=')]

def implicit (text : String) : Tag :=
  ((patterns.find? fun (_, p) => p.matchesText (withoutLineBreak text)).map (·.1)).getD str

end Tag

end Covenant.Yaml
