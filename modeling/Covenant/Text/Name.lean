import Covenant.Text.NameTable.Ancient
import Covenant.Text.NameTable.Eastern
import Covenant.Text.NameTable.Pictures
import Covenant.Text.NameTable.Scripts
import Covenant.Text.NameTable.Symbols
import Covenant.Text.NameTable.Words
import Covenant.Text.Normal
import Covenant.Text.Pieces

namespace Covenant.Text

/-! ## Tables -/

inductive NameMark where
  | codePoint (code : Nat)
  | start (kept : Nat) (word : String)
  | counted (names : Nat)
  | word (s : String)
deriving Repr, DecidableEq

def capitalDigit? (c : Char) : Option Nat :=
  if c.isDigit then some (c.toNat - 48)
  else if 'A' ≤ c ∧ c ≤ 'F' then some (c.toNat - 55)
  else none

def capitalHex? (cs : List Char) : Option Nat :=
  (cs.mapM capitalDigit?).map (·.foldl (fun n d => 16 * n + d) 0)

def digitsNumber (cs : List Char) : Nat := cs.foldl (fun n c => 10 * n + (c.toNat - 48)) 0

def NameMark.ofWord (s : String) : NameMark :=
  match s.toList with
  | 'U' :: '+' :: digits => .codePoint ((capitalHex? digits).getD 0)
  | '~' :: digits => .counted (digitsNumber digits)
  | c :: rest => if c.isDigit then .start (c.toNat - 48) (String.ofList rest) else .word s
  | [] => .word s

def lineWords (lines : String) : List String :=
  ((lines.splitOn "\n").flatMap (·.splitOn " ")).filter (· != "")

/-- The digits of the abbreviations. An abbreviation has two of them, or three if the last one comes first. -/
def abbreviationDigits : List Char := "abcdefghijklmnopqrstuvwxyz$&*+,:;<=>^|!%().".toList

def abbreviationNumber (c d : Char) : Nat :=
  abbreviationDigits.length * abbreviationDigits.idxOf c + abbreviationDigits.idxOf d

def shortAbbreviations : Nat := abbreviationDigits.length * (abbreviationDigits.length - 1)

def startWith (start : String) : List String → List String
  | [] => if start == "" then [] else [start]
  | word :: words => (start ++ word) :: words

/-- The words that a sequence of abbreviations stands for, which may end in a word that is written out. `start` is the
digit that begins a name. -/
def writtenOut (known : Array (List String)) : (start : String) → List Char → List String
  | start, [] => startWith start []
  | start, '.' :: c :: d :: rest =>
    startWith start (known.getD (shortAbbreviations + abbreviationNumber c d) []) ++ writtenOut known "" rest
  | start, c :: d :: rest =>
    if c.isDigit then startWith start [] ++ writtenOut known c.toString (d :: rest)
    else if abbreviationDigits.contains c then
      startWith start (known.getD (abbreviationNumber c d) []) ++ writtenOut known "" rest
    else [start ++ String.ofList (c :: d :: rest)]
  | start, [c] => if c.isDigit then startWith start [] ++ [c.toString] else [start ++ c.toString]

def abbreviated : Array (List String) :=
  (lineWords frequentWords).foldl
    (fun known entry => known.push ((entry.splitOn "_").flatMap fun part => writtenOut known "" part.toList)) #[]

def tableWords (table : String) : List String :=
  (lineWords table).flatMap fun part => writtenOut abbreviated "" part.toList

def countedUp (n : Nat) (word : String) : String :=
  let start := (word.toList.reverse.dropWhile Char.isDigit).reverse
  let digits := word.toList.drop start.length
  let shown := Nat.toDigits 10 (digitsNumber digits + n)
  String.ofList (start ++ List.replicate (digits.length - shown.length) '0' ++ shown)

def countedName (words : List String) (n : Nat) : List String :=
  words.dropLast ++ (words.getLast?.map (countedUp n)).toList

/-- Finds a name given by its words; `words` is the name read last, and `code` its code point. -/
def findName (wanted : List String) : (code : Nat) → (words : List String) → List String → Option Nat
  | code, words, [] => if words = wanted then some code else none
  | code, words, s :: rest =>
    match NameMark.ofWord s with
    | .word s => findName wanted code (words ++ [s]) rest
    | .codePoint next => if words = wanted then some code else findName wanted (next - 1) words rest
    | .start kept s =>
      if words = wanted then some code
      else findName wanted (code + 1) (words.take kept ++ if s = "" then [] else [s]) rest
    | .counted names =>
      match (List.range (names + 1)).find? fun i => countedName words i == wanted with
      | some i => some (code + i)
      | none => findName wanted (code + names) (countedName words names) rest

def nameTables : List String := [scriptNames, symbolNames, easternNames, ancientNames, pictureNames]

def inTables? (name : String) : Option Nat :=
  nameTables.findSome? fun table => findName (name.splitOn " ") 0 [] (tableWords table)

/-! ## Names with a rule -/

def leadNames : List String :=
  ["G", "GG", "N", "D", "DD", "R", "M", "B", "BB", "S", "SS", "", "J", "JJ", "C", "K", "T", "P", "H"]

def vowelNames : List String :=
  ["A", "AE", "YA", "YAE", "EO", "E", "YEO", "YE", "O", "WA", "WAE", "OE", "YO", "U", "WEO", "WE", "WI", "YU", "EU",
   "YI", "I"]

def trailNames : List String :=
  ["", "G", "GG", "GS", "N", "NJ", "NH", "D", "L", "LG", "LM", "LB", "LS", "LT", "LP", "LH", "M", "B", "BS", "S", "SS",
   "NG", "J", "C", "K", "T", "P", "H"]

def longestPart? (parts : List String) (cs : List Char) : Option (Nat × List Char) :=
  (parts.zipIdx.foldl (fun best (part, i) =>
    match dropStart? part.toList cs, best with
    | some rest, some (_, shortest) => if rest.length < shortest.length then some (i, rest) else best
    | some rest, none => some (i, rest)
    | none, _ => best) none)

def syllable? (cs : List Char) : Option Nat := do
  let (lead, cs) ← longestPart? leadNames cs
  let (vowel, cs) ← longestPart? vowelNames cs
  let (trail, cs) ← longestPart? trailNames cs
  if cs.isEmpty then some (syllableBase + (lead * vowelCount + vowel) * trailCount + trail) else none

def ideographs : List Run :=
  [⟨0x3400, 0x4DBF⟩, ⟨0x4E00, 0x9FFF⟩, ⟨0x20000, 0x2A6DF⟩, ⟨0x2A700, 0x2B738⟩,
   ⟨0x2B740, 0x2B81D⟩, ⟨0x2B820, 0x2CEA1⟩, ⟨0x2CEB0, 0x2EBE0⟩, ⟨0x30000, 0x3134A⟩]

def ideograph? (digits : List Char) : Option Nat := do
  if digits.length = 4 ∨ digits.length = 5 then
    let code ← capitalHex? digits
    if inRuns ideographs code then some code else none
  else none

def codedNames : List (String × List Run) :=
  [("CJK COMPATIBILITY IDEOGRAPH-", [⟨0xF900, 0xFA6D⟩, ⟨0xFA70, 0xFAD9⟩, ⟨0x2F800, 0x2FA1D⟩]),
   ("KHITAN SMALL SCRIPT CHARACTER-", [⟨0x18B00, 0x18CD5⟩]),
   ("NUSHU CHARACTER-", [⟨0x1B170, 0x1B2FB⟩])]

def coded? (name : String) : Option Nat :=
  codedNames.findSome? fun (start, runs) => do
    let digits ← dropStart? start.toList name.toList
    let code ← capitalHex? digits
    if inRuns runs code ∧ digits.head? ≠ some '0' then some code else none

/-! ## Further names -/

def furtherNames : List (Nat × List String) :=
  [(0x0000, ["NULL", "NUL"]), (0x0001, ["START OF HEADING", "SOH"]), (0x0002, ["START OF TEXT", "STX"]),
   (0x0003, ["END OF TEXT", "ETX"]), (0x0004, ["END OF TRANSMISSION", "EOT"]), (0x0005, ["ENQUIRY", "ENQ"]),
   (0x0006, ["ACKNOWLEDGE", "ACK"]), (0x0007, ["ALERT", "BEL"]), (0x0008, ["BACKSPACE", "BS"]),
   (0x0009, ["CHARACTER TABULATION", "HORIZONTAL TABULATION", "HT", "TAB"]),
   (0x000A, ["LINE FEED", "NEW LINE", "END OF LINE", "LF", "NL", "EOL"]),
   (0x000B, ["LINE TABULATION", "VERTICAL TABULATION", "VT"]), (0x000C, ["FORM FEED", "FF"]),
   (0x000D, ["CARRIAGE RETURN", "CR"]), (0x000E, ["SHIFT OUT", "LOCKING-SHIFT ONE", "SO"]),
   (0x000F, ["SHIFT IN", "LOCKING-SHIFT ZERO", "SI"]), (0x0010, ["DATA LINK ESCAPE", "DLE"]),
   (0x0011, ["DEVICE CONTROL ONE", "DC1"]), (0x0012, ["DEVICE CONTROL TWO", "DC2"]),
   (0x0013, ["DEVICE CONTROL THREE", "DC3"]), (0x0014, ["DEVICE CONTROL FOUR", "DC4"]),
   (0x0015, ["NEGATIVE ACKNOWLEDGE", "NAK"]), (0x0016, ["SYNCHRONOUS IDLE", "SYN"]),
   (0x0017, ["END OF TRANSMISSION BLOCK", "ETB"]), (0x0018, ["CANCEL", "CAN"]), (0x0019, ["END OF MEDIUM", "EOM"]),
   (0x001A, ["SUBSTITUTE", "SUB"]), (0x001B, ["ESCAPE", "ESC"]),
   (0x001C, ["INFORMATION SEPARATOR FOUR", "FILE SEPARATOR", "FS"]),
   (0x001D, ["INFORMATION SEPARATOR THREE", "GROUP SEPARATOR", "GS"]),
   (0x001E, ["INFORMATION SEPARATOR TWO", "RECORD SEPARATOR", "RS"]),
   (0x001F, ["INFORMATION SEPARATOR ONE", "UNIT SEPARATOR", "US"]), (0x0020, ["SP"]), (0x007F, ["DELETE", "DEL"]),
   (0x0080, ["PADDING CHARACTER", "PAD"]), (0x0081, ["HIGH OCTET PRESET", "HOP"]),
   (0x0082, ["BREAK PERMITTED HERE", "BPH"]), (0x0083, ["NO BREAK HERE", "NBH"]), (0x0084, ["INDEX", "IND"]),
   (0x0085, ["NEXT LINE", "NEL"]), (0x0086, ["START OF SELECTED AREA", "SSA"]),
   (0x0087, ["END OF SELECTED AREA", "ESA"]),
   (0x0088, ["CHARACTER TABULATION SET", "HORIZONTAL TABULATION SET", "HTS"]),
   (0x0089, ["CHARACTER TABULATION WITH JUSTIFICATION", "HORIZONTAL TABULATION WITH JUSTIFICATION", "HTJ"]),
   (0x008A, ["LINE TABULATION SET", "VERTICAL TABULATION SET", "VTS"]),
   (0x008B, ["PARTIAL LINE FORWARD", "PARTIAL LINE DOWN", "PLD"]),
   (0x008C, ["PARTIAL LINE BACKWARD", "PARTIAL LINE UP", "PLU"]),
   (0x008D, ["REVERSE LINE FEED", "REVERSE INDEX", "RI"]), (0x008E, ["SINGLE SHIFT TWO", "SINGLE-SHIFT-2", "SS2"]),
   (0x008F, ["SINGLE SHIFT THREE", "SINGLE-SHIFT-3", "SS3"]), (0x0090, ["DEVICE CONTROL STRING", "DCS"]),
   (0x0091, ["PRIVATE USE ONE", "PRIVATE USE-1", "PU1"]), (0x0092, ["PRIVATE USE TWO", "PRIVATE USE-2", "PU2"]),
   (0x0093, ["SET TRANSMIT STATE", "STS"]), (0x0094, ["CANCEL CHARACTER", "CCH"]),
   (0x0095, ["MESSAGE WAITING", "MW"]), (0x0096, ["START OF GUARDED AREA", "START OF PROTECTED AREA", "SPA"]),
   (0x0097, ["END OF GUARDED AREA", "END OF PROTECTED AREA", "EPA"]), (0x0098, ["START OF STRING", "SOS"]),
   (0x0099, ["SINGLE GRAPHIC CHARACTER INTRODUCER", "SGC"]), (0x009A, ["SINGLE CHARACTER INTRODUCER", "SCI"]),
   (0x009B, ["CONTROL SEQUENCE INTRODUCER", "CSI"]), (0x009C, ["STRING TERMINATOR", "ST"]),
   (0x009D, ["OPERATING SYSTEM COMMAND", "OSC"]), (0x009E, ["PRIVACY MESSAGE", "PM"]),
   (0x009F, ["APPLICATION PROGRAM COMMAND", "APC"]), (0x00A0, ["NBSP"]), (0x00AD, ["SHY"]),
   (0x01A2, ["LATIN CAPITAL LETTER GHA"]), (0x01A3, ["LATIN SMALL LETTER GHA"]), (0x034F, ["CGJ"]),
   (0x061C, ["ALM"]), (0x0709, ["SYRIAC SUBLINEAR COLON SKEWED LEFT"]), (0x0CDE, ["KANNADA LETTER LLLA"]),
   (0x0E9D, ["LAO LETTER FO FON"]), (0x0E9F, ["LAO LETTER FO FAY"]), (0x0EA3, ["LAO LETTER RO"]),
   (0x0EA5, ["LAO LETTER LO"]), (0x0FD0, ["TIBETAN MARK BKA- SHOG GI MGO RGYAN"]),
   (0x11EC, ["HANGUL JONGSEONG YESIEUNG-KIYEOK"]), (0x11ED, ["HANGUL JONGSEONG YESIEUNG-SSANGKIYEOK"]),
   (0x11EE, ["HANGUL JONGSEONG SSANGYESIEUNG"]), (0x11EF, ["HANGUL JONGSEONG YESIEUNG-KHIEUKH"]),
   (0x180B, ["FVS1"]), (0x180C, ["FVS2"]), (0x180D, ["FVS3"]), (0x180E, ["MVS"]), (0x180F, ["FVS4"]),
   (0x200B, ["ZWSP"]), (0x200C, ["ZWNJ"]), (0x200D, ["ZWJ"]), (0x200E, ["LRM"]), (0x200F, ["RLM"]),
   (0x202A, ["LRE"]), (0x202B, ["RLE"]), (0x202C, ["PDF"]), (0x202D, ["LRO"]), (0x202E, ["RLO"]),
   (0x202F, ["NNBSP"]), (0x205F, ["MMSP"]), (0x2060, ["WJ"]), (0x2066, ["LRI"]), (0x2067, ["RLI"]),
   (0x2068, ["FSI"]), (0x2069, ["PDI"]), (0x2118, ["WEIERSTRASS ELLIPTIC FUNCTION"]),
   (0x2448, ["MICR ON US SYMBOL"]), (0x2449, ["MICR DASH SYMBOL"]),
   (0x2B7A, ["LEFTWARDS TRIANGLE-HEADED ARROW WITH DOUBLE VERTICAL STROKE"]),
   (0x2B7C, ["RIGHTWARDS TRIANGLE-HEADED ARROW WITH DOUBLE VERTICAL STROKE"]),
   (0xA015, ["YI SYLLABLE ITERATION MARK"]), (0xAA6E, ["MYANMAR LETTER KHAMTI LLA"]),
   (0xFE18, ["PRESENTATION FORM FOR VERTICAL RIGHT WHITE LENTICULAR BRACKET"]),
   (0xFEFF, ["BYTE ORDER MARK", "BOM", "ZWNBSP"]), (0x122D4, ["CUNEIFORM SIGN NU11 TENU"]),
   (0x122D5, ["CUNEIFORM SIGN NU11 OVER NU11 BUR OVER BUR"]), (0x16E56, ["MEDEFAIDRIN CAPITAL LETTER H"]),
   (0x16E57, ["MEDEFAIDRIN CAPITAL LETTER NG"]), (0x16E76, ["MEDEFAIDRIN SMALL LETTER H"]),
   (0x16E77, ["MEDEFAIDRIN SMALL LETTER NG"]), (0x1B001, ["HENTAIGANA LETTER E-1"]),
   (0x1D0C5, ["BYZANTINE MUSICAL SYMBOL FTHORA SKLIRON CHROMA VASIS"])]

def selector? (name : String) : Option Nat :=
  ((List.range 256).find? fun i => "VS" ++ Nat.repr (i + 1) == name).map fun i =>
    if i < 16 then 0xFE00 + i else 0xE00F0 + i

def further? (name : String) : Option Nat :=
  ((furtherNames.find? fun (_, names) => names.contains name).map (·.1)).or (selector? name)

/-- The character with a given name. Capitals and small letters are the same, except where the name is built from
a syllable or from the code point of an ideograph. -/
def named? (name : String) : Option Nat :=
  match dropStart? "HANGUL SYLLABLE ".toList name.toList, dropStart? "CJK UNIFIED IDEOGRAPH-".toList name.toList with
  | some parts, _ => syllable? parts
  | _, some digits => ideograph? digits
  | none, none =>
    let name := name.map Char.toUpper
    ((further? name).or (coded? name)).or (inTables? name)

end Covenant.Text
