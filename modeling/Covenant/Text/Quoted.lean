import Covenant.Text.Printable

namespace Covenant.Text

def hex (width : Nat) (n : Nat) : String :=
  let ds := Nat.toDigits 16 n
  String.ofList (List.replicate (width - ds.length) '0' ++ ds)

def quoteFor (codes : List Nat) : Char :=
  if codes.contains 39 && !codes.contains 34 then '"' else '\''

def escapeCode (quote : Char) (code : Nat) : String :=
  if code = quote.toNat then "\\" ++ quote.toString
  else if code = 92 then "\\\\"
  else if code = 10 then "\\n"
  else if code = 13 then "\\r"
  else if code = 9 then "\\t"
  else if isPrintable code then (Char.ofNat code).toString
  else if code < 0x100 then "\\x" ++ hex 2 code
  else if code < 0x10000 then "\\u" ++ hex 4 code
  else "\\U" ++ hex 8 code

def quoteCodes (codes : List Nat) : String :=
  let quote := quoteFor codes
  quote.toString ++ String.join (codes.map (escapeCode quote)) ++ quote.toString

def quoted (s : String) : String :=
  quoteCodes (s.toList.map Char.toNat)

def escapeByte (quote : Char) (byte : Nat) : String :=
  if byte < 127 then escapeCode quote byte else "\\x" ++ hex 2 byte

def quoteBytes (bytes : List Nat) : String :=
  let quote := quoteFor bytes
  "b" ++ quote.toString ++ String.join (bytes.map (escapeByte quote)) ++ quote.toString

end Covenant.Text
