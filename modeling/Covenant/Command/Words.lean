import Covenant.Fault

namespace Covenant.Command

inductive WordError where
  | openQuote
  | nothingEscaped
deriving Repr, DecidableEq

def WordError.message : WordError → String
  | openQuote => "No closing quotation"
  | nothingEscaped => "No escaped character"

def WordError.fault (e : WordError) : Fault := ⟨.value, e.message, []⟩

inductive WordState where
  | between
  | word
  | escape
  | quoted (quote : Char)
  | quotedEscape
deriving Repr, DecidableEq

def isSeparator (c : Char) : Bool := c == ' ' || c == '\t' || c == '\r' || c == '\n'

def scanWords : WordState → (current : List Char) → List Char → Except WordError (List String)
  | .between, _, [] => .ok []
  | .word, current, [] => .ok [finish current]
  | .escape, _, [] => .error .nothingEscaped
  | .quotedEscape, _, [] => .error .nothingEscaped
  | .quoted _, _, [] => .error .openQuote
  | .between, _, c :: cs =>
    if isSeparator c then scanWords .between [] cs
    else if c == '\\' then scanWords .escape [] cs
    else if c == '\'' || c == '"' then scanWords (.quoted c) [] cs
    else scanWords .word [c] cs
  | .word, current, c :: cs =>
    if isSeparator c then (scanWords .between [] cs).map (finish current :: ·)
    else if c == '\\' then scanWords .escape current cs
    else if c == '\'' || c == '"' then scanWords (.quoted c) current cs
    else scanWords .word (c :: current) cs
  | .escape, current, c :: cs => scanWords .word (c :: current) cs
  | .quoted quote, current, c :: cs =>
    if c == quote then scanWords .word current cs
    else if c == '\\' && quote == '"' then scanWords .quotedEscape current cs
    else scanWords (.quoted quote) (c :: current) cs
  | .quotedEscape, current, c :: cs =>
    if c == '\\' || c == '"' then scanWords (.quoted '"') (c :: current) cs
    else scanWords (.quoted '"') (c :: '\\' :: current) cs
where
  finish (current : List Char) : String := String.ofList current.reverse

def words (line : String) : Except WordError (List String) :=
  scanWords .between [] line.toList

end Covenant.Command
