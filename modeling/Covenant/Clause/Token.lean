import Covenant.Clause.StringLiteral
import Covenant.Text.Identifier
import Covenant.Text.Normal
import Covenant.Text.Pieces

namespace Covenant.Clause

inductive Token where
  | name (id : String)
  | keyword (word : String)
  | number (c : Constant)
  | text (codes : List Nat)
  | bytes (bs : List Nat)
  | formatted (fields : List (List Token))
  | sym (s : String)
  | newline
deriving Inhabited

def keywords : List String :=
  ["False", "None", "True", "and", "as", "assert", "async", "await", "break", "class", "continue", "def", "del",
   "elif", "else", "except", "finally", "for", "from", "global", "if", "import", "in", "is", "lambda", "nonlocal",
   "not", "or", "pass", "raise", "return", "try", "while", "with", "yield"]

def wordToken? (word : List Char) : Option Token :=
  let written := String.ofList word
  if keywords.contains written then some (.keyword written)
  else if word.all (fun c => c.toNat < 128) then some (.name written)
  else match word with
    | c :: rest =>
      if Text.isIdentifierStart c && rest.all Text.isIdentifierRest then some (.name (Text.normalForm written))
      else none
    | [] => none

def symbols : List String :=
  ["**=", "//=", "<<=", ">>=", "...",
   "!=", "%=", "&=", "**", "*=", "+=", "-=", "->", "//", "/=", ":=", "<<", "<=", "==", ">=", ">>", "@=", "^=", "|=",
   "%", "&", "(", ")", "*", "+", ",", "-", ".", "/", ":", ";", "<", "=", ">", "@", "[", "]", "^", "\x7b", "|",
   "\x7d", "~"]

def scanSymbol (cs : List Char) : Option (String × List Char) :=
  symbols.findSome? fun s => (Text.dropStart? s.toList cs).map fun rest => (s, rest)

def bracketsAfter (s : String) (opened : List Char) : Option (List Char) :=
  match s.toList with
  | [c] =>
    if c = '(' ∨ c = '[' ∨ c = '\x7b' then
      -- the number of nested brackets is limited
      if 200 ≤ opened.length then none else some (c :: opened)
    else if c = ')' ∨ c = ']' ∨ c = '\x7d' then
      match opened with
      | opening :: below => if closes opening c then some below else none
      | [] => none
    else some opened
  | _ => some opened

def unifyLines : List Char → List Char
  | '\r' :: '\n' :: cs => '\n' :: unifyLines cs
  | '\r' :: cs => '\n' :: unifyLines cs
  | c :: cs => c :: unifyLines cs
  | [] => []

/-- The width of the blanks at the start of a line, and the rest. A form feed starts over; the width before a
continued line counts unless it is zero. -/
def lineStart : Nat → Nat → Nat → List Char → Option (Nat × List Char)
  | 0, _, _, _ => none
  | fuel + 1, width, before, c :: cs =>
    if c = ' ' ∨ c = '\t' then lineStart fuel (width + 1) before cs
    else if c = '\x0c' then lineStart fuel 0 before cs
    else if c = '\\' then
      match cs with
      | '\n' :: d :: cs => lineStart fuel width (if before = 0 then width else before) (d :: cs)
      | _ => none
    else some (if before = 0 then width else before, c :: cs)
  | _, width, before, [] => some (if before = 0 then width else before, [])

def isLineBlank (c : Char) : Bool :=
  c == ' ' || c == '\t' || c == '\x0c'

mutual
def tokensIn : Nat → List Char → List Char → Option (List Token)
  | 0, _, _ => none
  | _, opened, [] => if opened.isEmpty then some [] else none
  | fuel + 1, opened, c :: cs =>
    if isLineBlank c then tokensIn fuel opened cs
    else if c = '#' then tokensIn fuel opened (cs.dropWhile (· ≠ '\n'))
    else if c = '\n' then
      if opened.isEmpty then (tokensAt fuel opened cs).map (.newline :: ·) else tokensAt fuel opened cs
    else if c = '\\' then
      match cs with
      | '\n' :: d :: cs => tokensIn fuel opened (d :: cs)
      | _ => none
    else if c.isDigit || (c == '.' && cs.head?.any Char.isDigit) then do
      let (constant, rest) ← scanNumber (c :: cs)
      (tokensIn fuel opened rest).map (.number constant :: ·)
    else if c = '\'' ∨ c = '"' then textToken fuel opened {} c cs
    else if isWordChar c then
      let word := c :: cs.takeWhile isWordChar
      let rest := cs.dropWhile isWordChar
      match textMarks? word, rest with
      | some marks, quote :: after =>
        if quote = '\'' ∨ quote = '"' then textToken fuel opened marks quote after
        else do (tokensIn fuel opened rest).map ((← wordToken? word) :: ·)
      | _, _ => do (tokensIn fuel opened rest).map ((← wordToken? word) :: ·)
    else do
      let (s, rest) ← scanSymbol (c :: cs)
      let opened ← bracketsAfter s opened
      (tokensIn fuel opened rest).map (.sym s :: ·)
def tokensAt : Nat → List Char → List Char → Option (List Token)
  | 0, _, _ => none
  | fuel + 1, opened, cs => do
    let (width, rest) ← lineStart (cs.length + 1) 0 0 cs
    match rest with
    | '#' :: _ =>
      match rest.dropWhile (· ≠ '\n') with
      | _ :: rest => tokensAt fuel opened rest
      | [] => tokensIn fuel opened []
    | '\n' :: rest => tokensAt fuel opened rest
    | rest => if 0 < width && opened.isEmpty then none else tokensIn fuel opened rest
def textToken : Nat → List Char → TextMarks → Char → List Char → Option (List Token)
  | 0, _, _, _, _ => none
  | fuel + 1, opened, marks, quote, cs => do
    let (body, rest) ← quotedBody quote cs
    let token ←
      if marks.formatted then do
        let sources ← embeddedSources marks.raw body
        let fields ← sources.mapM fun source => tokensIn fuel [] ('(' :: source ++ [')'])
        pure (Token.formatted fields)
      else if marks.bytes then (bodyCodes marks body).map Token.bytes
      else (bodyCodes marks body).map Token.text
    (tokensIn fuel opened rest).map (token :: ·)
end

def tokens (cs : List Char) : Option (List Token) :=
  tokensAt (2 * cs.length + 8) [] (unifyLines cs)

end Covenant.Clause
