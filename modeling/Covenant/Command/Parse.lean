import Covenant.Command.Script
import Covenant.Text.Pieces

namespace Covenant.Command

abbrev Parse := StateT (List Char) Option

namespace Parse

def fail {α : Type} : Parse α := fun _ => none

def isNameStart (c : Char) : Bool := c.isAlpha || c == '_'
def isNamePart (c : Char) : Bool := c.isAlphanum || c == '_'

def isMark (c : Char) : Bool := ['#', '@', '*', '$', '?', '!', '-'].contains c

def endsWord (c : Char) : Bool := [' ', '\t', '\n', ';', '&', '|', '<', '>', '(', ')'].contains c

/-! ## Blanks and marks -/

def skipBlanks : List Char → List Char
  | ' ' :: rest => skipBlanks rest
  | '\t' :: rest => skipBlanks rest
  | '\\' :: '\n' :: rest => skipBlanks rest
  | '#' :: rest => rest.dropWhile (· != '\n')
  | cs => cs

def skipLinesWithin : Nat → List Char → List Char
  | 0, cs => cs
  | fuel + 1, cs => match skipBlanks cs with
    | '\n' :: rest => skipLinesWithin fuel rest
    | cs => cs

def skipLines (cs : List Char) : List Char := skipLinesWithin (cs.length + 1) cs

def blanks : Parse Unit := modify skipBlanks
def lines : Parse Unit := modify skipLines

def accept (text : String) : Parse Bool := do
  match Text.dropStart? text.toList (← get) with
  | some rest =>
    set rest
    return true
  | none => return false

def expect (text : String) : Parse Unit := do
  if !(← accept text) then fail

def sees (text : String) : Parse Bool := return text.toList.isPrefixOf (← get)

def bareWord? (cs : List Char) : Option String :=
  let chars := cs.takeWhile (!endsWord ·)
  if chars.isEmpty || chars.any (['\\', '\'', '"', '$', '\x60'].contains ·) then none else some (String.ofList chars)

def keyword (k : String) : Parse Bool := do
  blanks
  if bareWord? (← get) == some k then
    modify (·.drop k.length)
    return true
  else return false

def need (k : String) : Parse Unit := do
  if !(← keyword k) then fail

def closers : List String := ["then", "else", "elif", "fi", "do", "done", "esac", "\x7d"]

def atCloser : Parse Bool := do
  let cs ← get
  return cs.isEmpty || cs.head? == some ')' || (← sees ";;") || (bareWord? cs).any closers.contains

/-! ## Words -/

inductive Mode where
  | word
  | double
  | brace (isQuoted : Bool)
  | text
deriving DecidableEq

def Mode.isQuoted : Mode → Bool
  | .word => false
  | .double => true
  | .brace q => q
  | .text => true

def Mode.endsAt : Mode → Char → Bool
  | .word, c => endsWord c
  | .double, c => c == '"'
  | .brace _, c => c == '\x7d'
  | .text, _ => false

def Mode.keeps : Mode → Char → Bool
  | mode, c => ['$', '\x60', '\\'].contains c ||
    (c == '"' && mode != .text) || (c == '\x7d' && mode == .brace true)

def isOrdinary (mode : Mode) (c : Char) : Bool :=
  !(mode.endsAt c || ['\\', '\'', '"', '$', '\x60'].contains c)

def literal (mode : Mode) (cs : List Char) : Piece :=
  if mode.isQuoted then .quoted (String.ofList cs) else .plain (String.ofList cs)

def escape (mode : Mode) (cs : List Char) : List Piece × List Char :=
  match cs with
  | [] => ([.quoted "\\"], [])
  | '\n' :: rest => ([], rest)
  | c :: rest =>
    if !mode.isQuoted || mode.keeps c then ([.quoted c.toString], rest) else ([.quoted "\\"], c :: rest)

/-- Splits at the two parentheses that close a calculation; `depth` are the open ones inside. -/
def calculation? : (depth : Nat) → List Char → (done : List Char) → Option (List Char × List Char)
  | _, [], _ => none
  | 0, ')' :: ')' :: rest, done => some (done.reverse, rest)
  | 0, ')' :: _, _ => none
  | depth + 1, ')' :: rest, done => calculation? depth rest (')' :: done)
  | depth, '(' :: rest, done => calculation? (depth + 1) rest ('(' :: done)
  | depth, c :: rest, done => calculation? depth rest (c :: done)

def backQuoted? (mode : Mode) : List Char → (done : List Char) → Option (List Char × List Char)
  | [], _ => none
  | '\x60' :: rest, done => some (done.reverse, rest)
  | '\\' :: c :: rest, done =>
    if ['$', '\x60', '\\'].contains c || (c == '"' && mode.isQuoted) then backQuoted? mode rest (c :: done)
    else backQuoted? mode rest (c :: '\\' :: done)
  | c :: rest, done => backQuoted? mode rest (c :: done)

def parameterName? (cs : List Char) : Option (String × List Char) :=
  match cs with
  | [] => none
  | c :: rest =>
    if isNameStart c then some (String.ofList (cs.takeWhile isNamePart), cs.dropWhile isNamePart)
    else if c.isDigit then some (String.ofList (cs.takeWhile Char.isDigit), cs.dropWhile Char.isDigit)
    else if isMark c then some (c.toString, rest)
    else none

def assigned? (cs : List Char) : Option (String × List Char) :=
  let name := cs.takeWhile isNamePart
  match name, cs.drop name.length with
  | c :: _, '=' :: rest => if isNameStart c then some (String.ofList name, rest) else none
  | _, _ => none

def within {α : Type} (text : List Char) (p : Parse α) : Parse α := do
  match p.run text with
  | some (a, []) => return a
  | _ => fail

/-! ## Texts in place -/

def descriptor? (cs : List Char) : Option (Option Nat × List Char) :=
  let digits := cs.takeWhile Char.isDigit
  let rest := cs.drop digits.length
  if rest.head? == some '<' || rest.head? == some '>' then
    some ((String.ofList digits).toNat?, rest)
  else none

def redirections : List (String × Nat × RedirectMode) :=
  [("<&", 0, .copy), ("<>", 0, .readWrite), ("<", 0, .read), (">>", 1, .append), (">&", 1, .copy), (">|", 1, .write),
   (">", 1, .write)]

def acceptFirst {α : Type} : List (String × α) → Parse (Option α)
  | [] => return none
  | (text, a) :: rest => do if ← accept text then return some a else acceptFirst rest

def delimiter (w : Word) : String × Bool :=
  w.foldl (fun (text, q) p => match p with
    | .plain s => (text ++ s, q)
    | .quoted s => (text ++ s, true)
    | _ => (text, q)) ("", false)

def takeText (delimiter : List Char) (strip : Bool) : Parse (List Char) := do
  let cs ← get
  let line := cs.takeWhile (· != '\n')
  let following := (Text.pieces '\n' (cs.drop (line.length + 1))).map fun l =>
    if strip then l.dropWhile (· == '\t') else l
  let body := following.takeWhile (· != delimiter)
  let rest := following.drop (body.length + 1)
  set (line ++ '\n' :: (rest.intersperse ['\n']).flatten)
  -- the text after the last line end is a line only if it is not empty
  let body :=
    if rest.isEmpty && body.length == following.length && body.getLast? == some [] then body.dropLast
    else body
  return body.flatMap (· ++ ['\n'])

/-! ## Commands -/

mutual
def pieces : Nat → Mode → Parse (List Piece)
  | 0, _ => fail
  | fuel + 1, mode => do
    match ← get with
    | [] => if mode == .word || mode == .text then return [] else fail
    | c :: cs =>
      if mode.endsAt c then return []
      let found ← piece fuel mode c cs
      return found ++ (← pieces fuel mode)
def piece : Nat → Mode → Char → List Char → Parse (List Piece)
  | 0, _, _, _ => fail
  | fuel + 1, mode, c, cs => do
    if c == '\\' then
      let (found, rest) := escape mode cs
      set rest
      return found
    else if c == '\'' && !mode.isQuoted then
      let inside := cs.takeWhile (· != '\'')
      match cs.drop inside.length with
      | _ :: rest =>
        set rest
        return [.quoted (String.ofList inside)]
      | [] => fail
    else if c == '"' && mode != .text then
      set cs
      let inside ← pieces fuel .double
      expect "\""
      return if inside.isEmpty then [.quoted ""] else inside
    else if c == '$' then
      set cs
      return [← dollar fuel mode]
    else if c == '\x60' then
      match backQuoted? mode cs [] with
      | some (text, rest) =>
        let body ← within text (commands fuel)
        set rest
        return [.output body mode.isQuoted]
      | none => fail
    else
      let run := c :: cs.takeWhile (isOrdinary mode)
      set (cs.dropWhile (isOrdinary mode))
      return [literal mode run]
def dollar : Nat → Mode → Parse Piece
  | 0, _ => fail
  | fuel + 1, mode => do
    match ← get with
    | '(' :: '(' :: cs =>
      match calculation? 0 cs [] with
      | some (text, rest) =>
        let expression ← within text (pieces fuel .text)
        set rest
        return .arithmetic expression mode.isQuoted
      | none => fail
    | '(' :: cs =>
      set cs
      let body ← commands fuel
      expect ")"
      return .output body mode.isQuoted
    | '\x7b' :: cs =>
      set cs
      braces fuel mode.isQuoted
    | c :: cs =>
      if isNameStart c then
        set ((c :: cs).dropWhile isNamePart)
        return .parameter (String.ofList ((c :: cs).takeWhile isNamePart)) .value mode.isQuoted
      else if c.isDigit || isMark c then
        set cs
        return .parameter c.toString .value mode.isQuoted
      else return literal mode ['$']
    | [] => return literal mode ['$']
def braces : Nat → (isQuoted : Bool) → Parse Piece
  | 0, _ => fail
  | fuel + 1, isQuoted => do
    let cs ← get
    match cs with
    | '#' :: rest =>
      if let some (name, '\x7d' :: after) := parameterName? rest then
        set after
        return .parameter name .length isQuoted
    | _ => pure ()
    match parameterName? cs with
    | none =>
      let _ ← pieces fuel (.brace isQuoted)
      expect "\x7d"
      return .parameter "" .bad isQuoted
    | some (name, rest) =>
      set rest
      let form ← form fuel isQuoted
      expect "\x7d"
      return .parameter name form isQuoted
def form : Nat → (isQuoted : Bool) → Parse Form
  | 0, _ => fail
  | fuel + 1, isQuoted => do
    if ← sees "\x7d" then return .value
    if ← accept "%%" then return .trimmed true true (← pieces fuel (.brace false))
    if ← accept "%" then return .trimmed true false (← pieces fuel (.brace false))
    if ← accept "##" then return .trimmed false true (← pieces fuel (.brace false))
    if ← accept "#" then return .trimmed false false (← pieces fuel (.brace false))
    let emptyToo ← accept ":"
    if ← accept "-" then return .orElse emptyToo (← pieces fuel (.brace isQuoted))
    if ← accept "=" then return .orAssign emptyToo (← pieces fuel (.brace isQuoted))
    if ← accept "?" then return .orFail emptyToo (← pieces fuel (.brace isQuoted))
    if ← accept "+" then return .ifPresent emptyToo (← pieces fuel (.brace isQuoted))
    let _ ← pieces fuel (.brace isQuoted)
    return .bad
def word : Nat → Parse Word
  | 0 => fail
  | fuel + 1 => do
    blanks
    match ← pieces fuel .word with
    | [] => fail
    | w => return w
def redirection? : Nat → Parse (Option Redirection)
  | 0 => fail
  | fuel + 1 => do
    blanks
    match descriptor? (← get) with
    | none => return none
    | some (number, rest) =>
      set rest
      if ← accept "<<" then
        let strip ← accept "-"
        let (delimiter, isQuoted) := delimiter (← word fuel)
        let text ← takeText delimiter.toList strip
        let body ← if isQuoted then pure [Piece.quoted (String.ofList text)] else within text (pieces fuel .text)
        return some (.text (number.getD 0) body)
      match ← acceptFirst redirections with
      | some (usual, mode) => return some (.file (number.getD usual) mode (← word fuel))
      | none => fail
def redirectionsHere : Nat → Parse (List Redirection)
  | 0 => fail
  | fuel + 1 => do
    match ← redirection? fuel with
    | some r => return r :: (← redirectionsHere fuel)
    | none => return []
def simple : Nat → List (String × Word) → List Word → List Redirection → Parse Statement
  | 0, _, _, _ => fail
  | fuel + 1, assignments, words, redirections => do
    if let some r ← redirection? fuel then return ← simple fuel assignments words (redirections ++ [r])
    let cs ← get
    match cs with
    | [] => finish assignments words redirections
    | c :: _ =>
      if endsWord c then finish assignments words redirections
      else if let (true, some (name, rest)) := (words.isEmpty, assigned? cs) then
        set rest
        simple fuel (assignments ++ [(name, ← pieces fuel .word)]) words redirections
      else
        let name := bareWord? cs
        let w ← pieces fuel .word
        blanks
        if let (some name, '(' :: rest) := (name.filter fun _ => assignments.isEmpty && words.isEmpty, ← get) then
          set (skipBlanks rest)
          expect ")"
          lines
          return .function name (← command fuel)
        simple fuel assignments (words ++ [w]) redirections
where
  finish (assignments : List (String × Word)) (words : List Word) (redirections : List Redirection) :
      Parse Statement := do
    if assignments.isEmpty && words.isEmpty && redirections.isEmpty then fail
    return .simple assignments words redirections
def wordsHere : Nat → Parse (List Word)
  | 0 => fail
  | fuel + 1 => do
    blanks
    match ← get with
    | [] => return []
    | c :: _ => if endsWord c then return [] else return (← pieces fuel .word) :: (← wordsHere fuel)
def command : Nat → Parse Statement
  | 0 => fail
  | fuel + 1 => do
    blanks
    let cs ← get
    let compound ←
      if cs.head? == some '(' then do
        set (cs.drop 1)
        let body ← someCommands fuel
        expect ")"
        pure (some (.subshell body))
      else match bareWord? cs with
        | some "\x7b" => do
          need "\x7b"
          let body ← someCommands fuel
          need "\x7d"
          pure (some (.group body))
        | some "if" => do
          need "if"
          pure (some (← choice fuel))
        | some "while" => do
          need "while"
          pure (some (← loop fuel true))
        | some "until" => do
          need "until"
          pure (some (← loop fuel false))
        | some "for" => do
          need "for"
          pure (some (← each fuel))
        | some "case" => do
          need "case"
          pure (some (← select fuel))
        | some w => if closers.contains w || w == "!" then fail else pure none
        | none => pure none
    match compound with
    | none => simple fuel [] [] []
    | some body =>
      match ← redirectionsHere fuel with
      | [] => return body
      | redirections => return .redirected body redirections
def choice : Nat → Parse Statement
  | 0 => fail
  | fuel + 1 => do
    let condition ← someCommands fuel
    need "then"
    let yes ← someCommands fuel
    if ← keyword "elif" then return .choice condition yes [← choice fuel]
    let no ← if ← keyword "else" then someCommands fuel else pure []
    need "fi"
    return .choice condition yes no
def loop : Nat → (wanted : Bool) → Parse Statement
  | 0, _ => fail
  | fuel + 1, wanted => do
    let condition ← someCommands fuel
    return .loop wanted condition (← body fuel)
def body : Nat → Parse (List Statement)
  | 0 => fail
  | fuel + 1 => do
    need "do"
    let found ← someCommands fuel
    need "done"
    return found
def each : Nat → Parse Statement
  | 0 => fail
  | fuel + 1 => do
    blanks
    match bareWord? (← get) with
    | none => fail
    | some name =>
      if !(name.toList.head?.any isNameStart && name.toList.all isNamePart) then fail
      need name
      lines
      let words ←
        if ← keyword "in" then do
          let words ← wordsHere fuel
          if !(← accept ";") then expect "\n"
          pure (some words)
        else do
          let _ ← accept ";"
          pure none
      lines
      return .each name words (← body fuel)
def select : Nat → Parse Statement
  | 0 => fail
  | fuel + 1 => do
    let w ← word fuel
    lines
    need "in"
    lines
    return .select w (← branches fuel)
def branches : Nat → Parse (List (List Word × List Statement))
  | 0 => fail
  | fuel + 1 => do
    if ← keyword "esac" then return []
    let _ ← accept "("
    let patterns ← alternatives fuel
    expect ")"
    let body ← commands fuel
    if ← accept ";;" then
      lines
      return (patterns, body) :: (← branches fuel)
    need "esac"
    return [(patterns, body)]
def alternatives : Nat → Parse (List Word)
  | 0 => fail
  | fuel + 1 => do
    let first ← word fuel
    blanks
    if ← accept "|" then return first :: (← alternatives fuel) else return [first]
def pipeline : Nat → Parse Statement
  | 0 => fail
  | fuel + 1 => do
    let negated ← keyword "!"
    let stages ← stages fuel
    let whole := match stages with
      | [c] => c
      | stages => .pipeline stages
    return if negated then .negated whole else whole
def stages : Nat → Parse (List Statement)
  | 0 => fail
  | fuel + 1 => do
    let first ← command fuel
    blanks
    if (← sees "|") && !(← sees "||") then
      expect "|"
      lines
      return first :: (← stages fuel)
    return [first]
def conditional : Nat → Option Statement → Parse Statement
  | 0, _ => fail
  | fuel + 1, none => do conditional fuel (some (← pipeline fuel))
  | fuel + 1, some first => do
    blanks
    if ← accept "&&" then
      lines
      conditional fuel (some (.both first (← pipeline fuel)))
    else if ← accept "||" then
      lines
      conditional fuel (some (.either first (← pipeline fuel)))
    else return first
/-- The commands up to the end of a list; only if `oneLine` the end of a line is the end of the list. -/
def list : Nat → (oneLine : Bool) → Parse (List Statement)
  | 0, _ => fail
  | fuel + 1, oneLine => do
    if oneLine then blanks else lines
    if (← atCloser) || (oneLine && (← sees "\n")) then return []
    let first ← conditional fuel none
    if (← sees ";") && !(← sees ";;") then
      expect ";"
      return first :: (← list fuel oneLine)
    if ← accept "&" then return .background first :: (← list fuel oneLine)
    if oneLine then return [first]
    if ← accept "\n" then return first :: (← list fuel oneLine)
    return [first]
def commands : Nat → Parse (List Statement)
  | 0 => fail
  | fuel + 1 => list fuel false
def someCommands : Nat → Parse (List Statement)
  | 0 => fail
  | fuel + 1 => do
    match ← commands fuel with
    | [] => fail
    | found => return found
end

end Parse

inductive NextLine where
  | done
  | line (commands : List Statement) (rest : List Char)
  | mistake

/-- The next line of a script. Every character is passed over by a bounded number of calls. -/
def nextLine (text : List Char) : NextLine :=
  match Parse.skipLines text with
  | [] => .done
  | cs =>
    match (Parse.list (16 * cs.length + 64) true).run cs with
    | some (commands, []) => .line commands []
    | some (commands, '\n' :: rest) => if commands.isEmpty then .mistake else .line commands rest
    | _ => .mistake

end Covenant.Command
