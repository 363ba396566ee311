import Covenant.Command.Shell

namespace Covenant.Command

def specialNames : List String :=
  [".", ":", "break", "continue", "eval", "exec", "exit", "export", "local", "readonly", "return", "set", "shift",
   "times", "trap", "unset"]

def ordinaryNames : List String :=
  ["[", "alias", "bg", "cd", "chdir", "command", "echo", "false", "fg", "getopts", "hash", "jobs", "kill", "printf",
   "pwd", "read", "test", "true", "type", "ulimit", "umask", "unalias", "wait"]

def reservedWords : List String :=
  ["!", "\x7b", "\x7d", "case", "do", "done", "elif", "else", "esac", "fi", "for", "if", "in", "then", "until", "while"]

namespace Job

def count (text : String) : Job Nat := do
  match decimal? text with
  | some n => if 0 ≤ n && n < Int.pow 2 31 then return n.toNat else mistake
  | none => mistake

def countOr (usual : Nat) (args : List String) : Job Nat :=
  match args with
  | [] => return usual
  | text :: _ => count text

def isName (s : String) : Bool := s.toList.head?.any Parse.isNameStart && s.toList.all Parse.isNamePart

def declaration (text : String) : String × Option String :=
  match Text.cutFirst? '=' text.toList with
  | some (name, value) => (String.ofList name, some (String.ofList value))
  | none => (text, none)

/-! ## Variables -/

def declare (mark : Variable → Variable) (args : List String) : Job Nat := do
  for arg in args do
    let (name, value) := declaration arg
    if !isName name then mistake
    if let some value := value then assign name value
    put name (mark ((← stored? name).getD {}))
  return 0

def unset (args : List String) : Job Nat := do
  let (functions, names) := match args with
    | "-f" :: rest => (true, rest)
    | "-v" :: rest => (false, rest)
    | args => (false, args)
  for name in names do
    if functions then modify fun s => { s with functions := s.functions.filter (·.1 != name) }
    else
      if !isName name then mistake
      if (← stored? name).any (·.isFixed) then mistake
      drop name
  return 0

def makeLocal (args : List String) : Job Nat := do
  match (← get).hidden with
  | [] => mistake
  | frame :: outer =>
    let mut frame := frame
    for arg in args do
      let (name, value) := declaration arg
      if !isName name then mistake
      if (frame.lookup name).isNone then frame := (name, ← stored? name) :: frame
      if let some value := value then assign name value
    let kept := frame
    modify fun s => { s with hidden := kept :: outer }
    return 0

/-- The characters of a line, of which those after a backslash do not separate; a backslash before the line end
continues the line. -/
def lineGlyphs : List Char → List Glyph
  | '\\' :: c :: rest => ⟨c, true⟩ :: lineGlyphs rest
  | ['\\'] => []
  | c :: rest => ⟨c, false⟩ :: lineGlyphs rest
  | [] => []

def distribute (separators : List Char) : List String → List Glyph → Job Unit
  | [], _ => return
  | name :: names, glyphs => do
    let separates (g : Glyph) : Bool := !g.isQuoted && separators.contains g.char
    let isBlank (g : Glyph) : Bool := separates g && (g.char == ' ' || g.char == '\t' || g.char == '\n')
    let glyphs := glyphs.dropWhile isBlank
    if names.isEmpty then
      let whole := (glyphs.reverse.dropWhile isBlank).reverse
      -- a single separator at the very end ends the only field before it
      let whole := match whole.reverse with
        | g :: before => if separates g && !before.any separates then (before.dropWhile isBlank).reverse else whole
        | [] => whole
      assign name (textOf whole)
    else
      let field := glyphs.takeWhile (!separates ·)
      assign name (textOf field)
      let rest := (glyphs.drop field.length).dropWhile isBlank
      let rest := match rest with
        | g :: after => if separates g then after else rest
        | [] => rest
      distribute separators names rest

def continuedLine : Nat → (raw : Bool) → Job (List Char × Bool)
  | 0, _ => return ([], false)
  | fuel + 1, raw => do
    let (line, ended) ← readLine
    let backslashes := (line.reverse.takeWhile (· == '\\')).length
    if !raw && ended && backslashes % 2 == 1 then
      let (more, ended) ← continuedLine fuel raw
      return (line.dropLast ++ more, ended)
    return (line, ended)

def read (args : List String) : Job Nat := do
  let (raw, names) := match args with
    | "-r" :: rest => (true, rest)
    | args => (false, args)
  let names := match names with
    | "-p" :: _ :: rest => rest
    | names => names
  if names.isEmpty || names.any (!isName ·) then return 2
  let (line, ended) ← continuedLine 1000 raw
  let glyphs := if raw then line.map (⟨·, false⟩) else lineGlyphs line
  distribute (← separators) names glyphs
  return if ended then 0 else 1

/-! ## Parameters and options -/

def Options.named (o : Options) (letter : Char) (value : Bool) : Option Options :=
  match letter with
  | 'e' => some { o with stopOnFailure := value }
  | 'u' => some { o with stopOnUnset := value }
  | 'f' => some { o with keepPatterns := value }
  | 'n' => some { o with readOnly := value }
  | 'C' => some { o with keepFiles := value }
  | 'a' => some { o with exportAll := value }
  | c => if "bIimsvVEx".toList.contains c then some o else none

def optionLetters : List (String × Char) :=
  [("errexit", 'e'), ("nounset", 'u'), ("noglob", 'f'), ("noexec", 'n'), ("noclobber", 'C'), ("allexport", 'a'),
   ("xtrace", 'x'), ("verbose", 'v'), ("monitor", 'm'), ("notify", 'b'), ("ignoreeof", 'I'),
   ("vi", 'V'), ("emacs", 'E'), ("interactive", 'i'), ("stdin", 's'), ("nolog", 'x'), ("debug", 'x')]

def setOption (letter : Char) (value : Bool) : Job Unit := do
  match Options.named (← get).options letter value with
  | some o => modify fun s => { s with options := o }
  | none => mistake

def setOptions : List String → Job (Option (List String))
  | [] => return none
  | "--" :: rest => return some rest
  | "-" :: rest => return if rest.isEmpty then none else some rest
  | arg :: rest =>
    match arg.toList with
    | sign :: letters => do
      if sign != '-' && sign != '+' then return some (arg :: rest)
      if letters == ['o'] then
        match rest with
        | [] => return none
        | name :: rest =>
          match optionLetters.lookup name with
          | some letter =>
            setOption letter (sign == '-')
            setOptions rest
          | none => mistake
      else
        letters.forM (setOption · (sign == '-'))
        setOptions rest
    | [] => return some (arg :: rest)

def configure (args : List String) : Job Nat := do
  if let some parameters ← setOptions args then
    modify fun s => { s with parameters := parameters }
  return 0

def shift (args : List String) : Job Nat := do
  let n ← countOr 1 args
  let parameters := (← get).parameters
  if n > parameters.length then mistake
  modify fun s => { s with parameters := parameters.drop n }
  return 0

/-! ## Leaving -/

def exit (args : List String) : Job Nat := do
  throw (.exit (← countOr (← get).last args))

def leaveFunction (args : List String) : Job Nat := do
  throw (.leaveFunction (← countOr (← get).last args))

def leaveLoop (again : Bool) (args : List String) : Job Nat := do
  let n ← countOr 1 args
  if n == 0 then mistake
  match min n (← get).loops with
  | 0 => return 0
  | levels => throw (.leaveLoop levels again)

/-! ## Directories -/

def changeDirectory (args : List String) : Job Nat := do
  let target ← match args.filter fun a => a != "-L" && a != "-P" with
    | [] => pure ((← valueOf? "HOME").getD "")
    | "-" :: _ => pure ((← valueOf? "OLDPWD").getD "")
    | path :: _ => pure path
  let s ← get
  match s.disk.resolve s.directory target with
  | some place =>
    if s.disk.isDirectory place then
      modify fun s => { s with directory := place }
      assign "OLDPWD" (Disk.pathText s.directory)
      assign "PWD" (Disk.pathText place)
      if args.head? == some "-" then write 1 (bytesOf (Disk.pathText place ++ "\n")) else return 0
    else return 2
  | none => return 2

/-! ## Signals -/

def signals : List (String × Nat) :=
  [("EXIT", 0), ("HUP", 1), ("INT", 2), ("QUIT", 3), ("ILL", 4), ("TRAP", 5), ("ABRT", 6), ("BUS", 7), ("FPE", 8),
   ("KILL", 9), ("USR1", 10), ("SEGV", 11), ("USR2", 12), ("PIPE", 13), ("ALRM", 14), ("TERM", 15), ("STKFLT", 16),
   ("CHLD", 17), ("CONT", 18), ("STOP", 19), ("TSTP", 20), ("TTIN", 21), ("TTOU", 22), ("URG", 23), ("XCPU", 24),
   ("XFSZ", 25), ("VTALRM", 26), ("PROF", 27), ("WINCH", 28), ("IO", 29), ("PWR", 30), ("SYS", 31)]

def harmless : List String := ["EXIT", "CHLD", "CONT", "URG", "WINCH", "STOP", "TSTP", "TTIN", "TTOU"]

def signal? (text : String) : Option (String × Nat) :=
  if !text.isEmpty && text.toList.all Char.isDigit then
    text.toNat?.bind fun n => signals.find? (·.2 == n)
  else signals.find? (·.1 == String.ofList (text.toList.map Char.toUpper))

def trap (args : List String) : Job Nat := do
  let args := if args.head? == some "--" then args.drop 1 else args
  let (action, names) := match args with
    | [] => (none, [])
    | [name] => (none, [name])
    | "-" :: names => (none, names)
    | action :: names =>
      if (signal? action).isSome && action.toList.all Char.isDigit then (none, action :: names)
      else (some action, names)
  let mut status := 0
  for name in names do
    match signal? name with
    | none => status := 1
    | some (name, _) =>
      modify fun s => { s with
        traps := (action.map (name, ·)).toList ++ s.traps.filter (·.1 != name) }
  return status

def send (name : String) (number : Nat) (target : String) : Job Nat := do
  match decimal? target with
  | none => return 2
  | some n =>
    let s ← get
    if n.natAbs == s.number && n > 0 then
      if (s.traps.lookup name).isSome && name != "KILL" then
        modify fun s => { s with pending := s.pending ++ [name] }
        return 0
      if harmless.contains name then return 0
      throw (.killed number)
    return 1

def kill (args : List String) : Job Nat := do
  match args with
  | "-l" :: _ => return 0
  | "-s" :: name :: targets => sendAll (signal? name) targets
  | arg :: targets =>
    match arg.toList with
    | '-' :: name =>
      if name == ['-'] then sendAll (some ("TERM", 15)) targets else sendAll (signal? (String.ofList name)) targets
    | _ => sendAll (some ("TERM", 15)) (arg :: targets)
  | [] => return 2
where
  sendAll (signal : Option (String × Nat)) (targets : List String) : Job Nat := do
    match signal with
    | none => return 2
    | some (name, number) =>
      if targets.isEmpty then return 2
      let mut status := 0
      for target in targets do
        status := max status (← send name number target)
      return status

def wait (args : List String) : Job Nat := do
  let background := (← get).background
  match args with
  | [] => return 0
  | args => return match args.getLast?.bind decimal? with
    | some n => (background.lookup n.toNat).getD 127
    | none => 2

/-! ## Reading options of parameters -/

/-- The next option among arguments: its letter and its value, or what is wrong with it. The place is kept in
`OPTIND`, and in an option of several letters in `OPTPOS`. -/
def nextOption (args : List String) : Job Nat := do
  match args with
  | letters :: name :: words =>
    let parameters := (← get).parameters
    let words := if words.isEmpty then parameters else words
    let index := (((← valueOf? "OPTIND").bind decimal?).getD 1).toNat
    let place := (((← valueOf? "OPTPOS").bind decimal?).getD 1).toNat
    let done : Job Nat := do
      assign name "?"
      return 1
    match words[index - 1]? with
    | none => done
    | some word =>
      if word == "--" then
        assign "OPTIND" (toString (index + 1))
        done
      else if word.toList.head? != some '-' || word.length < 2 then done
      else match word.toList[place]? with
        | none => done
        | some c =>
          let atEnd := place + 1 ≥ word.length
          let advance : Job Unit := do
            assign "OPTIND" (toString (if atEnd then index + 1 else index))
            assign "OPTPOS" (toString (if atEnd then 1 else place + 1))
          match letters.toList.dropWhile (· != c) with
          | _ :: ':' :: _ =>
            assign "OPTPOS" "1"
            if !atEnd then
              assign "OPTARG" (String.ofList (word.toList.drop (place + 1)))
              assign "OPTIND" (toString (index + 1))
              assign name c.toString
            else match words[index]? with
              | some value =>
                assign "OPTARG" value
                assign "OPTIND" (toString (index + 2))
                assign name c.toString
              | none =>
                assign "OPTIND" (toString (index + 1))
                if letters.toList.head? == some ':' then
                  assign "OPTARG" c.toString
                  assign name ":"
                else assign name "?"
            return 0
          | _ :: _ =>
            advance
            assign name c.toString
            return 0
          | [] =>
            advance
            if letters.toList.head? == some ':' then assign "OPTARG" c.toString
            assign name "?"
            return 0
  | _ => return 2

/-! ## The commands by name -/

def conditionOf (args : List String) : Job Nat := do
  let s ← get
  return conditionStatus (condition? ⟨s.disk, s.directory⟩ args)

def showDirectory : Job Nat := do
  write 1 (bytesOf (Disk.pathText (← get).directory ++ "\n"))

def builtin? (name : String) (args : List String) : Option (Job Nat) :=
  match name with
  | ":" | "true" | "times" | "umask" | "ulimit" | "jobs" => some (return 0)
  | "false" => some (return 1)
  | "bg" | "fg" => some (return 2)
  | "alias" => some (return if args.all (·.toList.contains '=') then 0 else 1)
  | "unalias" => some (return if args.head? == some "-a" then 0 else 1)
  | "echo" => some (write 1 (echoed args))
  | "printf" => some (match args with
    | [] => return 2
    | format :: args =>
      let (bytes, code) := formatted format args
      write 1 bytes code)
  | "pwd" => some showDirectory
  | "test" => some (conditionOf args)
  | "[" => some (if args.getLast?.any (·.startsWith "]") then conditionOf args.dropLast else return 2)
  | "cd" | "chdir" => some (changeDirectory args)
  | "export" => some (declare (fun v => { v with isExported := true }) (args.filter (· != "-p")))
  | "readonly" => some (declare (fun v => { v with isFixed := true }) (args.filter (· != "-p")))
  | "unset" => some (unset args)
  | "local" => some (makeLocal args)
  | "read" => some (read args)
  | "set" => some (configure args)
  | "shift" => some (shift args)
  | "exit" => some (exit args)
  | "return" => some (leaveFunction args)
  | "break" => some (leaveLoop false args)
  | "continue" => some (leaveLoop true args)
  | "trap" => some (trap args)
  | "kill" => some (kill args)
  | "wait" => some (wait args)
  | "getopts" => some (nextOption args)
  | _ => none

end Job

end Covenant.Command
