import Covenant.Command.Regular
import Covenant.Command.Shell

namespace Covenant.Command.Program

structure Call where
  disk : Disk
  directory : List String
  args : List String
  input : List Char := []

structure Result where
  status : Nat
  out : String := ""
  disk : Option Disk := none

def options (args : List String) : List Char × List String :=
  match args with
  | [] => ([], [])
  | "--" :: rest => ([], rest)
  | arg :: rest =>
    match arg.toList with
    | '-' :: c :: letters =>
      let (more, operands) := options rest
      (c :: letters ++ more, operands)
    | _ =>
      let (more, operands) := options rest
      (more, arg :: operands)

def known (letters : String) (given : List Char) : Bool := given.all (letters.toList.contains ·)

namespace Call

def find? (c : Call) (path : String) : Option DiskEntry := c.disk.find? c.directory path

def text? (c : Call) (path : String) : Option String :=
  if path == "-" then some (String.ofList c.input)
  else match c.find? path with
    | some (.file text) => some text
    | some .device | some .program => some ""
    | _ => none

def resolve (c : Call) (path : String) : Option (List String) := c.disk.resolve c.directory path

end Call

def onEach (c : Call) (operands : List String) (failure : Nat) (step : Call → String → Option Disk) : Result :=
  let (disk, failed) := operands.foldl (fun (disk, failed) path =>
    match step { c with disk := disk } path with
    | some disk => (disk, failed)
    | none => (disk, true)) (c.disk, false)
  { status := if failed then failure else 0, disk := some disk }

def cat (c : Call) : Result :=
  let (letters, operands) := options c.args
  if !known "AbeEnstTuv" letters then { status := 1 }
  else
    let operands := if operands.isEmpty then ["-"] else operands
    let texts := operands.map c.text?
    { status := if texts.all Option.isSome then 0 else 1
      out := String.join (texts.map (·.getD "")) }

def makeDirectory (missingToo : Bool) (c : Call) (path : String) : Option Disk :=
  let path := if path.endsWith "/" then String.ofList (path.toList.reverse.dropWhile (· == '/')).reverse else path
  if missingToo then
    let start := if path.toList.head? == some '/' then [] else c.directory
    let made := (Disk.splitPath path).foldlM (fun ((disk, place) : Disk × List String) part =>
      match disk.walk place [part] with
      | none => none
      | some place => match disk.entry? place with
        | some .directory => some (disk, place)
        | some _ => none
        | none => some (disk.put place .directory, place)) (c.disk, start)
    made.map (·.1)
  else match c.resolve path with
    | some place => if (c.disk.entry? place).isSome then none else some (c.disk.put place .directory)
    | none => none

def mkdir (c : Call) : Result :=
  let (letters, operands) := options c.args
  if !known "pv" letters || operands.isEmpty then { status := 1 }
  else onEach c operands 1 (makeDirectory (letters.contains 'p'))

def touch (c : Call) : Result :=
  let (letters, operands) := options c.args
  if !known "acm" letters || operands.isEmpty then { status := 1 }
  else onEach c operands 1 fun c path =>
    match c.resolve path with
    | none => none
    | some place =>
      if (c.disk.entry? place).isSome || letters.contains 'c' then some c.disk else some (c.disk.put place (.file ""))

def remove (c : Call) : Result :=
  let (letters, operands) := options c.args
  let force := letters.contains 'f'
  if !known "dfirRv" letters || (operands.isEmpty && !force) then { status := 1 }
  else onEach c operands 1 fun c path =>
    match c.resolve path with
    | none => if force then some c.disk else none
    | some place => match c.disk.entry? place with
      | none => if force then some c.disk else none
      | some .directory =>
        if letters.contains 'r' || letters.contains 'R' || (letters.contains 'd' && (c.disk.names place).isEmpty) then
          some (c.disk.remove place)
        else none
      | some _ => some (c.disk.remove place)

def removeDirectory (c : Call) : Result :=
  let (letters, operands) := options c.args
  if !known "pv" letters || operands.isEmpty then { status := 1 }
  else onEach c operands 1 fun c path =>
    match c.resolve path with
    | some place =>
      if c.disk.isDirectory place && (c.disk.names place).isEmpty then some (c.disk.remove place) else none
    | none => none

def inLines (names : List String) : String := String.join (names.map (· ++ "\n"))

def list (c : Call) : Result :=
  let (letters, operands) := options c.args
  if !known "aAbBcCdfFgGhHiklLmnNopqQrRsStuUvxXZ1" letters then { status := 2 }
  else
    let operands := if operands.isEmpty then ["."] else operands
    let shown := operands.map fun path =>
      match c.resolve path with
      | none => none
      | some place => match c.disk.entry? place with
        | none => none
        | some .directory =>
          if letters.contains 'd' then some (path ++ "\n")
          else some (inLines ((c.disk.names place).filter fun name =>
            letters.contains 'a' || name.toList.head? != some '.'))
        | some _ => some (path ++ "\n")
    { status := if shown.all Option.isSome then 0 else 2
      out := String.join (shown.map (·.getD "")) }

def basename (path suffix : String) : String :=
  let parts := Disk.partsOf path
  let last := parts.getLastD "/"
  if suffix != "" && last != suffix && last.endsWith suffix then
    String.ofList (last.toList.take (last.length - suffix.length))
  else last

def dirname (path : String) : String :=
  let trimmed := (path.toList.reverse.dropWhile (· == '/')).reverse
  match Text.cutLast? '/' trimmed with
  | some (before, _) =>
    let before := (before.reverse.dropWhile (· == '/')).reverse
    if before.isEmpty then "/" else String.ofList before
  | none => if trimmed.isEmpty && path != "" then "/" else "."

def linesOf (text : String) : List String :=
  let pieces := Text.splitText '\n' text
  if pieces.getLast? == some "" then pieces.dropLast else pieces

def head (c : Call) : Result :=
  let (count, operands) := match c.args with
    | "-n" :: n :: rest => (n.toNat?, rest)
    | arg :: rest =>
      match arg.toList with
      | '-' :: 'n' :: digits => ((String.ofList digits).toNat?, rest)
      | '-' :: digits => ((String.ofList digits).toNat?, rest)
      | _ => (some 10, arg :: rest)
    | [] => (some 10, [])
  match count with
  | none => { status := 1 }
  | some n =>
    let texts := (if operands.isEmpty then ["-"] else operands).map c.text?
    { status := if texts.all Option.isSome then 0 else 1
      out := String.join (texts.map fun text => inLines ((linesOf (text.getD "")).take n)) }

def wordCount (text : String) : Nat :=
  let isBlank (c : Char) : Bool := c == ' ' || c == '\t' || c == '\n'
  let spaced := String.ofList (text.toList.map fun c => if isBlank c then ' ' else c)
  ((Text.splitText ' ' spaced).filter (· != "")).length

def count (c : Call) : Result :=
  let (letters, operands) := options c.args
  if !known "lwcm" letters then { status := 1 }
  else
    let letters := if letters.isEmpty then ['l', 'w', 'c'] else letters
    let counts (text : String) : List Nat :=
      (if letters.contains 'l' then [(text.toList.filter (· == '\n')).length] else []) ++
      (if letters.contains 'w' then [wordCount text] else []) ++
      (if letters.contains 'm' then [text.length] else []) ++
      (if letters.contains 'c' then [text.utf8ByteSize] else [])
    let row (text name : String) : String :=
      Text.joined " " ((counts text).map toString ++ (if name == "" then [] else [name]))
    if operands.isEmpty then { status := 0, out := row (String.ofList c.input) "" ++ "\n" }
    else
      let texts := operands.map fun path => (path, c.text? path)
      { status := if texts.all (·.2.isSome) then 0 else 1
        out := inLines (texts.filterMap fun (path, text) => text.map (row · path)) }

/-! ## Searching -/

structure SearchOptions where
  letters : List Char := []
  expressions : List String := []
  operands : List String := []

def searchOptions : List String → SearchOptions → Option SearchOptions
  | [], o => some o
  | "--" :: rest, o => some { o with operands := o.operands ++ rest }
  | "-e" :: e :: rest, o => searchOptions rest { o with expressions := o.expressions ++ [e] }
  | arg :: rest, o =>
    match arg.toList with
    | '-' :: c :: letters =>
      if known "EFGHchilnoqsvwx" (c :: letters) then searchOptions rest { o with letters := o.letters ++ c :: letters }
      else none
    | _ => searchOptions rest { o with operands := o.operands ++ [arg] }

def isWordChar (c : Char) : Bool := c.isAlphanum || c == '_'

def search (c : Call) : Result :=
  match searchOptions c.args {} with
  | none => { status := 2 }
  | some o =>
    let (expressions, operands) := match o.expressions, o.operands with
      | [], e :: operands => ([e], operands)
      | es, operands => (es, operands)
    let has (letter : Char) : Bool := o.letters.contains letter
    let cased (s : String) : String := if has 'i' then s.map Char.toLower else s
    let pattern? (e : String) : Option Text.Pattern :=
      if has 'F' then some (if has 'x' then .text (cased e) else Regular.textPattern (cased e))
      else Regular.linePattern? (has 'E') (cased (if has 'x' then "^" ++ e ++ "$" else e))
    match (expressions.flatMap (Text.splitText '\n')).mapM pattern? with
    | none => { status := 2 }
    | some patterns =>
      if expressions.isEmpty then { status := 2 }
      else
        let texts := (if operands.isEmpty then ["-"] else operands).map fun path => (path, c.text? path)
        let selected (text : String) : List String :=
          (linesOf text).filter fun line => patterns.any (·.matchesText (cased line)) != has 'v'
        let found := texts.map fun (path, text) => (path, selected (text.getD ""))
        let label (path line : String) : String := if texts.length > 1 && !has 'h' then path ++ ":" ++ line else line
        let out :=
          if has 'q' then ""
          else if has 'c' then inLines (found.map fun (path, lines) => label path (toString lines.length))
          else if has 'l' then inLines ((found.filter (!·.2.isEmpty)).map (·.1))
          else inLines (found.flatMap fun (path, lines) => lines.map (label path))
        let any := found.any (!·.2.isEmpty)
        let status := if any && has 'q' then 0 else if texts.any (·.2.isNone) then 2 else if any then 0 else 1
        { status := status, out := out }

def run? (name : String) (c : Call) : Option Result :=
  let conditionOf (args : List String) : Result :=
    { status := conditionStatus (condition? ⟨c.disk, c.directory⟩ args) }
  match name with
  | "true" => some { status := 0 }
  | "false" => some { status := 1 }
  | "test" => some (conditionOf c.args)
  | "[" => some (if c.args.getLast? == some "]" then conditionOf c.args.dropLast else { status := 2 })
  | "echo" => some { status := 0, out := Text.joined " " c.args ++ "\n" }
  | "pwd" => some { status := 0, out := Disk.pathText c.directory ++ "\n" }
  | "printf" => some (match c.args with
    | [] => { status := 1 }
    | format :: args =>
      let (bytes, code) := formatted format args
      { status := min code 1, out := Job.decoded bytes })
  | "cat" => some (cat c)
  | "mkdir" => some (mkdir c)
  | "touch" => some (touch c)
  | "rm" => some (remove c)
  | "rmdir" => some (removeDirectory c)
  | "ls" => some (list c)
  | "grep" => some (search c)
  | "head" => some (head c)
  | "wc" => some (count c)
  | "sleep" =>
    let timed := c.args.all (·.toList.all fun d => d.isDigit || d == '.')
    some { status := if !c.args.isEmpty && timed then 0 else 1 }
  | "basename" => some (match c.args with
    | [path] => { status := 0, out := basename path "" ++ "\n" }
    | [path, suffix] => { status := 0, out := basename path suffix ++ "\n" }
    | _ => { status := 1 })
  | "dirname" => some (if c.args.isEmpty then { status := 1 } else { status := 0, out := inLines (c.args.map dirname) })
  | _ => none

end Covenant.Command.Program
