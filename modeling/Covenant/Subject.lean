import Covenant.Command.Start
import Covenant.Command.Words
import Covenant.Desk
import Covenant.Files.Path
import Covenant.Value.Items

namespace Covenant

structure Compiler where
  command : List Value
  sourceRoot : Option String := none

namespace Compiler

def ofLine (line : String) (sourceRoot : Option String) : Except Fault Compiler := do
  let words ← (Command.words line).mapError (·.fault)
  return ⟨words.map .str, sourceRoot⟩

def scratch : String := "/tmp/compiled"

def arguments (c : Compiler) (path : String) : List String :=
  ["-d", scratch] ++ (match c.sourceRoot with
    | some root => if root == "" then [] else ["-sourcepath", root]
    | none => []) ++ [path]

def textOf : Value → Except Fault String
  | .str s => .ok s
  | .bytes bs => match Value.decode? bs with
    | some s => .ok s
    | none => .error { kind := .type }
  | _ => .error { kind := .type }

/-- What the compiler says about a source file, and the files it leaves. One that is not there accepts nothing. -/
def accepts (c : Compiler) (files : FileTree) (path : String) : Except Fault (Bool × FileTree) := do
  if ← files.isFile path then
    match (← c.command.mapM textOf) ++ c.arguments path with
    | [] => return (false, files)
    | program :: args =>
      match ← Command.start files scratch program args with
      | some outcome => return (outcome.succeeded, outcome.files)
      | none => return (false, files)
  else return (false, files)

end Compiler

structure CompileCheck where
  run : FileTree → String → Except Fault (Bool × FileTree)

namespace CompileCheck

def readable : CompileCheck := ⟨fun files path => (files.isFile path).map (·, files)⟩

def answer (b : Bool) : CompileCheck := ⟨fun files _ => .ok (b, files)⟩

def compiler (c : Compiler) : CompileCheck := ⟨c.accepts⟩

end CompileCheck

def defaultSourceSuffix : Value := .str ".java"

structure Subject where
  sourceRoot : String
  className : String
  suffix : Value := defaultSourceSuffix
  check : CompileCheck := .readable
  valid : Option Bool := none

namespace Subject

def path (s : Subject) : String := classPath s.className

def simpleName (s : Subject) : String := Text.afterLastDot s.className

def sourceFile (s : Subject) : Except Fault Path :=
  match s.suffix with
  | .str suffix => .ok (classFile s.sourceRoot s.className suffix)
  | _ => .error { kind := .type }

def same (s t : Subject) : Bool := s.sourceRoot == t.sourceRoot && s.className == t.className

def text (s : Subject) : String :=
  "AnnotatedClass(" ++ Text.quoted s.sourceRoot ++ ", " ++ Text.quoted s.className ++ ")"

/-- The answer of the compile check, and the subject that remembers it. A class without a name is not valid. -/
def validate {τ : Type} (s : Subject) : Run (Desk τ) (Bool × Subject) := do
  match s.valid with
  | some b => return (b, s)
  | none =>
    if s.className == "" then return (false, { s with valid := some false })
    else
      let path := (← Desk.check s.sourceFile).text
      modify fun d => { d with checked := d.checked ++ [path] }
      let (b, files) ← Desk.check (s.check.run (← get).files path)
      modify fun d => { d with files := files }
      return (b, { s with valid := some b })

end Subject

end Covenant
