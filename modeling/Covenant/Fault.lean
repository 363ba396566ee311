import Covenant.Clause.Error
import Covenant.Text.Quoted

namespace Covenant

inductive FaultKind where
  -- the general kinds
  | any
  | ordinary
  -- faults of the verifier
  | verifier
  | request
  | usage
  | engine
  | unsupported
  | semantic
  | engineSetup
  -- faults of data
  | value
  | key
  | index
  | type
  | attribute
  | overflow
  | undecodable
  | invalid
  | markup
  -- faults of the surroundings
  | runtime
  | depth
  | system
  | missingFile
  | directory
  | notDirectory
  | permission
  | interrupt
  -- faults of the command line
  | commandUsage
  | missingOption
  | unknownOption
  | optionValue
deriving Repr, DecidableEq

namespace FaultKind

def ancestors : FaultKind → List FaultKind
  | any => [any]
  | ordinary => [ordinary, any]
  | verifier => [verifier, ordinary, any]
  | request => [request, verifier, value, ordinary, any]
  | usage => [usage, verifier, runtime, ordinary, any]
  | engine => [engine, verifier, ordinary, any]
  | unsupported => [unsupported, engine, verifier, ordinary, any]
  | semantic => [semantic, engine, verifier, ordinary, any]
  | engineSetup => [engineSetup, engine, verifier, ordinary, any]
  | undecodable => [undecodable, value, ordinary, any]
  | invalid => [invalid, value, ordinary, any]
  | missingFile => [missingFile, system, ordinary, any]
  | directory => [directory, system, ordinary, any]
  | notDirectory => [notDirectory, system, ordinary, any]
  | permission => [permission, system, ordinary, any]
  | depth => [depth, runtime, ordinary, any]
  | interrupt => [interrupt, any]
  | kind => [kind, ordinary, any]

def isA (kind other : FaultKind) : Bool :=
  kind.ancestors.contains other

end FaultKind

structure Problem where
  location : List String
  rule : String
deriving Repr, DecidableEq

structure Fault where
  kind : FaultKind
  message : String := ""
  problems : List Problem := []
deriving Repr, DecidableEq

namespace Fault

def missingKey (name : String) : Fault := ⟨.key, Text.quoted name, []⟩

def raised (kind : FaultKind) (message : String) : Fault :=
  match kind with
  | .key => missingKey message
  | kind => ⟨kind, message, []⟩

def severityKind : Clause.Severity → FaultKind
  | .unsupported => .unsupported
  | .semantic => .semantic
  | .operands => .type
  | .text => .value
  | .depth => .depth

def ofClause (place text : String) (e : Clause.Error) : Fault :=
  ⟨severityKind e.severity, e.message place text, []⟩

def longNumber : Fault := ⟨.value, Text.tooLongToWrite, []⟩

def tooManyDigits (count : Nat) : Fault :=
  ⟨.value, s!"Exceeds the limit ({Text.digitLimit} digits) for integer string conversion: value has {count} digits; "
    ++ "use sys.set_int_max_str_digits() to increase the limit", []⟩

def invalidQuoted (base : Nat) (quoted : String) : Fault :=
  let shown := String.ofList (quoted.toList.take 200)
  ⟨.value, s!"invalid literal for int() with base {base}: {shown}", []⟩

def invalidLiteral (base : Nat) (text : String) : Fault := invalidQuoted base (Text.quoted text)

def ofSystem (kind : FaultKind) (number : Nat) (text path : String) : Fault :=
  ⟨kind, s!"[Errno {number}] {text}: {Text.quoted path}", []⟩

def noSuchFile (path : String) : Fault := ofSystem .missingFile 2 "No such file or directory" path
def permissionDenied (path : String) : Fault := ofSystem .permission 13 "Permission denied" path
def notADirectory (path : String) : Fault := ofSystem .notDirectory 20 "Not a directory" path
def isADirectory (path : String) : Fault := ofSystem .directory 21 "Is a directory" path
def nameTooLong (path : String) : Fault := ofSystem .system 36 "File name too long" path

end Fault

/-- An action on a world of type `σ` that may fail. What it changed before it failed stays changed. -/
abbrev Run (σ α : Type) := ExceptT Fault (StateM σ) α

end Covenant
