import Covenant.Files.Tree
import Covenant.Log

/-!
# The desk

The surroundings of a verification: the files, the log, the text streams that reports can be written to, and the
source files that a compile check was asked about. `τ` is whatever else an engine works with.
-/

namespace Covenant

structure TextStream where
  asciiOnly : Bool := false
  isClosed : Bool := false
  texts : List String := []
deriving Repr, DecidableEq

/-- A write to a file that breaks off after some characters: either the system fails, or the rest cannot be encoded. -/
structure Break where
  kept : Nat
  message : String
  encodes : Bool := true
deriving Repr, DecidableEq

def Break.fault (b : Break) : Fault := ⟨if b.encodes then .system else .value, b.message, []⟩

def Break.part (b : Break) (text : String) : String := String.ofList (text.toList.take b.kept)

structure Desk (τ : Type) where
  files : FileTree := {}
  /-- What becomes of the next writes to files; those that are not told of work. -/
  breaks : List (Option Break) := []
  log : Log := {}
  streams : List TextStream := []
  checked : List String := []
  rest : τ

namespace Desk

variable {τ : Type}

def onLog {α : Type} (act : Run Log α) : Run (Desk τ) α := do
  let d ← get
  let (result, log) := (ExceptT.run act).run d.log
  set { d with log := log }
  match result with
  | .ok a => return a
  | .error f => throw f

def say [Terminal] (level : Level) (message : String) : Run (Desk τ) Unit := onLog (Log.say level message)

def logsWith (d : Desk τ) (l : Logger) : Desk τ := { d with log := { d.log with logger := l } }

def check {α : Type} (r : Except Fault α) : Run (Desk τ) α :=
  match r with
  | .ok a => pure a
  | .error f => throw f

end Desk

end Covenant
