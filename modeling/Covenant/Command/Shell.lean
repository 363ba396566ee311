import Covenant.Command.Condition
import Covenant.Command.Format
import Covenant.Command.Glob
import Covenant.Command.Parse

/-!
# Shells

The state of a running script: its parameters and variables, the directory it is in, and the channels that it reads
from and writes to. A script goes on until it ends, is killed, or leaves a loop or a function.
-/

namespace Covenant.Command

inductive Stop where
  | exit (code : Nat)
  | mistake
  | killed (signal : Nat)
  | leaveLoop (levels : Nat) (again : Bool)
  | leaveFunction (code : Nat)
deriving Repr, DecidableEq

structure Variable where
  value : Option String := none
  isExported : Bool := false
  isFixed : Bool := false
deriving Repr, DecidableEq

inductive Channel where
  | buffer (i : Nat)
  | file (place : List String)
  | source (i : Nat)
  | nothing
deriving Repr, DecidableEq

structure Options where
  stopOnFailure : Bool := false
  stopOnUnset : Bool := false
  keepPatterns : Bool := false
  readOnly : Bool := false
  keepFiles : Bool := false
  exportAll : Bool := false
deriving Repr, DecidableEq

structure Shell where
  disk : Disk
  directory : List String := Disk.home
  number : Nat
  name : String := "sh"
  parameters : List String := []
  bindings : List (String × Variable) := []
  /-- The variables that the running functions hide, the innermost function first. -/
  hidden : List (List (String × Option Variable)) := []
  functions : List (String × Statement) := []
  traps : List (String × String) := []
  pending : List String := []
  options : Options := {}
  last : Nat := 0
  taken : Option Nat := none
  /-- The number of loops around the running command, and the status of the latest turn of a loop. -/
  loops : Nat := 0
  turned : Nat := 0
  channels : List (Nat × Channel) := [(0, .source 0), (1, .buffer 0), (2, .buffer 1)]
  buffers : Array Bytes := #[[], []]
  sources : Array (List Char) := #[[]]
  background : List (Nat × Nat) := []

abbrev Job := ExceptT Stop (StateM Shell)

namespace Job

def mistake {α : Type} : Job α := throw .mistake

def observe {α : Type} (job : Job α) : Job (Except Stop α) := fun s =>
  let (result, s) := job s
  (.ok result, s)

def repeatWhile : Nat → Job Bool → Job Unit
  | 0, _ => mistake
  | n + 1, step => do if ← step then repeatWhile n step

/-! ## Channels -/

def channel? (descriptor : Nat) : Job (Option Channel) :=
  return ((← get).channels.find? (·.1 == descriptor)).map (·.2)

def setChannel (descriptor : Nat) (c : Channel) : Job Unit :=
  modify fun s => { s with channels := (descriptor, c) :: s.channels.filter (·.1 != descriptor) }

def closeChannel (descriptor : Nat) : Job Unit :=
  modify fun s => { s with channels := s.channels.filter (·.1 != descriptor) }

def decoded (bytes : Bytes) : String :=
  (String.fromUTF8? ⟨bytes.toArray⟩).getD (String.ofList (bytes.map fun b => Char.ofNat b.toNat))

def write (descriptor : Nat) (bytes : Bytes) (code : Nat := 0) : Job Nat := do
  match ← channel? descriptor with
  | some (.buffer i) =>
    modify fun s => { s with buffers := s.buffers.modify i (· ++ bytes) }
    return code
  | some (.file place) =>
    modify fun s => { s with disk := match s.disk.entry? place with
      | some (.file text) => s.disk.put place (.file (text ++ decoded bytes))
      | _ => s.disk }
    return code
  | some .nothing => return code
  | _ => return if bytes.isEmpty then code else max code 1

def newBuffer : Job Nat := modifyGet fun s => (s.buffers.size, { s with buffers := s.buffers.push [] })

def newSource (text : List Char) : Job Channel :=
  modifyGet fun s => (.source s.sources.size, { s with sources := s.sources.push text })

def readAll : Job (List Char) := do
  match ← channel? 0 with
  | some (.source i) => modifyGet fun s => (s.sources.getD i [], { s with sources := s.sources.setIfInBounds i [] })
  | _ => return []

def readLine : Job (List Char × Bool) := do
  match ← channel? 0 with
  | some (.source i) =>
    let text := (← get).sources.getD i []
    let line := text.takeWhile (· != '\n')
    modify fun s => { s with sources := s.sources.setIfInBounds i (text.drop (line.length + 1)) }
    return (line, line.length < text.length)
  | _ => return ([], false)

/-! ## Variables -/

def stored? (name : String) : Job (Option Variable) := return (← get).bindings.lookup name

def valueOf? (name : String) : Job (Option String) := return (← stored? name).bind (·.value)

def put (name : String) (v : Variable) : Job Unit :=
  modify fun s => { s with bindings := (name, v) :: s.bindings.filter (·.1 != name) }

def drop (name : String) : Job Unit :=
  modify fun s => { s with bindings := s.bindings.filter (·.1 != name) }

def assign (name value : String) : Job Unit := do
  let v := (← stored? name).getD {}
  if v.isFixed then mistake
  put name { v with value := some value, isExported := v.isExported || (← get).options.exportAll }

def restore (name : String) : Option Variable → Job Unit
  | some v => put name v
  | none => drop name

def parameter? (name : String) : Job (Option String) := do
  let s ← get
  match name with
  | "#" => return some (toString s.parameters.length)
  | "?" => return some (toString s.last)
  | "$" => return some (toString s.number)
  | "0" => return some s.name
  | "!" => return s.background.head?.map fun (n, _) => toString n
  | "-" => return some ((if s.options.stopOnFailure then "e" else "") ++ (if s.options.keepPatterns then "f" else "") ++
      (if s.options.stopOnUnset then "u" else ""))
  | name =>
    if name.toList.all Char.isDigit then return name.toNat?.bind fun n => s.parameters[n - 1]?
    else valueOf? name

def separators : Job (List Char) := return ((← valueOf? "IFS").getD " \t\n").toList

end Job

/-! ## Fields -/

/-- What an expanded word consists of: characters, marks of an empty text that counts, and ends of fields. Characters
that come from a parameter or an output are split at separators. -/
inductive Mark where
  | plain (c : Char)
  | quoted (c : Char)
  | split (c : Char)
  | empty
  | boundary
deriving Repr, DecidableEq

namespace Mark

def glyph? : Mark → Option Glyph
  | plain c => some ⟨c, false⟩
  | quoted c => some ⟨c, true⟩
  | split c => some ⟨c, false⟩
  | _ => none

def text (separator : Option Char) (marks : List Mark) : String :=
  String.ofList (marks.filterMap fun
    | plain c | quoted c | split c => some c
    | boundary => separator
    | empty => none)

end Mark

inductive Gap where
  | start
  | blank
  | separator
deriving DecidableEq

/-- Splits marks into fields. Separators that are blanks count as one; each other separator ends a field, with the
blanks around it. -/
def fieldsOf (separators : List Char) : List Mark → (current : Option (List Glyph)) → Gap → List (List Glyph)
  | [], current, _ => current.toList
  | m :: rest, current, gap =>
    let isBlank (c : Char) : Bool := c == ' ' || c == '\t' || c == '\n'
    match m with
    | .split c =>
      if separators.contains c then
        match current with
        | some field => field :: fieldsOf separators rest none (if isBlank c then .blank else .separator)
        | none =>
          if isBlank c then fieldsOf separators rest none gap
          else if gap == .blank then fieldsOf separators rest none .separator
          else [] :: fieldsOf separators rest none .separator
      else fieldsOf separators rest (some (current.getD [] ++ [⟨c, false⟩])) gap
    | .plain c => fieldsOf separators rest (some (current.getD [] ++ [⟨c, false⟩])) gap
    | .quoted c => fieldsOf separators rest (some (current.getD [] ++ [⟨c, true⟩])) gap
    | .empty => fieldsOf separators rest (some (current.getD [])) gap
    | .boundary => current.toList ++ fieldsOf separators rest none .start

end Covenant.Command
