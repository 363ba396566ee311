import Covenant.Engine.Bounded

namespace Covenant

inductive ScriptModel where
  | solved (m : SolvedModel)
  | fixed (number : Nat) (s : Snapshot)

inductive ScriptLine where
  | answer (satisfiable : Bool)
  | solved (satisfiable : Bool) (m : SolvedModel)
  | fixed (satisfiable : Bool) (s : Snapshot)
  | fault (f : Fault)

structure SnapshotCall where
  number : Nat
  context : Context
  className : String
  methodId : String
deriving Repr, DecidableEq

structure Script where
  lines : List ScriptLine := []
  configurations : List Mapping := []
  sessions : List (Session ScriptModel) := []
  given : Nat := 0
  calls : List SnapshotCall := []

namespace Script

def record (s : Session ScriptModel) (configuration : Mapping) : Run (Desk Script) Unit :=
  modify fun d => { d with rest := { d.rest with
    configurations := d.rest.configurations ++ [configuration]
    sessions := d.rest.sessions ++ [s] } }

def next : Run (Desk Script) (Answer ScriptModel) := do
  let d ← get
  match d.rest.lines with
  | [] => throw ⟨.index, "pop from empty list", []⟩
  | line :: rest =>
    let script := { d.rest with lines := rest }
    match line with
    | .answer b => do
      set { d with rest := script }
      return { satisfiable := b }
    | .solved b m => do
      set { d with rest := script }
      return ⟨b, some (.solved m)⟩
    | .fixed b s => do
      set { d with rest := { script with given := script.given + 1 } }
      return ⟨b, some (.fixed script.given s)⟩
    | .fault f => do
      set { d with rest := script }
      throw f

def snapshot (m : ScriptModel) (context : Context) (className methodId : String) : Run (Desk Script) Snapshot := do
  match m with
  | .solved m => Desk.check (m.snapshot context className methodId)
  | .fixed number s =>
    modify fun d => { d with rest := { d.rest with
      calls := d.rest.calls ++ [⟨number, context, className, methodId⟩] } }
    return s

def player : Engine Script ScriptModel where
  analyze _ _ := next
  snapshot := snapshot

def watched (e : Engine Script ScriptModel) (during : Session ScriptModel → Except Fault Unit := fun _ => .ok ()) :
    Engine Script ScriptModel where
  analyze s configuration := do
    record s configuration
    Desk.check (during s)
    e.analyze s configuration
  snapshot := e.snapshot

end Script

def BoundedEngine.scripted [Terminal] (e : BoundedEngine) : Engine Script ScriptModel where
  analyze _ configuration := do
    let answer ← e.analyze configuration
    return ⟨answer.satisfiable, answer.model.map .solved⟩
  snapshot := Script.snapshot

end Covenant
