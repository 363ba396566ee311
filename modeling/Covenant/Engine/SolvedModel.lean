import Covenant.Configuration
import Covenant.Engine.Basic
import Covenant.Model.Encoding

namespace Covenant

structure SolvedModel where
  className : String
  methodId : String
  isStatic : Bool
  receiverFields : List String
  params : List String
  statics : List StaticVariable
  values : List (String × Value)

namespace Snapshot

def putEntry (entries : List (String × Value)) (key : String) (v : Value) : List (String × Value) :=
  match entries with
  | [] => [(key, v)]
  | (k, old) :: rest => if k = key then (k, v) :: rest else (k, old) :: putEntry rest key v

def ofEntries (entries : List (String × Value)) : Snapshot :=
  entries.foldl (fun s (key, v) =>
    let (graph, slot) := s.graph.insert v
    ⟨graph, s.entries ++ [(.str key, slot)]⟩) {}

end Snapshot

namespace SolvedModel

def value (m : SolvedModel) (name : String) : Except Fault Value :=
  match m.values.lookup name with
  | some v => .ok v
  | none => .error (.missingKey name)

def receiver (m : SolvedModel) : Except Fault Value := do
  let fields ← m.receiverFields.mapM fun f => do return (Value.str f, ← m.value (dotted "this" f))
  return .map (Mapping.ofList fields)

def shownStatics (m : SolvedModel) (context : Context) : List StaticVariable :=
  m.statics.filter fun s => context.contains s.owner

/-- The entries at the model's own site, in order. A later entry replaces an earlier one of the same name. -/
def ownEntries (m : SolvedModel) (context : Context) : Except Fault (List (String × Value)) := do
  let this ← if m.isStatic then pure [] else do pure [(receiverKey, ← m.receiver)]
  let params ← m.params.mapM fun p => do return (p ++ siteSuffix, ← m.value p)
  let statics ← (m.shownStatics context).mapM fun s => do return (s.display ++ siteSuffix, ← m.value s.variableName)
  return (this ++ params ++ statics).foldl (fun es (k, v) => Snapshot.putEntry es k v) []

def snapshotEntries (m : SolvedModel) (context : Context) (className methodId : String) :
    Except Fault (List (String × Value)) :=
  if className = m.className ∧ methodId = m.methodId then m.ownEntries context else .ok []

def snapshot (m : SolvedModel) (context : Context) (className methodId : String) : Except Fault Snapshot :=
  (m.snapshotEntries context className methodId).map .ofEntries

end SolvedModel

end Covenant
