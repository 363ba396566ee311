import Covenant.Value.Dump
import Covenant.Fault

namespace Covenant

structure Snapshot where
  graph : Graph := Graph.empty
  entries : List (Value × Slot) := []
deriving Inhabited

structure Trace where
  entries : List (String × String) := []
deriving Repr, DecidableEq, Inhabited

def receiverKey : String := "thiz_0"
def receiverName : String := "this"

def displayName (name : String) : String :=
  match Text.cutLast? '_' name.toList with
  | some (start, _) => String.ofList start
  | none => name

namespace Snapshot

def isReceiver (key : Value) : Bool :=
  key.same (.str receiverKey)

def nameOf : Value → Except Fault String
  | .str name => .ok (displayName name)
  | .bytes _ => .error { kind := .type }
  | _ => .error { kind := .attribute }

def receiver? (s : Snapshot) : Option Slot :=
  (s.entries.find? fun entry => isReceiver entry.1).map (·.2)

def bindings (s : Snapshot) : List (Value × Slot) :=
  s.entries.filter fun entry => !isReceiver entry.1

/-- The trace of a snapshot whose numbers are all `Value.writable`. -/
def trace (s : Snapshot) : Except Fault Trace := do
  let this := match s.receiver? with
    | some slot => [(receiverName, s.graph.dump slot {})]
    | none => []
  let others ← s.bindings.mapM fun (key, slot) => do
    return (← nameOf key, s.graph.text slot)
  return ⟨this ++ others⟩

end Snapshot

namespace Trace

def size (t : Trace) : Nat := t.entries.length

def lines (t : Trace) : List String :=
  t.entries.map fun (name, value) => name ++ " = " ++ value

def format (t : Trace) : String :=
  String.join (t.lines.map (· ++ "\n"))

end Trace

end Covenant
