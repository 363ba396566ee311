import Covenant.Fault
import Covenant.Value.Graph

namespace Covenant

namespace Mapping

mutual
def mergeValue : (upper : Value) → (base : Option Value) → Value
  | .map upper, some (.map base) => .map (merge base upper)
  | upper, _ => upper
def merge (base : Mapping) : List (Value × Value) → Mapping
  | [] => base
  | (key, upper) :: rest => merge (base.put key (mergeValue upper (base.find? key))) rest
end

end Mapping

namespace Graph

def entries? (g : Graph) : Slot → Option (Nat × List (Slot × Slot))
  | .node i => match g.node? i with
    | some (.map entries) => some (i, entries)
    | _ => none
  | .leaf _ => none

def putEntry (g : Graph) (key value : Slot) : List (Slot × Slot) → List (Slot × Slot)
  | [] => [(key, value)]
  | (k, v) :: rest => if g.same k key then (k, value) :: rest else (k, v) :: g.putEntry key value rest

def mergeLimit : Nat := 990

/-- Lays the second mapping over the first; `fuel` bounds the depth. Only a mapping can be laid over something, and only
over a mapping. -/
def merge : (fuel : Nat) → Graph → (base upper : Slot) → Except Fault Graph
  | 0, _, _, _ => .error { kind := .depth }
  | fuel + 1, g, base, upper =>
    match g.entries? upper with
    | none => .error { kind := .attribute }
    | some (_, entries) => entries.foldlM (fun g (key, value) =>
        match g.entries? base with
        | none => .error { kind := if (g.entries? value).isSome then .attribute else .type }
        | some (i, below) =>
          let lower := (below.find? fun entry => g.same entry.1 key).map (·.2)
          match lower.bind g.entries?, g.entries? value with
          | some (j, _), some _ => merge fuel g (.node j) value
          | _, _ => .ok ⟨g.nodes.set i (.map (g.putEntry key value below))⟩) g

end Graph

end Covenant
