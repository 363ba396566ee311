import Covenant.Value.Graph
import Covenant.Yaml.Node
import Covenant.Yaml.Scalar

namespace Covenant.Yaml

namespace Document

def node? (d : Document) (i : Nat) : Option Node := d.nodes[i]?

def tagOf (d : Document) (i : Nat) : Option Tag := (d.node? i).map Node.tag

/-- The text under a tag of scalars: that of the scalar, or the default value of a mapping. A mapping that is its own
default value goes on without an end. -/
def leafText (d : Document) : Nat → Nat → Except Fault String
  | 0, _ => .error { kind := .depth }
  | fuel + 1, i =>
    match d.node? i with
    | some (.scalar _ text) => .ok text
    | some (.mapping _ entries) =>
      match entries.find? fun (k, _) => d.tagOf k == some .defaultKey with
      | some (_, v) => d.leafText fuel v
      | none => .error malformed
    | _ => .error malformed

/-- The number of nodes bounds every path that does not meet a node twice. -/
def depth (d : Document) : Nat := d.nodes.size + 1

def singleEntry (d : Document) (i : Nat) : Except Fault (Nat × Nat) :=
  match d.node? i with
  | some (.mapping _ [entry]) => .ok entry
  | _ => .error malformed

def isCollection (d : Document) (i : Nat) : Bool :=
  match d.tagOf i with
  | some .seq | some .map | some .set | some .orderedMap | some .pairs => true
  | _ => false

def leafValue (d : Document) (i : Nat) : Except Fault Value :=
  match d.node? i with
  | none => .error malformed
  | some node => do
    let text ← d.leafText d.depth i
    match node with
    | .mapping .timestamp _ => .error { kind := .type }
    | node => scalarValue node.tag text

def keyValue (d : Document) (i : Nat) : Except Fault Value :=
  if d.isCollection i then .error malformed else d.leafValue i

end Document

/-! ## Checking -/

abbrev Check := StateT Document (Except Fault)

namespace Check

def node? (i : Nat) : Check (Option Node) := return (← get).node? i

def entries (i : Nat) : Check (List (Nat × Nat)) := do
  match ← node? i with
  | some (.mapping _ entries) => return entries
  | _ => throw malformed

def put (i : Nat) (node : Node) : Check Unit :=
  modify fun d => { d with nodes := d.nodes.setIfInBounds i node }

def setEntries (i : Nat) (entries : List (Nat × Nat)) : Check Unit := do
  if let some (.mapping tag _) ← node? i then put i (.mapping tag entries)

def mergeSteps : Nat := 100000

mutual
def resolve : Nat → Nat → Check Unit
  | 0, _ => throw malformed
  | fuel + 1, i => do
    let taken ← takeOver fuel i 0 []
    setEntries i (taken ++ (← entries i))
/-- Removes the merge keys from a place on and gives the entries they stand for. The key of a default value becomes a
text. -/
def takeOver : Nat → (i place : Nat) → (taken : List (Nat × Nat)) → Check (List (Nat × Nat))
  | 0, _, _, _ => throw malformed
  | fuel + 1, i, place, taken => do
    let own ← entries i
    match own[place]? with
    | none => return taken
    | some (key, source) =>
      match (← get).tagOf key with
      | some .merge =>
        setEntries i (own.eraseIdx place)
        let more ← match ← node? source with
          | some (.mapping ..) => do
            resolve fuel source
            entries source
          | some (.sequence _ sources) => do
            let all ← sources.mapM fun source => do
              resolve fuel source
              entries source
            pure all.reverse.flatten
          | _ => throw malformed
        takeOver fuel i place (taken ++ more)
      | some .defaultKey =>
        if let some node ← node? key then put key (Node.withTag .str node)
        takeOver fuel i (place + 1) taken
      | _ => takeOver fuel i (place + 1) taken
end

def leaf (i : Nat) : Check Unit := do
  let d ← get
  if !d.isCollection i then
    let _ ← d.leafValue i

def parts (i : Nat) : Check (List Nat) := do
  match ← node? i with
  | some (.sequence .seq items) =>
    items.forM leaf
    return items
  | some (.sequence tag items) =>
    if tag == .orderedMap || tag == .pairs then
      let found ← items.mapM fun item => do
        let (k, v) ← (← get).singleEntry item
        leaf k
        leaf v
        return [k, v]
      return found.flatten
    else throw malformed
  | some (.mapping tag _) =>
    if tag == .map || tag == .set then
      resolve mergeSteps i
      let found ← entries i
      found.forM fun (k, v) => do
        let _ ← (← get).keyValue k
        leaf v
      return found.map (·.2)
    else throw malformed
  | _ => throw malformed

def levels : Nat → (seen level : List Nat) → Check Unit
  | 0, _, _ => return
  | _, _, [] => return
  | fuel + 1, seen, level => do
    let found ← level.mapM parts
    let seen := level ++ seen
    let d ← get
    levels fuel seen (found.flatten.filter fun i => d.isCollection i && !seen.contains i).eraseDups

def document : Check Unit := do
  let d ← get
  leaf d.root
  if d.isCollection d.root then levels d.depth [] [d.root]

end Check

/-! ## Building -/

namespace Document

def valueAt (d : Document) : Nat → List Nat → Nat → Value
  | 0, _, _ => .null
  | fuel + 1, path, i =>
    let below := d.valueAt fuel (i :: path)
    let found := path.contains i
    let key (k : Nat) : Value := (d.keyValue k).toOption.getD .null
    match d.node? i with
    | some (.sequence .seq items) => if found then .again (Graph.againText (.list [])) else .list (items.map below)
    | some (.sequence _ items) =>
      match items.mapM d.singleEntry with
      | .ok entries =>
        if found then .again (Graph.againText (.list []))
        else .list (entries.map fun (k, v) => .tuple [below k, below v])
      | .error _ => .null
    | some (.mapping .map entries) =>
      if found then .again (Graph.againText (.map []))
      else .map (Mapping.ofList (entries.map fun (k, v) => (key k, below v)))
    | some (.mapping .set entries) => .set ((Mapping.ofList (entries.map fun (k, _) => (key k, .null))).map (·.1))
    | _ => (d.leafValue i).toOption.getD .null

def value (d : Document) : Value := d.valueAt d.depth [] d.root

end Document

/-! ## Reading -/

def isAcceptable (c : Char) : Bool :=
  let n := c.toNat
  n == 9 || n == 10 || n == 13 || (0x20 ≤ n && n ≤ 0x7E) || n == 0x85 || (0xA0 ≤ n && n ≤ 0xD7FF) ||
    (0xE000 ≤ n && n ≤ 0xFFFD) || 0x10000 ≤ n

def unacceptable (name : String) (c : Char) (position : Nat) : Fault :=
  let place := s!"\n  in \"{name}\", position {position}"
  ⟨.markup, "unacceptable character #x" ++ Text.hex 4 c.toNat ++ ": special characters are not allowed" ++ place, []⟩

/-- Reads the document in a text; `name` says where the text comes from. No document at all is `null`. -/
def load (name text : String) : Except Fault Value := do
  let accepted := text.toList.takeWhile isAcceptable
  if let c :: _ := text.toList.drop accepted.length then
    throw (unacceptable name c accepted.length)
  match ← Document.ofTokens (.ofText text) with
  | none => return .null
  | some document =>
    let ((), checked) ← Check.document.run document
    return checked.value

end Covenant.Yaml
