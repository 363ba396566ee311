import Covenant.Yaml.Tag
import Covenant.Yaml.Token

namespace Covenant.Yaml

inductive Node where
  | scalar (tag : Tag) (text : String)
  | sequence (tag : Tag) (items : List Nat)
  | mapping (tag : Tag) (entries : List (Nat × Nat))
deriving Repr

def Node.tag : Node → Tag
  | scalar tag _ => tag
  | sequence tag _ => tag
  | mapping tag _ => tag

def Node.withTag (tag : Tag) : Node → Node
  | scalar _ text => .scalar tag text
  | sequence _ items => .sequence tag items
  | mapping _ entries => .mapping tag entries

/-- The tokens not yet read and the fault after them, the nodes so far, the anchors and the handles of tags, and the
number of collections around the next node. -/
structure Composition extends Tokens where
  nodes : Array Node := #[]
  anchors : List (String × Nat) := []
  handles : List (String × String) := []
  depth : Nat := 0

abbrev Compose := StateT Composition (Except Fault)

namespace Compose

def fail {α : Type} : Compose α := throw malformed

def next? : Compose (Option Token) := do
  match (← get).tokens, (← get).fault with
  | t :: _, _ => return some t
  | [], some f => throw f
  | [], none => return none

def sees (ts : List Token) : Compose Bool := do
  match ← next? with
  | some t => return ts.contains t
  | none => return false

def advance : Compose Unit := modify fun s => { s with tokens := s.tokens.tail }

def accept (t : Token) : Compose Bool := do
  if ← sees [t] then
    advance
    return true
  else return false

def expect (t : Token) : Compose Unit := do
  if !(← accept t) then fail

def reserve (anchor : Option String) : Compose Nat := do
  let s ← get
  let i := s.nodes.size
  match anchor with
  | none => set { s with nodes := s.nodes.push (.scalar .null "") }
  | some name =>
    if (s.anchors.lookup name).isSome then fail
    set { s with nodes := s.nodes.push (.scalar .null ""), anchors := (name, i) :: s.anchors }
  return i

def store (i : Nat) (node : Node) : Compose Nat := do
  modify fun s => { s with nodes := s.nodes.setIfInBounds i node }
  return i

def depthLimit : Nat := 488

def within (parts : Compose α) : Compose α := do
  if depthLimit ≤ (← get).depth then throw { kind := .depth }
  modify fun s => { s with depth := s.depth + 1 }
  let found ← parts
  modify fun s => { s with depth := s.depth - 1 }
  return found

def absent : Compose Nat := do
  store (← reserve none) (.scalar .null "")

def fullTag (t : WrittenTag) : Compose String := do
  match t.handle with
  | none => return t.suffix
  | some handle =>
    match (← get).handles.lookup handle with
    | some start => return start ++ t.suffix
    | none => fail

def properties : Compose (Option String × Option String) := do
  match ← next? with
  | some (.anchor name) =>
    advance
    match ← next? with
    | some (.tag t) =>
      advance
      return (some name, some (← fullTag t))
    | _ => return (some name, none)
  | some (.tag t) =>
    advance
    match ← next? with
    | some (.anchor name) =>
      advance
      return (some name, some (← fullTag t))
    | _ => return (none, some (← fullTag t))
  | _ => return (none, none)

def collectionTag (own : Option String) (usual : Tag) : Tag :=
  match own with
  | some "!" => usual
  | some t => .ofText t
  | none => usual

def scalarTag (own : Option String) (plain : Bool) (text : String) : Tag :=
  match own with
  | some "!" => .implicit text
  | some t => .ofText t
  | none => if plain then .implicit text else .str

mutual
/-- The node at the next token. Block collections are allowed if `block`, and a sequence that is not indented further
than its parent if `indentless`. -/
def node : Nat → (block indentless : Bool) → Compose Nat
  | 0, _, _ => fail
  | fuel + 1, block, indentless => do
    if let some (.reference name) ← next? then
      advance
      match (← get).anchors.lookup name with
      | some i => return i
      | none => fail
    let (anchor, own) ← properties
    match ← next? with
    | some (.scalar text plain) =>
      advance
      store (← reserve anchor) (.scalar (scalarTag own plain text) text)
    | some .flowSequenceStart =>
      advance
      let i ← reserve anchor
      store i (.sequence (collectionTag own .seq) (← within (flowItems fuel true)))
    | some .flowMappingStart =>
      advance
      let i ← reserve anchor
      store i (.mapping (collectionTag own .map) (← within (flowEntries fuel true)))
    | some .blockEntry =>
      if indentless then
        let i ← reserve anchor
        store i (.sequence (collectionTag own .seq) (← within (indentlessItems fuel)))
      else unmarked anchor own
    | some .blockSequenceStart =>
      if block then
        advance
        let i ← reserve anchor
        store i (.sequence (collectionTag own .seq) (← within (blockItems fuel)))
      else unmarked anchor own
    | some .blockMappingStart =>
      if block then
        advance
        let i ← reserve anchor
        store i (.mapping (collectionTag own .map) (← within (blockEntries fuel)))
      else unmarked anchor own
    | _ => unmarked anchor own
where
  unmarked (anchor own : Option String) : Compose Nat := do
    if anchor.isNone && own.isNone then fail
    store (← reserve anchor) (.scalar (scalarTag own true "") "")
def nodeUnless : Nat → (stops : List Token) → (block indentless : Bool) → Compose Nat
  | 0, _, _, _ => fail
  | fuel + 1, stops, block, indentless => do
    if ← sees stops then absent else node fuel block indentless
def blockItems : Nat → Compose (List Nat)
  | 0 => fail
  | fuel + 1 => do
    if ← accept .blockEntry then
      let i ← nodeUnless fuel [.blockEntry, .blockEnd] true false
      return i :: (← blockItems fuel)
    expect .blockEnd
    return []
def indentlessItems : Nat → Compose (List Nat)
  | 0 => fail
  | fuel + 1 => do
    if ← accept .blockEntry then
      let i ← nodeUnless fuel [.blockEntry, .key, .value, .blockEnd] true false
      return i :: (← indentlessItems fuel)
    return []
def blockEntries : Nat → Compose (List (Nat × Nat))
  | 0 => fail
  | fuel + 1 => do
    if ← accept .key then
      let k ← nodeUnless fuel [.key, .value, .blockEnd] true true
      let v ← if ← accept .value then nodeUnless fuel [.key, .value, .blockEnd] true true else absent
      return (k, v) :: (← blockEntries fuel)
    expect .blockEnd
    return []
/-- The items up to the closing bracket, a comma before each but the first. A key inside a sequence stands for a
mapping with one entry. -/
def flowItems : Nat → (first : Bool) → Compose (List Nat)
  | 0, _ => fail
  | fuel + 1, first => do
    if ← accept .flowSequenceEnd then return []
    if !first then expect .flowEntry
    if ← accept .flowSequenceEnd then return []
    let i ←
      if ← accept .key then do
        let i ← reserve none
        let k ← nodeUnless fuel [.value, .flowEntry, .flowSequenceEnd] false false
        let v ← if ← accept .value then nodeUnless fuel [.flowEntry, .flowSequenceEnd] false false else absent
        store i (.mapping .map [(k, v)])
      else node fuel false false
    return i :: (← flowItems fuel false)
def flowEntries : Nat → (first : Bool) → Compose (List (Nat × Nat))
  | 0, _ => fail
  | fuel + 1, first => do
    if ← accept .flowMappingEnd then return []
    if !first then expect .flowEntry
    if ← accept .flowMappingEnd then return []
    let entry ←
      if ← accept .key then do
        let k ← nodeUnless fuel [.value, .flowEntry, .flowMappingEnd] false false
        let v ← if ← accept .value then nodeUnless fuel [.flowEntry, .flowMappingEnd] false false else absent
        pure (k, v)
      else do
        let k ← node fuel false false
        pure (k, ← absent)
    return entry :: (← flowEntries fuel false)
end

def directives : Nat → (versioned : Bool) → Compose Unit
  | 0, _ => fail
  | fuel + 1, versioned => do
    match ← next? with
    | some (.version major) =>
      if versioned || major != 1 then fail
      advance
      directives fuel true
    | some (.tagHandle handle start) =>
      let s ← get
      if (s.handles.lookup handle).isSome then fail
      set { s with handles := (handle, start) :: s.handles }
      advance
      directives fuel versioned
    | some .otherDirective =>
      advance
      directives fuel versioned
    | _ => return

def defaultHandles : List (String × String) := [("!", "!"), ("!!", Tag.standardStart)]

def document (fuel : Nat) : Compose (Option Nat) := do
  let root ← match ← next? with
    | none => return none
    | some t =>
      if t == .documentStart || isDirective t then do
        directives fuel false
        modify fun s => { s with handles := s.handles ++ defaultHandles }
        expect .documentStart
        nodeOrEnd
      else do
        modify fun s => { s with handles := defaultHandles }
        node fuel true false
  modify fun s => { s with tokens := s.tokens.dropWhile (· == .documentEnd) }
  if (← next?).isSome then fail
  return some root
where
  isDirective : Token → Bool
  | .version _ | .tagHandle .. | .otherDirective => true
  | _ => false
  nodeOrEnd : Compose Nat := do
    match ← next? with
    | none => absent
    | some t => if t == .documentStart || t == .documentEnd || isDirective t then absent else node fuel true false

end Compose

structure Document where
  nodes : Array Node
  root : Nat

def Document.ofTokens (t : Tokens) : Except Fault (Option Document) := do
  -- Every call on the way down to a token leaves fewer tokens or is the first of three at that token.
  let (root, s) ← (Compose.document (3 * t.tokens.length + 3)).run { toTokens := t }
  return root.map (⟨s.nodes, ·⟩)

end Covenant.Yaml
