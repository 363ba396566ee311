import Covenant.Value.Text

/-!
# Value graphs

Values whose containers have an identity: a container may occur in several places, and inside itself. The
containers are the nodes of a graph; a slot holds a value without parts or refers to a node.
-/

namespace Covenant

inductive Slot where
  | leaf (v : Value)
  | node (i : Nat)
deriving Inhabited

inductive Node where
  | list (items : List Slot)
  | tuple (items : List Slot)
  | set (items : List Slot)
  | frozenSet (items : List Slot)
  | map (entries : List (Slot × Slot))
  | object (name shown : String) (attributes : List (String × Slot))
  | foreign (kind : Foreign) (plain inner : String)
deriving Inhabited

structure Graph where
  nodes : List Node
deriving Inhabited

namespace Graph

def empty : Graph := ⟨[]⟩

def node? (g : Graph) (i : Nat) : Option Node :=
  g.nodes[i]?

def againText : Node → String
  | .map _ => "\x7b...\x7d"
  | .tuple _ => "(...)"
  | .set _ => "set(...)"
  | .frozenSet _ => "frozenset(...)"
  | _ => "[...]"

/-- The tree below a slot. A node that lies on the path to itself is replaced by a mark; `fuel` bounds the
length of a path. -/
def unfold (g : Graph) : Nat → List Nat → Slot → Value
  | _, _, .leaf v => v
  | 0, _, .node _ => .again "..."
  | fuel + 1, path, .node i =>
    match g.node? i with
    | none => .null
    | some node =>
      if path.contains i then .again (againText node)
      else
        let below := unfold g fuel (i :: path)
        match node with
        | .list items => .list (items.map below)
        | .tuple items => .tuple (items.map below)
        | .set items => .set (items.map below)
        | .frozenSet items => .frozenSet (items.map below)
        | .map entries => .map (entries.map fun (k, v) => (below k, below v))
        | .object name shown attributes => .object name shown (attributes.map fun (k, v) => (k, below v))
        | .foreign kind plain inner => .foreign kind plain inner

def value (g : Graph) (s : Slot) : Value :=
  g.unfold (g.nodes.length + 1) [] s

/-- Equality of what lies below two slots; `fuel` bounds the length of a path. A node is the same as itself, and an
object as no other; leaves have no identity. -/
def sameWithin (g : Graph) : Nat → Slot → Slot → Bool
  | fuel + 1, .node i, .node j =>
    let same := g.sameWithin fuel
    let sameAll (xs ys : List Slot) := xs.length == ys.length && (xs.zip ys).all fun (x, y) => same x y
    let sameMembers (xs ys : List Slot) := (xs.all fun x => ys.any (same x)) && ys.all fun y => xs.any (same · y)
    i == j || match g.node? i, g.node? j with
      | some (.list xs), some (.list ys) => sameAll xs ys
      | some (.tuple xs), some (.tuple ys) => sameAll xs ys
      | some (.set xs), some (.set ys) => sameMembers xs ys
      | some (.set xs), some (.frozenSet ys) => sameMembers xs ys
      | some (.frozenSet xs), some (.set ys) => sameMembers xs ys
      | some (.frozenSet xs), some (.frozenSet ys) => sameMembers xs ys
      | some (.map xs), some (.map ys) =>
        (xs.all fun (k, v) => ys.any fun (l, w) => same k l && same v w) &&
          ys.all fun (l, w) => xs.any fun (k, v) => same k l && same v w
      | some (.foreign ..), some (.foreign ..) => (g.value (.node i)).same (g.value (.node j))
      | _, _ => false
  | _, a, b => (g.value a).same (g.value b)

def same (g : Graph) (a b : Slot) : Bool := g.sameWithin (g.nodes.length + 1) a b

def text (g : Graph) (s : Slot) : String :=
  (g.value s).text

def add (g : Graph) (node : Node) : Graph × Slot :=
  (⟨g.nodes ++ [node]⟩, .node g.nodes.length)

mutual
def insert (g : Graph) : Value → Graph × Slot
  | .list xs => let (g, items) := insertAll g xs; g.add (.list items)
  | .tuple xs => let (g, items) := insertAll g xs; g.add (.tuple items)
  | .set xs => let (g, items) := insertAll g xs; g.add (.set items)
  | .frozenSet xs => let (g, items) := insertAll g xs; g.add (.frozenSet items)
  | .map es => let (g, entries) := insertEntries g es; g.add (.map entries)
  | .object name shown as => let (g, attributes) := insertAttributes g as; g.add (.object name shown attributes)
  | .foreign kind plain inner => g.add (.foreign kind plain inner)
  | v => (g, .leaf v)
def insertAll (g : Graph) : List Value → Graph × List Slot
  | [] => (g, [])
  | x :: xs =>
    let (g, item) := insert g x
    let (g, items) := insertAll g xs
    (g, item :: items)
def insertEntries (g : Graph) : List (Value × Value) → Graph × List (Slot × Slot)
  | [] => (g, [])
  | (k, v) :: es =>
    let (g, key) := insert g k
    let (g, item) := insert g v
    let (g, entries) := insertEntries g es
    (g, (key, item) :: entries)
def insertAttributes (g : Graph) : List (String × Value) → Graph × List (String × Slot)
  | [] => (g, [])
  | (k, v) :: es =>
    let (g, item) := insert g v
    let (g, attributes) := insertAttributes g es
    (g, (k, item) :: attributes)
end

end Graph

end Covenant
