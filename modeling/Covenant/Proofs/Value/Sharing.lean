import Covenant.Proofs.Value.Outline

/-!
# Shared objects in a dump

Below a slot of an acyclic graph there is a finite tree. A dump of the slot shows that tree, as far as its limits allow:
an object with several places is shown in each of them as if it had no other. The tree can be laid out as a graph of its
own, in which every node has one place, and the dump of that graph is the same.
-/

namespace Covenant

def Value.isScalar : Value → Bool
  | null => true
  | bool _ => true
  | int _ => true
  | float _ => true
  | str _ => true
  | bytes _ => true
  | _ => false

def Slot.references : Slot → List Nat
  | leaf _ => []
  | node i => [i]

def Slot.isBefore (i : Nat) : Slot → Bool
  | leaf v => v.isScalar
  | node j => j < i

namespace Node

def slots : Node → List Slot
  | list items => items
  | tuple items => items
  | set items => items
  | frozenSet items => items
  | map entries => entries.flatMap fun (k, v) => [k, v]
  | object _ _ attributes => attributes.map (·.2)
  | foreign .. => []

def keys : Node → List Slot
  | map entries => entries.map (·.1)
  | _ => []

def members : Node → List Slot
  | set items => items
  | frozenSet items => items
  | _ => []

def filled (below : Slot → Value) : Node → Value
  | list items => .list (items.map below)
  | tuple items => .tuple (items.map below)
  | set items => .set (items.map below)
  | frozenSet items => .frozenSet (items.map below)
  | map entries => .map (entries.map fun (k, v) => (below k, below v))
  | object name shown attributes => .object name shown (attributes.map fun (k, v) => (k, below v))
  | foreign kind plain inner => .foreign kind plain inner

def withText (shown : String) : Node → Node
  | object name _ attributes => object name shown attributes
  | node => node

def references (node : Node) : List Nat := node.slots.flatMap Slot.references

theorem mem_slots_map {entries : List (Slot × Slot)} {s : Slot} :
    s ∈ (map entries).slots ↔ ∃ entry ∈ entries, s = entry.1 ∨ s = entry.2 := by
  simp [slots]

theorem slots_withText (shown : String) (node : Node) : (node.withText shown).slots = node.slots := by
  cases node <;> rfl

theorem filled_congr {node : Node} {f f' : Slot → Value} (same : ∀ s ∈ node.slots, f s = f' s) :
    node.filled f = node.filled f' := by
  cases node with
  | list items => exact congrArg Value.list (List.map_congr_left same)
  | tuple items => exact congrArg Value.tuple (List.map_congr_left same)
  | set items => exact congrArg Value.set (List.map_congr_left same)
  | frozenSet items => exact congrArg Value.frozenSet (List.map_congr_left same)
  | map entries =>
    refine congrArg Value.map (List.map_congr_left fun entry member => ?_)
    exact Prod.ext (same entry.1 (mem_slots_map.mpr ⟨entry, member, .inl rfl⟩))
      (same entry.2 (mem_slots_map.mpr ⟨entry, member, .inr rfl⟩))
  | object name shown attributes =>
    refine congrArg (Value.object name shown) (List.map_congr_left fun field member => ?_)
    exact Prod.ext rfl (same field.2 (List.mem_map_of_mem member))
  | foreign kind plain inner => rfl

end Node

/-! ## Trees of values -/

inductive Value.Shape where
  | scalar (text : String)
  | plain (text : String)
  | container (opening : String) (labelled : List (String × Value)) (closing : String)

namespace Value

def shape : Value → Shape
  | null => .scalar "null"
  | list items => .container "[" (items.map ("", ·)) "]"
  | tuple items => .container "[" (items.map ("", ·)) "]"
  | set members => .container "\x7b" ((members.mergeSort fun a b => !decide (b.inner < a.inner)).map ("", ·)) "\x7d"
  | frozenSet members =>
    .container "\x7b" ((members.mergeSort fun a b => !decide (b.inner < a.inner)).map ("", ·)) "\x7d"
  | map entries => .container "\x7b" (entries.map fun (k, v) => (k.text ++ "=", v)) "\x7d"
  | object name _ attributes => .container (name ++ "\x7b") (attributes.map fun (k, v) => (k ++ "=", v)) "\x7d"
  | foreign _ plain _ => .plain plain
  | again shown => .plain shown
  | v => .scalar v.text

def outline (breadth : Int) (depth : Nat) (v : Value) : Outline :=
  match v.shape, depth with
  | .scalar text, _ => .text text
  | .plain _, 0 => .deeper
  | .container .., 0 => .deeper
  | .plain text, _ + 1 => .text text
  | .container opening labelled closing, depth + 1 =>
    .group opening ((labelled.take breadth.toNat).map fun p => (p.1, outline breadth depth p.2))
      (breadth < labelled.length) closing

end Value

inductive Outline.HasCycle : Outline → Prop
  | here : HasCycle .cycle
  | inside {opening closing : String} {parts : List (String × Outline)} {more : Bool} {p : String × Outline}
      (part : p ∈ parts) (h : HasCycle p.2) : HasCycle (.group opening parts more closing)

theorem Value.outline_noCycle (breadth : Int) (depth : Nat) (v : Value) : ¬ (v.outline breadth depth).HasCycle := by
  induction depth generalizing v with
  | zero =>
    unfold outline
    cases v.shape <;> exact nofun
  | succ depth ih =>
    unfold outline
    cases v.shape with
    | scalar text => exact nofun
    | plain text => exact nofun
    | container opening labelled closing =>
      rintro (_ | ⟨part, h⟩)
      obtain ⟨q, -, rfl⟩ := List.mem_map.mp part
      exact ih q.2 h

namespace Graph

variable (g : Graph) {breadth : Int} {depth : Nat} {path : List Nat} {s : Slot} {i j : Nat} {v : Value} {node : Node}

/-! ## Acyclic graphs -/

inductive Contains : Slot → Nat → Prop
  | here (i : Nat) : Contains (.node i) i
  | through {i j : Nat} {node : Node} {s : Slot} (present : g.node? i = some node) (part : s ∈ node.slots)
      (further : Contains s j) : Contains (.node i) j

def Inside (i j : Nat) : Prop := ∃ node, g.node? i = some node ∧ ∃ s ∈ node.slots, g.Contains s j

def Acyclic (s : Slot) : Prop := ∀ i, g.Contains s i → ¬ g.Inside i i

def Holds : Slot → Prop
  | .leaf v => v.isScalar = true
  | .node i => (g.node? i).isSome = true

structure Sound (s : Slot) : Prop where
  start : g.Holds s
  below : ∀ i node, g.Contains s i → g.node? i = some node → ∀ t ∈ node.slots, g.Holds t

inductive Unfolds : Slot → Value → Prop
  | leaf {v : Value} (scalar : v.isScalar = true) : Unfolds (.leaf v) v
  | node {i : Nat} {node : Node} {below : Slot → Value} (present : g.node? i = some node)
      (parts : ∀ s ∈ node.slots, Unfolds s (below s)) : Unfolds (.node i) (node.filled below)

variable {g}

theorem lt_of_present (present : g.node? i = some node) : i < g.nodes.length :=
  (List.getElem?_eq_some_iff.mp present).1

theorem Unfolds.acyclic (h : g.Unfolds s v) : g.Acyclic s := by
  induction h with
  | leaf scalar => exact nofun
  | @node i node below present parts ih =>
    rintro j contains inside
    cases contains with
    | here =>
      -- a node inside itself lies below one of its parts, where there are no such nodes
      obtain ⟨node', present', t, part, further⟩ := inside
      cases present.symm.trans present'
      exact ih t part i further ⟨node, present, t, part, further⟩
    | through present' part further =>
      cases present.symm.trans present'
      exact ih _ part j further inside

theorem Unfolds.sound (h : g.Unfolds s v) : g.Sound s := by
  induction h with
  | leaf scalar => exact ⟨scalar, nofun⟩
  | @node i node below present parts ih =>
    refine ⟨by rw [Holds, present]; rfl, ?_⟩
    intro j node' contains present' t member
    cases contains with
    | here =>
      cases present.symm.trans present'
      exact (ih t member).start
    | through other part further =>
      cases present.symm.trans other
      exact (ih _ part).below j node' further present' t member

/-- A path into an acyclic graph meets no node twice, so it ends. -/
theorem exists_unfolds (room : Nat) (simple : Simple (Finset.range g.nodes.length) path) (sound : g.Sound s)
    (acyclic : g.Acyclic s) (above : ∀ j ∈ path, ∀ k, g.Contains s k → g.Inside j k)
    (enough : g.nodes.length ≤ room + path.length) : ∃ v, g.Unfolds s v := by
  induction room using Nat.strongRecOn generalizing path s with
  | ind room ih =>
    cases s with
    | leaf v => exact ⟨v, .leaf sound.start⟩
    | node i =>
      obtain ⟨node, present⟩ := Option.isSome_iff_exists.mp sound.start
      have new : i ∉ path := fun again => acyclic i (.here i) (above i again i (.here i))
      have extended := simple.cons new (Finset.mem_range.mpr (lt_of_present present))
      have shorter : path.length + 1 ≤ g.nodes.length := by simpa using extended.length_le
      have each : ∀ t ∈ node.slots, ∃ v, g.Unfolds t v := by
        intro t part
        refine ih (room - 1) (by omega) extended ⟨?_, ?_⟩ ?_ ?_ ?_
        · exact sound.below i node (.here i) present t part
        · exact fun k node' contains => sound.below k node' (.through present part contains)
        · exact fun k contains => acyclic k (.through present part contains)
        · intro j member k contains
          rcases List.mem_cons.mp member with rfl | earlier
          · exact ⟨node, present, t, part, contains⟩
          · exact above j earlier k (.through present part contains)
        · rw [List.length_cons]
          omega
      choose! below parts using each
      exact ⟨_, .node present parts⟩

theorem unfold_node {fuel : Nat} (present : g.node? i = some node) (new : i ∉ path) :
    g.unfold (fuel + 1) path (.node i) = node.filled (g.unfold fuel (i :: path)) := by
  have absent : path.contains i = false := by simpa using new
  rw [unfold, present]
  simp only [absent]
  cases node <;> rfl

theorem clear_part (acyclic : g.Acyclic (.node i)) (present : g.node? i = some node) {t : Slot} (part : t ∈ node.slots)
    (clear : ∀ j ∈ path, ¬ g.Contains (.node i) j) : ∀ j ∈ i :: path, ¬ g.Contains t j := by
  intro j member contains
  rcases List.mem_cons.mp member with rfl | earlier
  · exact acyclic j (.here j) ⟨node, present, t, part, contains⟩
  · exact clear j earlier (.through present part contains)

theorem Unfolds.unfold_eq {fuel : Nat} (h : g.Unfolds s v) (simple : Simple (Finset.range g.nodes.length) path)
    (clear : ∀ j ∈ path, ¬ g.Contains s j) (enough : g.nodes.length < fuel + path.length) :
    g.unfold fuel path s = v := by
  induction h generalizing path fuel with
  | leaf scalar => rw [unfold]
  | @node i node below present parts ih =>
    have new : i ∉ path := fun again => clear i again (.here i)
    have extended := simple.cons new (Finset.mem_range.mpr (lt_of_present present))
    have shorter : path.length + 1 ≤ g.nodes.length := by simpa using extended.length_le
    obtain ⟨fuel, rfl⟩ : ∃ f, fuel = f + 1 := ⟨fuel - 1, by omega⟩
    rw [unfold_node present new]
    refine Node.filled_congr fun t part => ih t part extended ?_ ?_
    · exact clear_part (Unfolds.node present parts).acyclic present part clear
    · rw [List.length_cons]
      omega

theorem Unfolds.value_eq (h : g.Unfolds s v) : g.value s = v :=
  h.unfold_eq ⟨List.nodup_nil, by simp⟩ (by simp) (by simp)

theorem unfolds_value (sound : g.Sound s) (acyclic : g.Acyclic s) : g.Unfolds s (g.value s) := by
  obtain ⟨v, unfolds⟩ := exists_unfolds g.nodes.length ⟨List.nodup_nil, by simp⟩ sound acyclic (by simp) (by simp)
  rwa [unfolds.value_eq]

theorem Unfolds.of_contains (h : g.Unfolds s v) (contains : g.Contains s i) :
    g.Unfolds (.node i) (g.value (.node i)) := by
  induction contains generalizing v with
  | here i => rwa [h.value_eq]
  | through present part further ih =>
    cases h with
    | node present' parts =>
      cases present.symm.trans present'
      exact ih (parts _ part)

theorem Unfolds.opened (h : g.Unfolds (.node i) v) :
    ∃ node, g.node? i = some node ∧ v = node.filled g.value ∧ ∀ t ∈ node.slots, g.Unfolds t (g.value t) := by
  cases h with
  | node present parts =>
    refine ⟨_, present, Node.filled_congr fun t part => (parts t part).value_eq.symm, fun t part => ?_⟩
    have unfolds := parts t part
    rwa [unfolds.value_eq]

/-! ## Dumps of trees -/

def shapeBy (below : Slot → Value) : Layout → Value.Shape
  | .plain text => .plain text
  | .container opening labelled closing => .container opening (labelled.map fun p => (p.1, below p.2)) closing

theorem map_sortedMembers (members : List Slot) :
    (g.sortedMembers members).map g.value =
      (members.map g.value).mergeSort fun a b => !decide (b.inner < a.inner) :=
  List.map_mergeSort fun _ _ _ _ => rfl

theorem shape_filled (present : g.node? i = some node) :
    (node.filled g.value).shape = shapeBy g.value (g.layout i) := by
  rw [layout, present]
  cases node with
  | set members =>
    simp only [Node.filled, Value.shape, shapeBy, ← map_sortedMembers, List.map_map, Function.comp_def]
  | frozenSet members =>
    simp only [Node.filled, Value.shape, shapeBy, ← map_sortedMembers, List.map_map, Function.comp_def]
  | map entries => simp only [Node.filled, Value.shape, shapeBy, List.map_map, Function.comp_def, text]
  | foreign kind plain inner => rfl
  | _ => simp only [Node.filled, Value.shape, shapeBy, List.map_map, Function.comp_def]

theorem slot_of_part (present : g.node? i = some node) {p : String × Slot} (part : p ∈ (g.layout i).parts) :
    p.2 ∈ node.slots := by
  rw [layout, present] at part
  cases node with
  | set members =>
    obtain ⟨t, member, rfl⟩ := List.mem_map.mp part
    exact List.mem_mergeSort.mp member
  | frozenSet members =>
    obtain ⟨t, member, rfl⟩ := List.mem_map.mp part
    exact List.mem_mergeSort.mp member
  | map entries =>
    obtain ⟨entry, member, rfl⟩ := List.mem_map.mp part
    exact Node.mem_slots_map.mpr ⟨entry, member, .inr rfl⟩
  | object name shown attributes =>
    obtain ⟨field, member, rfl⟩ := List.mem_map.mp part
    exact List.mem_map.mpr ⟨field, member, rfl⟩
  | foreign kind plain inner => cases part
  | _ =>
    obtain ⟨t, member, rfl⟩ := List.mem_map.mp part
    exact member

theorem shape_scalar (scalar : v.isScalar = true) : v.shape = .scalar (leafText v) := by
  cases v <;> first | rfl | cases scalar

theorem Unfolds.outlineFrom_eq (h : g.Unfolds s v) (clear : ∀ j ∈ path, ¬ g.Contains s j) :
    g.outlineFrom breadth depth path s = v.outline breadth depth := by
  induction depth generalizing s v path with
  | zero =>
    cases h with
    | leaf scalar =>
      unfold Value.outline
      rw [outlineFrom, shape_scalar scalar]
    | @node i node below present parts =>
      obtain ⟨node, present, value, -⟩ := (Unfolds.node present parts).opened
      unfold Value.outline
      rw [outlineFrom, if_neg fun again => clear i again (.here i), value, shape_filled present]
      cases g.layout i <;> rfl
  | succ depth ih =>
    cases h with
    | leaf scalar =>
      unfold Value.outline
      rw [outlineFrom, shape_scalar scalar]
    | @node i node below present parts =>
      have acyclic := (Unfolds.node present parts).acyclic
      obtain ⟨node, present, value, each⟩ := (Unfolds.node present parts).opened
      unfold Value.outline
      rw [outlineFrom, if_neg fun again => clear i again (.here i), value, shape_filled present]
      cases laid : g.layout i with
      | plain text => rfl
      | container opening labelled closing =>
        simp only [shapeBy, List.length_map, ← List.map_take, List.map_map, Function.comp_def]
        congr 1
        refine List.map_congr_left fun p member => ?_
        have part : p ∈ (g.layout i).parts := by
          rw [laid]
          exact List.mem_of_mem_take member
        have slot := slot_of_part present part
        rw [ih (each p.2 slot) (clear_part acyclic present slot clear)]

theorem Unfolds.outline_eq (h : g.Unfolds s v) (limits : DumpLimits) :
    g.outline s limits = v.outline limits.breadth limits.depth.toNat :=
  h.outlineFrom_eq (by simp)

/-! ## The tree as a graph -/

variable (g) in
def references : List Nat := g.nodes.flatMap Node.references

/-- The values have been added to the first graph at the given slots: every node that is new has one place, in a slot of
a new node or among the given ones. -/
structure Grows (g : Graph) (items : List Slot) (values : List Value) (g' : Graph) : Prop where
  kept : ∃ added : List Node, g'.nodes = g.nodes ++ added ∧
    (items.flatMap Slot.references ++ added.flatMap Node.references).Perm (List.range' g.nodes.length added.length)
  unfolds : ∀ t ∈ items, g'.Unfolds t (g'.value t)
  values : items.map g'.value = values

theorem Unfolds.extend (h : g.Unfolds s v) {g' : Graph} {added : List Node} (kept : g'.nodes = g.nodes ++ added) :
    g'.Unfolds s v := by
  induction h with
  | leaf scalar => exact .leaf scalar
  | @node i node below present parts ih =>
    refine .node ?_ ih
    rw [node?, kept, List.getElem?_append_left (lt_of_present present)]
    exact present

namespace Grows

variable {g₁ g₂ : Graph} {items items' : List Slot} {values values' : List Value}

theorem none (g : Graph) : Grows g [] [] g where
  kept := ⟨[], by simp, by simp⟩
  unfolds := by simp
  values := rfl

theorem append (first : Grows g items values g₁) (second : Grows g₁ items' values' g₂) :
    Grows g (items ++ items') (values ++ values') g₂ := by
  obtain ⟨added, kept, places⟩ := first.kept
  obtain ⟨added', kept', places'⟩ := second.kept
  have later : ∀ t ∈ items, g₂.Unfolds t (g₁.value t) := fun t member => (first.unfolds t member).extend kept'
  refine ⟨⟨added ++ added', by rw [kept', kept, List.append_assoc], ?_⟩, fun t member => ?_, ?_⟩
  · rw [List.length_append, ← List.range'_append_1, List.flatMap_append, List.flatMap_append]
    rw [kept, List.length_append] at places'
    refine List.Perm.trans ?_ (places.append places')
    simp only [List.append_assoc]
    refine List.Perm.append_left _ ?_
    rw [← List.append_assoc, ← List.append_assoc]
    exact List.Perm.append_right _ List.perm_append_comm
  · rcases List.mem_append.mp member with member | member
    · have unfolds := later t member
      rwa [unfolds.value_eq]
    · exact second.unfolds t member
  · rw [List.map_append, second.values, ← first.values]
    congr 1
    exact List.map_congr_left fun t member => (later t member).value_eq

theorem add (h : Grows g items values g₁) (slots : node.slots = items) (value : node.filled g₁.value = v) :
    Grows g [(g₁.add node).2] [v] (g₁.add node).1 := by
  obtain ⟨added, kept, places⟩ := h.kept
  have unfolds : (g₁.add node).1.Unfolds (.node g₁.nodes.length) v := by
    rw [← value]
    refine .node (by simp [Graph.add, node?]) fun t part => ?_
    exact (h.unfolds t (slots ▸ part)).extend rfl
  refine ⟨⟨added ++ [node], by simp [Graph.add, kept], ?_⟩, ?_, ?_⟩
  · have place : (g₁.add node).2.references = [g.nodes.length + added.length] := by
      rw [← List.length_append, ← kept]
      rfl
    rw [List.length_append, List.length_singleton, List.range'_concat, List.flatMap_append, List.flatMap_singleton,
      List.flatMap_singleton, Node.references, slots, place, Nat.one_mul]
    refine List.Perm.trans List.perm_append_comm (List.Perm.append_right _ ?_)
    exact List.Perm.trans List.perm_append_comm places
  · rintro t member
    obtain rfl := List.mem_singleton.mp member
    have own := unfolds
    rw [← own.value_eq] at unfolds
    exact unfolds
  · rw [List.map_singleton]
    exact congrArg (fun v => [v]) unfolds.value_eq

end Grows

def Inserts (v : Value) : Prop := ∀ g : Graph, Grows g [(g.insert v).2] [v] (g.insert v).1

theorem grows_insertAll {xs : List Value} (each : ∀ x ∈ xs, Inserts x) (g : Graph) :
    Grows g (g.insertAll xs).2 xs (g.insertAll xs).1 := by
  induction xs generalizing g with
  | nil => exact Grows.none g
  | cons x xs ih =>
    have rest := ih (fun y member => each y (List.mem_cons_of_mem x member)) (g.insert x).1
    exact (each x List.mem_cons_self g).append rest

theorem grows_insertEntries {es : List (Value × Value)} (each : ∀ e ∈ es, Inserts e.1 ∧ Inserts e.2) (g : Graph) :
    Grows g (Node.map (g.insertEntries es).2).slots (es.flatMap fun e => [e.1, e.2]) (g.insertEntries es).1 := by
  induction es generalizing g with
  | nil => exact Grows.none g
  | cons e es ih =>
    obtain ⟨k, v⟩ := e
    obtain ⟨key, item⟩ := each (k, v) List.mem_cons_self
    have pair := (key g).append (item (g.insert k).1)
    exact pair.append (ih (fun e member => each e (List.mem_cons_of_mem _ member)) ((g.insert k).1.insert v).1)

theorem grows_insertAttributes (name shown : String) {as : List (String × Value)} (each : ∀ a ∈ as, Inserts a.2)
    (g : Graph) :
    Grows g (Node.object name shown (g.insertAttributes as).2).slots (as.map (·.2)) (g.insertAttributes as).1 ∧
      (g.insertAttributes as).2.map (·.1) = as.map (·.1) := by
  induction as generalizing g with
  | nil => exact ⟨Grows.none g, rfl⟩
  | cons a as ih =>
    obtain ⟨k, v⟩ := a
    obtain ⟨rest, keys⟩ := ih (fun a member => each a (List.mem_cons_of_mem _ member)) (g.insert v).1
    exact ⟨(each (k, v) List.mem_cons_self g).append rest, congrArg (k :: ·) keys⟩

theorem pairs_injective {α : Type} {xs ys : List (α × α)}
    (same : (xs.flatMap fun p => [p.1, p.2]) = ys.flatMap fun p => [p.1, p.2]) : xs = ys := by
  induction xs generalizing ys with
  | nil =>
    cases ys with
    | nil => rfl
    | cons y ys => cases same
  | cons x xs ih =>
    cases ys with
    | nil => cases same
    | cons y ys =>
      simp only [List.flatMap_cons, List.cons_append, List.nil_append, List.cons.injEq] at same
      rw [ih same.2.2, Prod.ext same.1 same.2.1]

theorem Unfolds.inserts (h : g.Unfolds s v) : Inserts v := by
  induction h with
  | @leaf v scalar =>
    intro h
    have inserted : h.insert v = (h, .leaf v) := by
      cases v <;> first | rfl | cases scalar
    rw [inserted]
    refine ⟨⟨[], by simp, .refl _⟩, fun t member => ?_, rfl⟩
    rw [List.mem_singleton.mp member]
    exact .leaf scalar
  | @node i node below present parts ih =>
    intro h
    cases node with
    | list items =>
      have grown := grows_insertAll (List.forall_mem_map.mpr ih) h
      exact grown.add rfl (congrArg Value.list grown.values)
    | tuple items =>
      have grown := grows_insertAll (List.forall_mem_map.mpr ih) h
      exact grown.add rfl (congrArg Value.tuple grown.values)
    | set items =>
      have grown := grows_insertAll (List.forall_mem_map.mpr ih) h
      exact grown.add rfl (congrArg Value.set grown.values)
    | frozenSet items =>
      have grown := grows_insertAll (List.forall_mem_map.mpr ih) h
      exact grown.add rfl (congrArg Value.frozenSet grown.values)
    | map entries =>
      have each : ∀ e ∈ entries.map fun e => (below e.1, below e.2), Inserts e.1 ∧ Inserts e.2 :=
        List.forall_mem_map.mpr fun e member => ⟨ih _ (Node.mem_slots_map.mpr ⟨e, member, .inl rfl⟩),
          ih _ (Node.mem_slots_map.mpr ⟨e, member, .inr rfl⟩)⟩
      have grown := grows_insertEntries each h
      refine grown.add rfl (congrArg Value.map (pairs_injective ?_))
      rw [← grown.values, Node.slots, List.map_flatMap, List.flatMap_map]
      rfl
    | object name shown fields =>
      have each : ∀ f ∈ fields.map fun f => (f.1, below f.2), Inserts f.2 :=
        List.forall_mem_map.mpr fun f member => ih _ (List.mem_map_of_mem member)
      obtain ⟨grown, keys⟩ := grows_insertAttributes name shown each h
      refine grown.add rfl (congrArg (Value.object name shown) ?_)
      refine (List.zip_of_prod (.trans ?_ keys) (.trans ?_ grown.values)).trans (List.zip_of_prod rfl rfl).symm
      · rw [List.map_map]
        rfl
      · rw [Node.slots, List.map_map, List.map_map]
        rfl
    | foreign kind plain inner => exact (Grows.none h).add rfl rfl

/-! ## Objects under other texts -/

/-- The graph in which the objects have the given texts. -/
def relabelled (g : Graph) (shown : Nat → String) : Graph := ⟨g.nodes.mapIdx fun i node => node.withText (shown i)⟩

/-- The new texts leave the keys of mappings and the order in sets as they are. -/
def KeepsTexts (g : Graph) (shown : Nat → String) : Prop :=
  ∀ node ∈ g.nodes, (∀ key ∈ node.keys, (g.relabelled shown).text key = g.text key) ∧
    ∀ member ∈ node.members, ((g.relabelled shown).value member).inner = (g.value member).inner

instance (g : Graph) (shown : Nat → String) : Decidable (g.KeepsTexts shown) :=
  inferInstanceAs (Decidable (∀ node ∈ g.nodes, (∀ key ∈ node.keys, _ = _) ∧ ∀ member ∈ node.members, _ = _))

theorem node?_relabelled (shown : Nat → String) (i : Nat) :
    (g.relabelled shown).node? i = (g.node? i).map (Node.withText (shown i)) := by
  simp [node?, relabelled]

theorem references_relabelled (shown : Nat → String) : (g.relabelled shown).references = g.references := by
  have each (i : Nat) (node : Node) : (node.withText (shown i)).references = node.references := by
    rw [Node.references, Node.slots_withText, Node.references]
  have same : (g.relabelled shown).nodes.map Node.references = g.nodes.map Node.references :=
    List.ext_getElem? fun i => by simp [relabelled, Function.comp_def, each]
  rw [references, references, List.flatMap_def, List.flatMap_def, same]

theorem sortedMembers_congr {g g' : Graph} {members : List Slot}
    (same : ∀ s ∈ members, (g'.value s).inner = (g.value s).inner) :
    g'.sortedMembers members = g.sortedMembers members := by
  have sorted := List.map_mergeSort (f := id) (l := members)
    (r := fun a b => !decide ((g'.value b).inner < (g'.value a).inner))
    (s := fun a b => !decide ((g.value b).inner < (g.value a).inner))
    fun a first b second => by simp only [same a first, same b second, id]
  simpa [sortedMembers] using sorted

theorem layout_relabelled {shown : Nat → String} (kept : g.KeepsTexts shown) (i : Nat) :
    (g.relabelled shown).layout i = g.layout i := by
  unfold layout
  rw [node?_relabelled]
  cases present : g.node? i with
  | none => rfl
  | some node =>
    obtain ⟨keys, members⟩ := kept node (List.mem_of_getElem? present)
    cases node with
    | map entries =>
      refine congrArg (fun labelled => Layout.container "\x7b" labelled "\x7d") (List.map_congr_left ?_)
      rintro ⟨key, item⟩ member
      simp only [keys key (List.mem_map_of_mem member)]
    | set items =>
      have same : (g.relabelled shown).sortedMembers items = g.sortedMembers items := sortedMembers_congr members
      simp only [Option.map_some, Node.withText, same]
    | frozenSet items =>
      have same : (g.relabelled shown).sortedMembers items = g.sortedMembers items := sortedMembers_congr members
      simp only [Option.map_some, Node.withText, same]
    | _ => rfl

theorem outlineFrom_congr {g g' : Graph} (same : ∀ i, g'.layout i = g.layout i) :
    g'.outlineFrom breadth depth path s = g.outlineFrom breadth depth path s := by
  induction depth generalizing path s with
  | zero =>
    cases s with
    | leaf v => rw [outlineFrom, outlineFrom]
    | node i => rw [outlineFrom, outlineFrom]
  | succ depth ih =>
    cases s with
    | leaf v => rw [outlineFrom, outlineFrom]
    | node i =>
      rw [outlineFrom, outlineFrom, same]
      simp only [ih]

theorem dump_relabelled {shown : Nat → String} (kept : g.KeepsTexts shown) (s : Slot) (limits : DumpLimits) :
    (g.relabelled shown).dump s limits = g.dump s limits := by
  rw [← render_outline, ← render_outline, outline, outline, outlineFrom_congr (layout_relabelled kept)]

/-! ## All together -/

def unfolding (g : Graph) (s : Slot) : Graph × Slot := empty.insert (g.value s)

/-- Every node of the graph has one place: a slot of some node, or the given one. -/
def Unshared (g : Graph) (s : Slot) : Prop := (s.references ++ g.references).Perm (List.range g.nodes.length)

def ShowsPartsAlone (g : Graph) (i : Nat) : Prop :=
  ∀ (opening : String) (labelled : List (String × Slot)) (closing : String),
    g.layout i = .container opening labelled closing → ∀ (depth : Nat) (breadth : Int),
    g.outline (.node i) ⟨(depth + 1 : Nat), breadth⟩ =
        .group opening ((labelled.take breadth.toNat).map fun p => (p.1, g.outline p.2 ⟨depth, breadth⟩))
          (breadth < labelled.length) closing ∧
      g.dump (.node i) ⟨(depth + 1 : Nat), breadth⟩ =
        opening ++ limited breadth labelled (fun p => p.1 ++ g.dump p.2 ⟨depth, breadth⟩) ++ closing

theorem Unfolds.showsPartsAlone (h : g.Unfolds (.node i) v) : g.ShowsPartsAlone i := by
  intro opening labelled closing laid depth breadth
  obtain ⟨node, present, -, each⟩ := h.opened
  have shown : g.outline (.node i) ⟨(depth + 1 : Nat), breadth⟩ =
      .group opening ((labelled.take breadth.toNat).map fun p => (p.1, g.outline p.2 ⟨depth, breadth⟩))
        (breadth < labelled.length) closing := by
    change g.outlineFrom breadth (depth + 1) [] (.node i) = _
    rw [outlineFrom, if_neg List.not_mem_nil, laid]
    simp only
    congr 1
    refine List.map_congr_left fun p member => ?_
    have part : p ∈ (g.layout i).parts := by
      rw [laid]
      exact List.mem_of_mem_take member
    have slot := slot_of_part present part
    rw [(each p.2 slot).outlineFrom_eq (clear_part h.acyclic present slot (by simp)), (each p.2 slot).outline_eq]
    rfl
  refine ⟨shown, ?_⟩
  rw [← render_outline, shown]
  simp [Outline.render, Outline.renderParts_eq, limited, render_outline, Function.comp_def]

theorem Unfolds.unshared (h : g.Unfolds s v) : (empty.insert v).1.Unshared (empty.insert v).2 := by
  obtain ⟨added, kept, places⟩ := (h.inserts empty).kept
  rw [List.flatMap_singleton] at places
  rw [Unshared, references, kept, List.range_eq_range']
  exact places

/-- The dump of an acyclic graph does not tell which objects are shared. It is the dump of the unfolded tree, in which
none is, also if the objects of the tree have other texts than those they are copies of, as long as no key and no order
in a set shows it. The text is that of an outline in which no object is marked as a cycle, and each is shown where it
stands as it is shown alone. -/
theorem sharing_is_invisible (sound : g.Sound s) (acyclic : g.Acyclic s) :
    let t := g.unfolding s
    (t.1.Unshared t.2 ∧ t.1.Sound t.2 ∧ t.1.Acyclic t.2 ∧ t.1.value t.2 = g.value s) ∧
      (∀ limits : DumpLimits, g.dump s limits = t.1.dump t.2 limits ∧
        g.dump s limits = (g.outline s limits).render ∧
        g.outline s limits = (g.value s).outline limits.breadth limits.depth.toNat ∧
        ¬ (g.outline s limits).HasCycle) ∧
      (∀ shown, t.1.KeepsTexts shown → (t.1.relabelled shown).Unshared t.2 ∧
        ∀ limits : DumpLimits, g.dump s limits = (t.1.relabelled shown).dump t.2 limits) ∧
      ∀ i, g.Contains s i → g.ShowsPartsAlone i := by
  intro t
  have unfolds := unfolds_value sound acyclic
  have grown := unfolds.inserts empty
  have value : t.1.value t.2 = g.value s := (List.cons.inj grown.values).1
  have tree : t.1.Unfolds t.2 (t.1.value t.2) := grown.unfolds t.2 (List.mem_singleton_self _)
  rw [value] at tree
  have same (limits : DumpLimits) : g.dump s limits = t.1.dump t.2 limits := by
    rw [← render_outline, ← render_outline, unfolds.outline_eq, tree.outline_eq]
  refine ⟨⟨unfolds.unshared, tree.sound, tree.acyclic, value⟩, fun limits => ⟨same limits, ?_, ?_, ?_⟩, ?_, ?_⟩
  · rw [render_outline]
  · exact unfolds.outline_eq limits
  · rw [unfolds.outline_eq]
    exact Value.outline_noCycle _ _ _
  · intro shown kept
    refine ⟨?_, fun limits => ?_⟩
    · rw [Unshared, references_relabelled, relabelled, List.length_mapIdx]
      exact unfolds.unshared
    · rw [dump_relabelled kept, same limits]
  · exact fun i contains => (unfolds.of_contains contains).showsPartsAlone

theorem exists_unfolds_of_ordered
    (ordered : ∀ i (_ : i < g.nodes.length), ∀ t ∈ g.nodes[i].slots, t.isBefore i = true)
    (start : s.isBefore g.nodes.length = true) : ∃ v, g.Unfolds s v := by
  have nodes (i : Nat) : i < g.nodes.length → ∃ v, g.Unfolds (.node i) v := by
    induction i using Nat.strongRecOn with
    | ind i ih =>
      intro present
      have each : ∀ t ∈ g.nodes[i].slots, ∃ v, g.Unfolds t v := by
        intro t part
        have before := ordered i present t part
        cases t with
        | leaf v => exact ⟨v, .leaf before⟩
        | node j =>
          have earlier : j < i := of_decide_eq_true before
          exact ih j earlier (earlier.trans present)
      choose! below parts using each
      exact ⟨_, .node (List.getElem?_eq_getElem present) parts⟩
  cases s with
  | leaf v => exact ⟨v, .leaf start⟩
  | node i => exact nodes i (of_decide_eq_true start)

def plan : Graph := ⟨[
  .object "Point" "<Point object at 0x20>" [("x", .leaf (.int 1)), ("y", .leaf .null)],
  .tuple [.node 0, .leaf (.int 3)],
  .map [(.node 1, .node 0), (.leaf (.str "edge"), .node 1)],
  .set [.node 1, .node 0],
  .list [.node 2, .node 0, .node 3, .node 2]]⟩

/-- Texts for the copies of the point in the unfolded plan. Only those in keys and in the set are
known by the old one. -/
def copyText (i : Nat) : String :=
  if i ∈ [0, 7, 9, 11] then "<Point object at 0x20>" else s!"<Point object at 0x{i}0>"

theorem plan_shown_as_tree :
    plan.Sound (.node 4) ∧ plan.Acyclic (.node 4) ∧
      (plan.unfolding (.node 4)).1.Unshared (plan.unfolding (.node 4)).2 ∧
      (plan.unfolding (.node 4)).1.KeepsTexts copyText ∧
      ∀ limits : DumpLimits, plan.dump (.node 4) limits =
        ((plan.unfolding (.node 4)).1.relabelled copyText).dump (plan.unfolding (.node 4)).2 limits := by
  obtain ⟨v, unfolds⟩ : ∃ v, plan.Unfolds (.node 4) v := exists_unfolds_of_ordered (by decide) (by decide)
  have kept : (plan.unfolding (.node 4)).1.KeepsTexts copyText := by decide
  obtain ⟨⟨unshared, -⟩, -, same, -⟩ := sharing_is_invisible unfolds.sound unfolds.acyclic
  exact ⟨unfolds.sound, unfolds.acyclic, unshared, kept, (same copyText kept).2⟩

example : plan.dump (.node 4) ⟨2, 2⟩ =
    "[\x7b(<Point object at 0x20>, 3)=..., edge=...\x7d, Point\x7bx=1, y=null\x7d, ...]" := by
  decide

end Graph

end Covenant
