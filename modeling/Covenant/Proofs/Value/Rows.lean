import Covenant.Proofs.Settings.Merging
import Covenant.Proofs.Value.Sharing

namespace Covenant

def Slot.isLeaf : Slot → Bool
  | leaf _ => true
  | node _ => false

def Slot.alike : Slot → Slot → Bool
  | leaf v, leaf w => v.same w
  | node i, node j => i == j
  | _, _ => false

namespace Graph

open Entries

variable {g h : Graph} {s t w key : Slot} {i k : Nat} {v : Value} {rows : List (Slot × Slot)}

theorem alike_comparison : Entries.Comparison Slot.alike where
  refl s := by
    cases s with
    | leaf v => exact Value.same_refl v
    | node i => exact beq_self_eq_true i
  symm {s t} h := by
    cases s with
    | leaf v => cases t with
      | leaf w => exact Value.same_symm h
      | node j => cases h
    | node i => cases t with
      | leaf w => cases h
      | node j => exact beq_iff_eq.mpr (beq_iff_eq.mp h).symm
  trans {s t w} h h' := by
    cases s with
    | leaf u => cases t with
      | leaf v => cases w with
        | leaf w => exact Value.same_trans h h'
        | node k => cases h'
      | node j => cases h
    | node i => cases t with
      | leaf v => cases h
      | node j => exact (beq_iff_eq.mp h) ▸ h'

/-! ## Changes elsewhere -/

def Agree (g h : Graph) (s : Slot) : Prop := ∀ k, g.Contains s k → h.node? k = g.node? k

theorem Agree.part {node : Node} (agree : Agree g h (.node i)) (present : g.node? i = some node)
    (part : t ∈ node.slots) : Agree g h t :=
  fun k below => agree k (.through present part below)

theorem Agree.contains (agree : Agree g h s) (below : h.Contains s k) : g.Contains s k := by
  induction below with
  | here i => exact .here i
  | through present part further ih =>
    have present := (agree _ (.here _)).symm.trans present
    exact .through present part (ih (agree.part present part))

theorem Agree.unfolds (agree : Agree g h s) (unfolds : g.Unfolds s v) : h.Unfolds s v := by
  induction unfolds with
  | leaf scalar => exact .leaf scalar
  | node present parts ih =>
    exact .node ((agree _ (.here _)).trans present) fun t part => ih t part (agree.part present part)

theorem Agree.entries? (agree : Agree g h s) : h.entries? s = g.entries? s := by
  cases s with
  | leaf v => rfl
  | node i => rw [Graph.entries?, Graph.entries?, agree i (.here i)]

theorem slots_of_mem {row : Slot × Slot} (member : row ∈ rows) : row.2 ∈ (Node.map rows).slots :=
  Node.mem_slots_map.mpr ⟨row, member, .inr rfl⟩

theorem entries?_node (present : g.node? i = some (.map rows)) : g.entries? (.node i) = some (i, rows) := by
  rw [entries?, present]

theorem eq_of_entries? {p : Nat × List (Slot × Slot)} (h : g.entries? s = some p) :
    s = .node p.1 ∧ g.node? p.1 = some (.map p.2) := by
  unfold entries? at h
  split at h
  · split at h
    · cases h
      exact ⟨rfl, by assumption⟩
    · cases h
  · cases h

/-! ## Rows and their trees -/

def Fine (g : Graph) (s : Slot) : Prop := g.Unfolds s (g.value s)

def tree (g : Graph) (rows : List (Slot × Slot)) : Mapping := rows.map fun row => (g.value row.1, g.value row.2)

def Sane (g : Graph) (rows : List (Slot × Slot)) : Prop :=
  ∀ row ∈ rows, row.1.isLeaf = true ∧ g.Fine row.1 ∧ g.Fine row.2

theorem fine_of_unfolds (h : g.Unfolds s v) : g.Fine s := by
  rw [Fine, h.value_eq]
  exact h

theorem Fine.unfolds (fine : g.Fine s) (held : g.value s = v) : g.Unfolds s v := by
  rw [← held]
  exact fine

theorem Agree.value (agree : Agree g h s) (fine : g.Fine s) : h.value s = g.value s :=
  (agree.unfolds fine).value_eq

theorem Agree.fine (agree : Agree g h s) (fine : g.Fine s) : h.Fine s := by
  rw [Fine, agree.value fine]
  exact agree.unfolds fine

theorem not_contains (leaf : s.isLeaf = true) : ¬ g.Contains s k := by
  cases s with
  | leaf v => exact nofun
  | node i => cases leaf

theorem agree_of_isLeaf (leaf : s.isLeaf = true) : Agree g h s := fun _ below => absurd below (not_contains leaf)

theorem unfolds_tree (present : g.node? i = some (.map rows)) (sane : g.Sane rows) :
    g.Unfolds (.node i) (.map (g.tree rows)) := by
  refine .node present fun t part => ?_
  obtain ⟨row, member, rfl | rfl⟩ := Node.mem_slots_map.mp part
  · exact (sane row member).2.1
  · exact (sane row member).2.2

theorem sane_of_unfolds (present : g.node? i = some (.map rows)) (keys : ∀ row ∈ rows, row.1.isLeaf = true)
    (unfolds : g.Unfolds (.node i) v) : v = .map (g.tree rows) ∧ g.Sane rows := by
  obtain ⟨node, present', filled, parts⟩ := unfolds.opened
  cases present.symm.trans present'
  exact ⟨filled, fun row member => ⟨keys row member, parts _ (Node.mem_slots_map.mpr ⟨row, member, .inl rfl⟩),
    parts _ (slots_of_mem member)⟩⟩

theorem value_leaf (leaf : s.isLeaf = true) : h.value s = g.value s := by
  cases s with
  | leaf v => rfl
  | node i => cases leaf

theorem same_value (leaf : s.isLeaf = true) (leaf' : t.isLeaf = true) : (g.value s).same (h.value t) = s.alike t := by
  cases s <;> cases t <;> first | rfl | contradiction

theorem find?_tree (keys : ∀ row ∈ rows, row.1.isLeaf = true) (leaf : key.isLeaf = true) :
    (g.tree rows).find? (g.value key) = (look Slot.alike rows key).map g.value := by
  induction rows with
  | nil => rfl
  | cons row rest ih =>
    obtain ⟨first, rest⟩ := List.forall_mem_cons.mp keys
    rw [tree, List.map_cons, Mapping.find?_cons, look_cons, same_value first leaf, ← tree, ih rest]
    cases row.1.alike key <;> rfl

theorem tree_put (keys : ∀ row ∈ rows, row.1.isLeaf = true) (leaf : key.isLeaf = true) (s : Slot) :
    g.tree (put Slot.alike key s rows) = (g.tree rows).put (g.value key) (g.value s) := by
  induction rows with
  | nil => rfl
  | cons row rest ih =>
    obtain ⟨first, rest⟩ := List.forall_mem_cons.mp keys
    rw [put, tree, tree, List.map_cons, Mapping.put, same_value first leaf]
    split
    · rfl
    · rw [List.map_cons, ← tree, ih rest]
      rfl

theorem tree_congr (keys : ∀ row ∈ rows, row.1.isLeaf = true)
    (same : ∀ row ∈ rows, h.value row.2 = g.value row.2) : h.tree rows = g.tree rows :=
  List.map_congr_left fun row member => Prod.ext (value_leaf (keys row member)) (same row member)

theorem tree_changed (keys : ∀ row ∈ rows, row.1.isLeaf = true) (leaf : key.isLeaf = true)
    (found : look Slot.alike rows key = some w)
    (others : rows.Pairwise fun row other => (row.2 = w → h.value other.2 = g.value other.2) ∧
      (other.2 = w → h.value row.2 = g.value row.2)) :
    h.tree rows = (g.tree rows).put (g.value key) (h.value w) := by
  induction rows with
  | nil => cases found
  | cons row rest ih =>
    obtain ⟨first, rest'⟩ := List.forall_mem_cons.mp keys
    obtain ⟨apart, others⟩ := List.pairwise_cons.mp others
    rw [look_cons] at found
    rw [tree, tree, List.map_cons, List.map_cons, Mapping.put, same_value first leaf, ← tree, ← tree,
      value_leaf (g := g) (h := h) first]
    split at found
    · rename_i here
      obtain rfl := Option.some.inj found
      rw [if_pos here, tree_congr rest' fun other member => (apart other member).1 rfl]
    · rename_i other
      obtain ⟨there, member, -, same⟩ := mem_of_look found
      rw [if_neg other, (apart there member).2 same, ih rest' found others]

theorem distinct_of_tree (keys : ∀ row ∈ rows, row.1.isLeaf = true) (differ : (g.tree rows).distinct = true) :
    Distinct Slot.alike rows := by
  induction rows with
  | nil => exact .nil
  | cons row rest ih =>
    obtain ⟨leaf, later⟩ := List.forall_mem_cons.mp keys
    rw [tree, List.map_cons, Mapping.distinct, Bool.and_eq_true, List.all_eq_true] at differ
    refine List.pairwise_cons.mpr ⟨fun other member same => ?_, ih later differ.2⟩
    have apart := differ.1 _ (List.mem_map_of_mem member)
    rw [same_value leaf (later other member), same] at apart
    cases apart

theorem Fine.isMap_eq (fine : g.Fine s) : (g.value s).isMap = (g.entries? s).isSome := by
  cases s with
  | leaf v =>
    cases fine with
    | leaf scalar => cases v <;> first | rfl | cases scalar
  | node i =>
    obtain ⟨node, present, filled, -⟩ := Unfolds.opened fine
    rw [filled, entries?, present]
    cases node <;> rfl

theorem Fine.plain (fine : g.Fine s) (plain : (g.value s).isMap = false) : g.entries? s = none := by
  rw [fine.isMap_eq] at plain
  simpa using plain

theorem Fine.isLeaf (fine : g.Fine s) (scalar : (g.value s).isScalar = true) : s.isLeaf = true := by
  cases s with
  | leaf v => rfl
  | node i =>
    obtain ⟨node, -, filled, -⟩ := Unfolds.opened fine
    rw [filled] at scalar
    cases node <;> cases scalar

theorem exists_rows {u : Mapping} (unfolds : g.Unfolds t (.map u)) (scalar : ∀ entry ∈ u, entry.1.isScalar = true) :
    ∃ j entries, t = .node j ∧ g.node? j = some (.map entries) ∧ g.Sane entries ∧ u = g.tree entries := by
  have mapping : (g.entries? t).isSome := by
    rw [← (fine_of_unfolds unfolds).isMap_eq, unfolds.value_eq]
    rfl
  obtain ⟨p, found⟩ := Option.isSome_iff_exists.mp mapping
  obtain ⟨rfl, present⟩ := eq_of_entries? found
  obtain ⟨node, present', filled, parts⟩ := unfolds.opened
  cases present.symm.trans present'
  have same : u = g.tree p.2 := Value.map.inj filled
  refine ⟨p.1, p.2, rfl, present, (sane_of_unfolds present (fun row member => ?_) unfolds).2, same⟩
  refine Fine.isLeaf (parts _ (Node.mem_slots_map.mpr ⟨row, member, .inl rfl⟩)) ?_
  exact scalar (g.value row.1, g.value row.2) (by rw [same]; exact List.mem_map_of_mem member)

end Graph

end Covenant
