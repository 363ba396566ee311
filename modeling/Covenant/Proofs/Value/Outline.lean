import Covenant.Value.Dump
import Mathlib.Data.Finset.Card
import Mathlib.Data.List.Nodup

/-!
# The outline of a dump

The text of a dump is that of an outline, which tells the marks for cycles and for what is left out from the texts of
values. A path that meets no node twice is no longer than there are nodes to meet. So with a depth limit of that many
levels, and a breadth limit that no container exceeds, nothing is left out, in a cyclic graph as in any other.
-/

namespace Covenant

/-- What a dump shows in one place. A container inside itself is a `cycle`, one below the depth limit is `deeper`, and a
group has `more` parts if some are beyond the breadth limit. -/
inductive Outline where
  | text (s : String)
  | cycle
  | deeper
  | group (opening : String) (parts : List (String × Outline)) (more : Bool) (closing : String)

namespace Outline

mutual
def render : Outline → String
  | text s => s
  | cycle => "<cycle>"
  | deeper => "..."
  | group opening parts more closing =>
    opening ++ Text.joined ", " (if more then renderParts parts ++ ["..."] else renderParts parts) ++ closing
def renderParts : List (String × Outline) → List String
  | [] => []
  | (label, o) :: rest => (label ++ o.render) :: renderParts rest
end

theorem renderParts_eq (parts : List (String × Outline)) :
    renderParts parts = parts.map fun p => p.1 ++ p.2.render := by
  induction parts with
  | nil => rw [renderParts, List.map_nil]
  | cons p rest ih =>
    obtain ⟨label, o⟩ := p
    rw [renderParts, ih, List.map_cons]

end Outline

def Slot.Within (objects : Finset Nat) : Slot → Prop
  | .leaf _ => True
  | .node i => i ∈ objects

instance (objects : Finset Nat) : DecidablePred (Slot.Within objects)
  | .leaf _ => inferInstanceAs (Decidable True)
  | .node i => inferInstanceAs (Decidable (i ∈ objects))

/-! ## Layouts -/

inductive Layout where
  | plain (text : String)
  | container (opening : String) (labelled : List (String × Slot)) (closing : String)

namespace Layout

def parts : Layout → List (String × Slot)
  | plain _ => []
  | container _ labelled _ => labelled

def shownBy (breadth : Int) (below : Slot → String) : Layout → String
  | plain text => text
  | container opening labelled closing =>
    opening ++ Graph.limited breadth labelled (fun p => p.1 ++ below p.2) ++ closing

end Layout

namespace Graph

variable (g : Graph) {breadth : Int} {depth : Nat} {path : List Nat} {s : Slot} {i : Nat}

def layout (i : Nat) : Layout :=
  match g.node? i with
  | none => .plain "null"
  | some (.map entries) => .container "\x7b" (entries.map fun (k, v) => (g.text k ++ "=", v)) "\x7d"
  | some (.list items) => .container "[" (items.map ("", ·)) "]"
  | some (.tuple items) => .container "[" (items.map ("", ·)) "]"
  | some (.set members) => .container "\x7b" ((g.sortedMembers members).map ("", ·)) "\x7d"
  | some (.frozenSet members) => .container "\x7b" ((g.sortedMembers members).map ("", ·)) "\x7d"
  | some (.object name _ attributes) =>
    .container (name ++ "\x7b") (attributes.map fun (k, v) => (k ++ "=", v)) "\x7d"
  | some (.foreign _ plain _) => .plain plain

theorem limited_map {α β : Type} (items : List α) (f : α → β) (shownAs : β → String) :
    limited breadth (items.map f) shownAs = limited breadth items (shownAs ∘ f) := by
  simp only [limited, List.length_map, ← List.map_take, List.map_map]

theorem dumpFrom_node (new : i ∉ path) :
    g.dumpFrom breadth (depth + 1) path (.node i) =
      (g.layout i).shownBy breadth (g.dumpFrom breadth depth (i :: path)) := by
  have absent : path.contains i = false := by simpa using new
  rw [dumpFrom, absent, layout]
  cases g.node? i with
  | none => rfl
  | some node =>
    cases node with
    | map entries => simp [Layout.shownBy, limited_map, braces, Function.comp_def, String.append_assoc]
    | list items => simp [Layout.shownBy, limited_map, Function.comp_def]
    | tuple items => simp [Layout.shownBy, limited_map, Function.comp_def]
    | set members => simp [Layout.shownBy, limited_map, braces, Function.comp_def]
    | frozenSet members => simp [Layout.shownBy, limited_map, braces, Function.comp_def]
    | object name shown attributes => simp [Layout.shownBy, limited_map, braces, Function.comp_def, String.append_assoc]
    | foreign kind plain inner => rfl

/-! ## Outlines -/

def outlineFrom (breadth : Int) : Nat → List Nat → Slot → Outline
  | _, _, .leaf v => .text (leafText v)
  | depth, path, .node i =>
    if i ∈ path then .cycle
    else match depth with
      | 0 => .deeper
      | depth + 1 =>
        match g.layout i with
        | .plain text => .text text
        | .container opening parts closing =>
          let shown := (parts.take breadth.toNat).map fun p => (p.1, outlineFrom breadth depth (i :: path) p.2)
          .group opening shown (breadth < parts.length) closing

variable {g} in
theorem outlineFrom_again (again : i ∈ path) : g.outlineFrom breadth depth path (.node i) = .cycle := by
  unfold outlineFrom
  rw [if_pos again]

variable {g} in
theorem outlineFrom_plain (new : i ∉ path) {text : String} (layout : g.layout i = .plain text) :
    g.outlineFrom breadth (depth + 1) path (.node i) = .text text := by
  rw [outlineFrom, if_neg new, layout]

variable {g} in
theorem outlineFrom_container (new : i ∉ path) {opening closing : String} {labelled : List (String × Slot)}
    (layout : g.layout i = .container opening labelled closing) (fits : (labelled.length : Int) ≤ breadth) :
    g.outlineFrom breadth (depth + 1) path (.node i) =
      .group opening (labelled.map fun p => (p.1, g.outlineFrom breadth depth (i :: path) p.2)) false closing := by
  have whole : labelled.take breadth.toNat = labelled := List.take_of_length_le (by omega)
  have none : decide (breadth < labelled.length) = false := decide_eq_false (by omega)
  rw [outlineFrom, if_neg new, layout]
  simp only [whole, none]

def outline (s : Slot) (limits : DumpLimits) : Outline :=
  g.outlineFrom limits.breadth limits.depth.toNat [] s

theorem render_outlineFrom :
    (g.outlineFrom breadth depth path s).render = g.dumpFrom breadth depth path s := by
  induction depth generalizing path s with
  | zero =>
    cases s with
    | leaf v => simp [outlineFrom, dumpFrom, Outline.render]
    | node i =>
      by_cases again : i ∈ path
      · simp [outlineFrom, dumpFrom, again, Outline.render]
      · simp [outlineFrom, dumpFrom, again, Outline.render]
  | succ depth ih =>
    cases s with
    | leaf v => simp [outlineFrom, dumpFrom, Outline.render]
    | node i =>
      by_cases again : i ∈ path
      · simp [outlineFrom, dumpFrom, again, Outline.render]
      · rw [dumpFrom_node g again, outlineFrom, if_neg again]
        cases g.layout i with
        | plain text => simp [Layout.shownBy, Outline.render]
        | container opening labelled closing =>
          simp [Layout.shownBy, Outline.render, Outline.renderParts_eq, limited, ih, Function.comp_def]

theorem render_outline (limits : DumpLimits) : (g.outline s limits).render = g.dump s limits :=
  g.render_outlineFrom

/-! ## Complete outlines -/

mutual
/-- The outline of a slot below the nodes of a path, with nothing left out. A node is a cycle if and only if it is on
the path, which holds the nodes around it. -/
inductive Shows : List Nat → Slot → Outline → Prop
  | leaf (path : List Nat) (v : Value) : Shows path (.leaf v) (.text (leafText v))
  | cycle {path : List Nat} {i : Nat} (again : i ∈ path) : Shows path (.node i) .cycle
  | plain {path : List Nat} {i : Nat} {text : String} (new : i ∉ path) (layout : g.layout i = .plain text) :
      Shows path (.node i) (.text text)
  | container {path : List Nat} {i : Nat} {opening closing : String} {labelled : List (String × Slot)}
      {outlines : List (String × Outline)} (new : i ∉ path)
      (layout : g.layout i = .container opening labelled closing) (all : ShowsAll (i :: path) labelled outlines) :
      Shows path (.node i) (.group opening outlines false closing)
inductive ShowsAll : List Nat → List (String × Slot) → List (String × Outline) → Prop
  | nil (path : List Nat) : ShowsAll path [] []
  | cons {path : List Nat} {label : String} {s : Slot} {o : Outline} {labelled : List (String × Slot)}
      {outlines : List (String × Outline)} (first : Shows path s o) (rest : ShowsAll path labelled outlines) :
      ShowsAll path ((label, s) :: labelled) ((label, o) :: outlines)
end

inductive Reaches : Slot → Nat → Prop
  | here (i : Nat) : Reaches (.node i) i
  | through {i j : Nat} {p : String × Slot} (part : p ∈ (g.layout i).parts) (further : Reaches p.2 j) :
      Reaches (.node i) j

/-- All nodes that a dump of the slot may meet are among `objects` and have at most `width` parts. -/
structure Spans (objects : Finset Nat) (width : Nat) (s : Slot) : Prop where
  reached : ∀ i, g.Reaches s i → i ∈ objects
  narrow : ∀ i, g.Reaches s i → (g.layout i).parts.length ≤ width

def Settles (objects : Finset Nat) (width : Nat) (path : List Nat) (s : Slot) (o : Outline) : Prop :=
  ∀ (depth : Nat) (breadth : Int), objects.card ≤ depth + path.length → width ≤ breadth →
    g.outlineFrom breadth depth path s = o

variable {g} {objects : Finset Nat} {width : Nat}

theorem Spans.part (h : g.Spans objects width (.node i)) {p : String × Slot} (part : p ∈ (g.layout i).parts) :
    g.Spans objects width p.2 where
  reached j further := h.reached j (.through part further)
  narrow j further := h.narrow j (.through part further)

structure Simple (objects : Finset Nat) (path : List Nat) : Prop where
  distinct : path.Nodup
  inside : ∀ i ∈ path, i ∈ objects

theorem Simple.cons (h : Simple objects path) (new : i ∉ path) (member : i ∈ objects) : Simple objects (i :: path) where
  distinct := List.nodup_cons.mpr ⟨new, h.distinct⟩
  inside j onPath := by
    rcases List.mem_cons.mp onPath with rfl | earlier
    · exact member
    · exact h.inside j earlier

theorem Simple.length_le (h : Simple objects path) : path.length ≤ objects.card := by
  have among : path.toFinset ⊆ objects := fun j listed => h.inside j (List.mem_toFinset.mp listed)
  rw [← List.toFinset_card_of_nodup h.distinct]
  exact Finset.card_le_card among

theorem exists_showsAll {P : Slot → Outline → Prop} {labelled : List (String × Slot)}
    (each : ∀ p ∈ labelled, ∃ o, g.Shows path p.2 o ∧ P p.2 o) :
    ∃ outlines, g.ShowsAll path labelled outlines ∧
      ∀ f : Slot → Outline, (∀ s o, P s o → f s = o) → labelled.map (fun p => (p.1, f p.2)) = outlines := by
  induction labelled with
  | nil => exact ⟨[], .nil path, fun f _ => rfl⟩
  | cons p rest ih =>
    obtain ⟨label, s⟩ := p
    obtain ⟨o, first, holds⟩ := each (label, s) List.mem_cons_self
    obtain ⟨outlines, all, same⟩ := ih fun p member => each p (List.mem_cons_of_mem _ member)
    refine ⟨(label, o) :: outlines, .cons first all, fun f agrees => ?_⟩
    rw [List.map_cons, same f agrees, agrees s o holds]

/-- What is left of the depth limit and the path together suffice for all nodes, so the limit is never met. -/
theorem exists_outline (room : Nat) (simple : Simple objects path) (spans : g.Spans objects width s)
    (enough : objects.card ≤ room + path.length) : ∃ o, g.Shows path s o ∧ g.Settles objects width path s o := by
  induction room using Nat.strongRecOn generalizing path s with
  | ind room ih =>
    cases s with
    | leaf v => exact ⟨_, .leaf path v, fun depth breadth _ _ => by rw [outlineFrom]⟩
    | node i =>
      by_cases again : i ∈ path
      · exact ⟨_, .cycle again, fun depth breadth _ _ => outlineFrom_again again⟩
      -- the node is met for the first time, so the path does not yet hold all nodes
      have extended := simple.cons again (spans.reached i (.here i))
      have shorter : path.length < objects.card := extended.length_le
      have narrow := spans.narrow i (.here i)
      cases layout : g.layout i with
      | plain text =>
        refine ⟨_, .plain again layout, fun depth breadth deep _ => ?_⟩
        obtain ⟨depth, rfl⟩ : ∃ d, depth = d + 1 := ⟨depth - 1, by omega⟩
        exact outlineFrom_plain again layout
      | container opening labelled closing =>
        rw [layout] at narrow
        have each : ∀ p ∈ labelled, ∃ o, g.Shows (i :: path) p.2 o ∧ g.Settles objects width (i :: path) p.2 o := by
          intro p listed
          have part : p ∈ (g.layout i).parts := by
            rw [layout]
            exact listed
          refine ih (room - 1) (by omega) extended (spans.part part) ?_
          rw [List.length_cons]
          omega
        obtain ⟨outlines, all, same⟩ := exists_showsAll each
        refine ⟨_, .container again layout all, fun depth breadth deep wide => ?_⟩
        obtain ⟨depth, rfl⟩ : ∃ d, depth = d + 1 := ⟨depth - 1, by omega⟩
        have fits : (labelled.length : Int) ≤ breadth := (Int.ofNat_le.mpr narrow).trans wide
        have below := same (g.outlineFrom breadth depth (i :: path)) fun s o holds => by
          refine holds depth breadth ?_ wide
          rw [List.length_cons]
          omega
        rw [outlineFrom_container again layout fits, below]

/-- A dump whose limits are as large as the graph shows everything: its text is that of the complete outline, whatever
these limits are. -/
theorem dump_complete_within_large_limits (spans : g.Spans objects width s) :
    ∃ o, g.Shows [] s o ∧ ∀ limits : DumpLimits, objects.card ≤ limits.depth → width ≤ limits.breadth →
      g.outline s limits = o ∧ g.dump s limits = o.render := by
  have start : Simple objects [] := ⟨List.nodup_nil, by simp⟩
  obtain ⟨o, shows, same⟩ := exists_outline objects.card start spans (Nat.le_add_right ..)
  refine ⟨o, shows, fun limits deep wide => ?_⟩
  have outlined : g.outline s limits = o := by
    refine same limits.depth.toNat limits.breadth ?_ wide
    rw [List.length_nil]
    omega
  exact ⟨outlined, by rw [← outlined, render_outline]⟩

theorem spans_of_closed (start : s.Within objects)
    (closed : ∀ i ∈ objects, ∀ p ∈ (g.layout i).parts, p.2.Within objects)
    (narrow : ∀ i ∈ objects, (g.layout i).parts.length ≤ width) : g.Spans objects width s := by
  have reached : ∀ i, g.Reaches s i → i ∈ objects := by
    intro i reaches
    induction reaches with
    | here i => exact start
    | through part _ ih => exact ih (closed _ start _ part)
  exact ⟨reached, fun i reaches => narrow i (reached i reaches)⟩

def ring : Graph := ⟨[
  .object "Ring" "<Ring object at 0x10>" [("next", .node 1), ("self", .node 0)],
  .list [.node 0, .node 2, .node 2],
  .map [(.leaf (.str "back"), .node 1), (.leaf (.str "at"), .leaf (.int 5))]]⟩

theorem ring_dump_complete :
    ring.Spans {0, 1, 2} 3 (.node 0) ∧
      ∃ o, ring.Shows [] (.node 0) o ∧ ∀ limits : DumpLimits, 3 ≤ limits.depth → 3 ≤ limits.breadth →
        ring.outline (.node 0) limits = o ∧ ring.dump (.node 0) limits = o.render := by
  have spans : ring.Spans {0, 1, 2} 3 (.node 0) := spans_of_closed (by decide) (by decide) (by decide)
  exact ⟨spans, dump_complete_within_large_limits spans⟩

example : ring.dump (.node 0) ⟨3, 3⟩ = "Ring\x7bnext=[<cycle>, \x7bback=<cycle>, at=5\x7d, " ++
    "\x7bback=<cycle>, at=5\x7d], self=<cycle>\x7d" := by
  decide

end Graph

end Covenant
