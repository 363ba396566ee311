import Covenant.Engine.SolvedModel
import Covenant.Proofs.Basic
import Covenant.Proofs.Value.Sameness

namespace Covenant

/-! ## Entries by key -/

namespace Snapshot

def putAll (start entries : List (String × Value)) : List (String × Value) :=
  entries.foldl (fun es (key, v) => putEntry es key v) start

theorem putEntry_append {front rest : List (String × Value)} {key : String} (v : Value)
    (fresh : key ∉ front.map (·.1)) : putEntry (front ++ rest) key v = front ++ putEntry rest key v := by
  induction front with
  | nil => rfl
  | cons entry front ih =>
    obtain ⟨k, old⟩ := entry
    obtain ⟨differs, fresh⟩ := not_or.mp (mt List.mem_cons.mpr fresh)
    rw [List.cons_append, putEntry, if_neg (Ne.symm differs), ih fresh, List.cons_append]

theorem putAll_append {front entries : List (String × Value)} (rest : List (String × Value))
    (apart : ∀ entry ∈ entries, entry.1 ∉ front.map (·.1)) :
    putAll (front ++ rest) entries = front ++ putAll rest entries := by
  induction entries generalizing rest with
  | nil => rfl
  | cons entry entries ih =>
    obtain ⟨key, v⟩ := entry
    change putAll (putEntry (front ++ rest) key v) entries = front ++ putAll (putEntry rest key v) entries
    rw [putEntry_append v (apart _ List.mem_cons_self)]
    exact ih _ fun entry later => apart entry (List.mem_cons_of_mem _ later)

theorem putAll_distinct {entries : List (String × Value)} (distinct : (entries.map (·.1)).Nodup) :
    putAll [] entries = entries := by
  induction entries with
  | nil => rfl
  | cons entry rest ih =>
    obtain ⟨fresh, distinct⟩ := List.nodup_cons.mp distinct
    have apart : ∀ later ∈ rest, later.1 ∉ [entry].map (·.1) := by
      intro later member same
      rw [List.map_singleton, List.mem_singleton] at same
      exact fresh (List.mem_map.mpr ⟨later, member, same⟩)
    exact (putAll_append [] apart).trans (by rw [ih distinct]; rfl)

end Snapshot

/-! ## Graphs of snapshots -/

def Value.Plain : Value → Prop
  | .bool _ => True
  | .int _ => True
  | .float _ => True
  | .str _ => True
  | _ => False

theorem Value.Plain.insert {v : Value} (plain : v.Plain) (g : Graph) : g.insert v = (g, .leaf v) := by
  cases v <;> first | rfl | exact plain.elim

theorem Value.Plain.leafText {v : Value} (plain : v.Plain) : Graph.leafText v = v.text := by
  cases v <;> first | rfl | exact plain.elim

namespace Snapshot

def receiverEntry (fields : List (String × Value)) : String × Value :=
  (receiverKey, .map (fields.map fun f => (.str f.1, f.2)))

def fieldsText (fields : List (String × Value)) : String :=
  Graph.braces (Graph.limited 5 fields fun f => f.1 ++ "=" ++ f.2.text)

def contents (s : Snapshot) : List (Value × Value) := s.entries.map fun entry => (entry.1, s.graph.value entry.2)

def extend (s : Snapshot) (entry : String × Value) : Snapshot :=
  ⟨(s.graph.insert entry.2).1, s.entries ++ [(.str entry.1, (s.graph.insert entry.2).2)]⟩

def keyed (slot : String × Slot) : Value × Slot := (.str slot.1, slot.2)

def leafSlot (entry : String × Value) : String × Slot := (entry.1, .leaf entry.2)

theorem ofEntries_eq (es : List (String × Value)) : ofEntries es = es.foldl extend {} := rfl

theorem foldl_extend_keyed (es : List (String × Value)) (g : Graph) (slots : List (String × Slot)) :
    ∃ (g' : Graph) (more : List (String × Slot)),
      es.foldl extend ⟨g, slots.map keyed⟩ = ⟨g', (slots ++ more).map keyed⟩ ∧ more.map (·.1) = es.map (·.1) := by
  induction es generalizing g slots with
  | nil => exact ⟨g, [], by simp, rfl⟩
  | cons entry rest ih =>
    have first : extend ⟨g, slots.map keyed⟩ entry =
        ⟨(g.insert entry.2).1, (slots ++ [(entry.1, (g.insert entry.2).2)]).map keyed⟩ := by
      rw [List.map_append]
      rfl
    obtain ⟨g', more, all, keys⟩ := ih (g.insert entry.2).1 (slots ++ [(entry.1, (g.insert entry.2).2)])
    refine ⟨g', (entry.1, (g.insert entry.2).2) :: more, ?_, by simp [keys]⟩
    rw [List.foldl_cons, first, all]
    simp

theorem ofEntries_keyed (es : List (String × Value)) :
    ∃ (g : Graph) (slots : List (String × Slot)),
      ofEntries es = ⟨g, slots.map keyed⟩ ∧ slots.map (·.1) = es.map (·.1) :=
  foldl_extend_keyed es Graph.empty []

theorem foldl_extend_plain {es : List (String × Value)} (plain : ∀ entry ∈ es, entry.2.Plain) (g : Graph)
    (slots : List (String × Slot)) :
    es.foldl extend ⟨g, slots.map keyed⟩ = ⟨g, (slots ++ es.map leafSlot).map keyed⟩ := by
  induction es generalizing slots with
  | nil => simp
  | cons entry rest ih =>
    have here : extend ⟨g, slots.map keyed⟩ entry = ⟨g, (slots ++ [leafSlot entry]).map keyed⟩ := by
      rw [extend, (plain entry List.mem_cons_self).insert, List.map_append]
      rfl
    rw [List.foldl_cons, here, ih fun later member => plain later (List.mem_cons_of_mem _ member)]
    simp

theorem insertEntries_plain (g : Graph) {fields : List (String × Value)} (plain : ∀ f ∈ fields, f.2.Plain) :
    g.insertEntries (fields.map fun f => (.str f.1, f.2)) =
      (g, fields.map fun f => (.leaf (.str f.1), .leaf f.2)) := by
  induction fields with
  | nil => simp [Graph.insertEntries]
  | cons f rest ih =>
    have head : g.insert f.2 = (g, .leaf f.2) := (plain f List.mem_cons_self).insert g
    have name : g.insert (.str f.1) = (g, .leaf (.str f.1)) := Value.Plain.insert (v := .str f.1) trivial g
    have tail := ih fun later member => plain later (List.mem_cons_of_mem _ member)
    simp only [List.map_cons, Graph.insertEntries, name, head, tail]

def receiverGraph (fields : List (String × Value)) : Graph :=
  ⟨[.map (fields.map fun f => (.leaf (.str f.1), .leaf f.2))]⟩

theorem ofEntries_receiver {fields es : List (String × Value)} (plainFields : ∀ f ∈ fields, f.2.Plain)
    (plain : ∀ entry ∈ es, entry.2.Plain) :
    ofEntries (receiverEntry fields :: es) =
      ⟨receiverGraph fields, ((receiverKey, .node 0) :: es.map leafSlot).map keyed⟩ := by
  have first : extend {} (receiverEntry fields) =
      ⟨receiverGraph fields, [(receiverKey, Slot.node 0)].map keyed⟩ := by
    simp only [extend, receiverEntry, Graph.insert, insertEntries_plain _ plainFields]
    rfl
  rw [ofEntries_eq, List.foldl_cons, first, foldl_extend_plain plain]
  rfl

theorem value_receiverGraph (fields : List (String × Value)) :
    (receiverGraph fields).value (.node 0) = .map (fields.map fun f => (.str f.1, f.2)) := by
  simp [Graph.value, receiverGraph, Graph.unfold, Graph.node?]

theorem limited_map {α β : Type} (breadth : Int) (items : List α) (part : α → β) (shownAs : β → String) :
    Graph.limited breadth (items.map part) shownAs = Graph.limited breadth items fun x => shownAs (part x) := by
  simp [Graph.limited, List.map_take, Function.comp_def]

theorem limited_congr {α : Type} {breadth : Int} {items : List α} {f g : α → String} (h : ∀ x ∈ items, f x = g x) :
    Graph.limited breadth items f = Graph.limited breadth items g := by
  have same : (items.take breadth.toNat).map f = (items.take breadth.toNat).map g :=
    List.map_congr_left fun x member => h x (List.mem_of_mem_take member)
  simp only [Graph.limited, same]

theorem dump_receiverGraph {fields : List (String × Value)} (plain : ∀ f ∈ fields, f.2.Plain) :
    (receiverGraph fields).dump (.node 0) {} = fieldsText fields := by
  change Graph.braces (Graph.limited 5 (fields.map fun f => (Slot.leaf (.str f.1), Slot.leaf f.2)) _) = _
  rw [limited_map, fieldsText]
  refine congrArg Graph.braces (limited_congr fun f member => ?_)
  change f.1 ++ "=" ++ Graph.leafText f.2 = _
  rw [(plain f member).leafText]

/-! ## Traces of snapshots -/

theorem isReceiver_str (key : String) : isReceiver (.str key) = decide (key = receiverKey) :=
  Value.same_str key receiverKey

theorem receiver?_keyed (g : Graph) (slots : List (String × Slot)) :
    receiver? ⟨g, slots.map keyed⟩ = slots.lookup receiverKey := by
  unfold receiver?
  induction slots with
  | nil => rfl
  | cons slot rest ih =>
    obtain ⟨key, slot⟩ := slot
    rw [lookup_cons_eq, List.map_cons, List.find?_cons, keyed, isReceiver_str]
    by_cases here : key = receiverKey
    · simp [here]
    · simpa [here, Ne.symm here] using ih

theorem bindings_keyed (g : Graph) (slots : List (String × Slot)) :
    bindings ⟨g, slots.map keyed⟩ = (slots.filter (·.1 ≠ receiverKey)).map keyed := by
  rw [bindings, List.filter_map]
  congr 2
  funext slot
  simp [keyed, isReceiver_str]

theorem mapM_ok {ε α β : Type} {f : α → Except ε β} {g : α → β} {xs : List α} (h : ∀ x ∈ xs, f x = .ok (g x)) :
    xs.mapM f = .ok (xs.map g) := by
  induction xs with
  | nil => rfl
  | cons x rest ih =>
    rw [List.mapM_cons, h x List.mem_cons_self, ih fun y later => h y (List.mem_cons_of_mem _ later)]
    rfl

theorem trace_keyed (g : Graph) (slots : List (String × Slot)) :
    trace ⟨g, slots.map keyed⟩ = .ok ⟨
      ((slots.lookup receiverKey).map fun slot => (receiverName, g.dump slot {})).toList ++
      (slots.filter (·.1 ≠ receiverKey)).map fun slot => (displayName slot.1, g.text slot.2)⟩ := by
  rw [trace, receiver?_keyed, bindings_keyed, List.mapM_map]
  refine bind_eq_ok.mpr ⟨(slots.filter (·.1 ≠ receiverKey)).map fun slot => (displayName slot.1, g.text slot.2),
    mapM_ok fun slot _ => rfl, ?_⟩
  cases slots.lookup receiverKey <;> rfl

theorem trace_names (es : List (String × Value)) :
    ∃ t, (ofEntries es).trace = .ok t ∧ t.entries.map (·.1) =
      (if receiverKey ∈ es.map (·.1) then [receiverName] else []) ++
        ((es.map (·.1)).filter (· ≠ receiverKey)).map displayName := by
  obtain ⟨g, slots, made, keys⟩ := ofEntries_keyed es
  refine ⟨_, made ▸ trace_keyed g slots, ?_⟩
  rw [← keys, List.map_append, List.map_map, List.filter_map, List.map_map]
  congr 1
  cases found : slots.lookup receiverKey with
  | none => rw [if_neg (lookup_eq_none_iff_not_mem.mp found)]; rfl
  | some slot => rw [if_pos (List.mem_map.mpr ⟨_, mem_of_lookup found, rfl⟩)]; rfl

variable {this : Option (List (String × Value))} {es : List (String × Value)}

theorem ofEntries_eq_keyed (plainFields : ∀ fields ∈ this, ∀ f ∈ fields, f.2.Plain)
    (plain : ∀ entry ∈ es, entry.2.Plain) :
    ofEntries ((this.map receiverEntry).toList ++ es) =
      ⟨(this.map receiverGraph).getD .empty,
        ((this.map fun _ => (receiverKey, Slot.node 0)).toList ++ es.map leafSlot).map keyed⟩ := by
  cases this with
  | none => exact foldl_extend_plain plain .empty []
  | some fields => exact ofEntries_receiver (plainFields fields rfl) plain

theorem contents_ofEntries (plainFields : ∀ fields ∈ this, ∀ f ∈ fields, f.2.Plain)
    (plain : ∀ entry ∈ es, entry.2.Plain) :
    (ofEntries ((this.map receiverEntry).toList ++ es)).contents =
      ((this.map receiverEntry).toList ++ es).map fun entry => (.str entry.1, entry.2) := by
  rw [ofEntries_eq_keyed plainFields plain, contents]
  have leaves (g : Graph) : ((es.map leafSlot).map keyed).map (fun entry => (entry.1, g.value entry.2)) =
      es.map fun entry => (.str entry.1, entry.2) := by
    rw [List.map_map, List.map_map]
    exact List.map_congr_left fun entry _ => by simp [keyed, leafSlot, Graph.value, Graph.unfold]
  cases this with
  | none => exact leaves _
  | some fields =>
    have all := leaves (receiverGraph fields)
    simp only [Option.map_some, Option.toList_some, Option.getD_some, List.cons_append, List.nil_append,
      List.map_cons, all]
    rw [keyed, value_receiverGraph, receiverEntry]

theorem trace_ofEntries (plainFields : ∀ fields ∈ this, ∀ f ∈ fields, f.2.Plain)
    (plain : ∀ entry ∈ es, entry.2.Plain) (named : receiverKey ∉ es.map (·.1)) :
    (ofEntries ((this.map receiverEntry).toList ++ es)).trace =
      .ok ⟨(this.map fun fields => (receiverName, fieldsText fields)).toList ++
        es.map fun entry => (displayName entry.1, entry.2.text)⟩ := by
  have keys : (es.map leafSlot).map (·.1) = es.map (·.1) := by
    rw [List.map_map]
    rfl
  have absent : (es.map leafSlot).lookup receiverKey = none := lookup_eq_none_of_not_mem (keys ▸ named)
  have others : (es.map leafSlot).filter (·.1 ≠ receiverKey) = es.map leafSlot := by
    rw [List.filter_eq_self]
    intro slot member
    have key : slot.1 ∈ es.map (·.1) := keys ▸ List.mem_map.mpr ⟨slot, member, rfl⟩
    exact decide_eq_true fun same => named (same ▸ key)
  have texts (g : Graph) : (es.map leafSlot).map (fun slot => (displayName slot.1, g.text slot.2)) =
      es.map fun entry => (displayName entry.1, entry.2.text) := by
    rw [List.map_map]
    exact List.map_congr_left fun entry _ => by simp [leafSlot, Graph.text, Graph.value, Graph.unfold]
  rw [ofEntries_eq_keyed plainFields plain, trace_keyed]
  cases this with
  | none => simp only [Option.map_none, Option.toList_none, List.nil_append, absent, others, texts]
  | some fields =>
    simp only [Option.map_some, Option.toList_some, Option.getD_some, List.cons_append, List.nil_append,
      lookup_cons_eq, if_true, dump_receiverGraph (plainFields fields rfl)]
    rw [List.filter_cons_of_neg (by simp), others, texts]

end Snapshot

end Covenant
