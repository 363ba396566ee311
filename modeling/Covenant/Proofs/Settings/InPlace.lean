import Mathlib.Data.List.Pairwise
import Covenant.Proofs.Basic
import Covenant.Proofs.Value.Rows

/-!
# Merging in place

In a value graph the lower mapping is overwritten node by node. If none of its nodes has two places or belongs to the
upper mapping, it ends as the merged tree. From then on the two share nodes, but merging again still changes nothing.
-/

namespace Covenant

/-! ## Trees that are laid over others -/

def Mapping.scalarKeys (m : Mapping) : Bool := m.all fun entry => entry.1.isScalar

def Value.nests : Nat → Value → Bool
  | 0, v => !v.isMap
  | n + 1, .map entries => entries.all fun entry => nests n entry.2
  | _ + 1, _ => true

structure Value.Tidy (n : Nat) (v : Value) : Prop where
  ordered : v.throughout Mapping.distinct = true
  scalar : v.throughout Mapping.scalarKeys = true
  nests : v.nests n = true

theorem Value.Tidy.map {n : Nat} {m : Mapping} (tidy : (Value.map m).Tidy n) :
    ∃ less, n = less + 1 ∧ m.distinct = true ∧ (∀ entry ∈ m, entry.1.isScalar = true) ∧
      ∀ entry ∈ m, entry.2.Tidy less := by
  obtain ⟨ordered, scalar, nests⟩ := tidy
  obtain ⟨distinct, ordered⟩ := throughout_map.mp ordered
  obtain ⟨keys, scalar⟩ := throughout_map.mp scalar
  cases n with
  | zero => cases nests
  | succ less =>
    exact ⟨less, rfl, distinct, List.all_eq_true.mp keys, fun entry member =>
      ⟨ordered entry member, scalar entry member, List.all_eq_true.mp nests entry member⟩⟩

namespace Graph

open Entries

variable {g h : Graph} {s t w key : Slot} {i j k n : Nat} {v : Value} {m : Mapping}
  {rows entries : List (Slot × Slot)}

/-- A mapping that shares no node with itself, and whose keys are no nodes. -/
inductive Lone (g : Graph) : Slot → Prop
  | other {s : Slot} (none : g.entries? s = none) : Lone g s
  | map {i : Nat} {rows : List (Slot × Slot)} (present : g.node? i = some (.map rows))
      (keys : ∀ row ∈ rows, row.1.isLeaf = true) (each : ∀ row ∈ rows, Lone g row.2)
      (apart : rows.Pairwise fun row other => ∀ k, g.Contains row.2 k → ¬ g.Contains other.2 k) : Lone g (.node i)

theorem Contains.mem {part : List Nat} {k : Nat} (below : g.Contains s k) (start : s.references ⊆ part)
    (closed : ∀ i ∈ part, ∀ node ∈ g.node? i, node.references ⊆ part) : k ∈ part := by
  induction below with
  | here i => exact start (List.mem_singleton_self i)
  | through present slot _ ih =>
    refine ih fun j member => closed _ (start (List.mem_singleton_self _)) _ present ?_
    exact List.mem_flatMap.mpr ⟨_, slot, member⟩

theorem Agree.lone (agree : Agree g h s) (lone : g.Lone s) : h.Lone s := by
  induction lone with
  | other none => exact .other (agree.entries?.trans none)
  | map present keys each apart ih =>
    have part {row : Slot × Slot} (member) : Agree g h row.2 := agree.part present (slots_of_mem member)
    refine .map ((agree _ (.here _)).trans present) keys (fun row member => ih row member (part member)) ?_
    exact apart.imp_of_mem fun member member' disjoint k below below' =>
      disjoint k ((part member).contains below) ((part member').contains below')

/-! ## One step -/

theorem same_eq_alike (leaf : s.isLeaf = true) (leaf' : t.isLeaf = true) : g.same s t = s.alike t := by
  cases s <;> cases t <;> first | rfl | contradiction

theorem find?_eq_look (keys : ∀ row ∈ rows, row.1.isLeaf = true) (leaf : key.isLeaf = true) :
    (rows.find? fun row => g.same row.1 key).map (·.2) = look Slot.alike rows key := by
  induction rows with
  | nil => rfl
  | cons row rest ih =>
    have step := ih fun row member => keys row (List.mem_cons_of_mem _ member)
    rw [look_cons, ← step, List.find?_cons, same_eq_alike (keys row List.mem_cons_self) leaf]
    cases row.1.alike key <;> rfl

theorem putEntry_eq (keys : ∀ row ∈ rows, row.1.isLeaf = true) (leaf : key.isLeaf = true) :
    g.putEntry key s rows = put Slot.alike key s rows := by
  induction rows with
  | nil => rfl
  | cons row rest ih =>
    rw [putEntry, put, same_eq_alike (keys row List.mem_cons_self) leaf,
      ih fun row member => keys row (List.mem_cons_of_mem _ member)]

theorem set_present {node : Node} (present : g.node? i = some node) : (⟨g.nodes.set i node⟩ : Graph) = g := by
  obtain ⟨bound, rfl⟩ := List.getElem?_eq_some_iff.mp present
  rw [List.set_getElem_self]

def mergeEntry (n : Nat) (base : Slot) (g : Graph) (entry : Slot × Slot) : Except Fault Graph :=
  match g.entries? base with
  | none => .error { kind := if (g.entries? entry.2).isSome then .attribute else .type }
  | some (i, below) =>
    let lower := (below.find? fun e => g.same e.1 entry.1).map (·.2)
    match lower.bind g.entries?, g.entries? entry.2 with
    | some (j, _), some _ => merge n g (.node j) entry.2
    | _, _ => .ok ⟨g.nodes.set i (.map (g.putEntry entry.1 entry.2 below))⟩

theorem merge_node (above : g.node? j = some (.map entries)) (base : Slot) :
    g.merge (n + 1) base (.node j) = entries.foldlM (mergeEntry n base) g := by
  rw [merge, entries?_node above]
  rfl

variable {entry : Slot × Slot}

theorem mergeEntry_down (present : g.node? i = some (.map rows)) (keys : ∀ row ∈ rows, row.1.isLeaf = true)
    (leaf : entry.1.isLeaf = true) (found : look Slot.alike rows entry.1 = some (.node j))
    (lower : (g.entries? (.node j)).isSome) (upper : (g.entries? entry.2).isSome) :
    mergeEntry n (.node i) g entry = g.merge n (.node j) entry.2 := by
  obtain ⟨p, below⟩ := Option.isSome_iff_exists.mp lower
  obtain ⟨q, above⟩ := Option.isSome_iff_exists.mp upper
  cases (eq_of_entries? below).1
  simp only [mergeEntry, entries?_node present, find?_eq_look keys leaf, found, Option.bind_some, below, above]

theorem mergeEntry_put (present : g.node? i = some (.map rows)) (keys : ∀ row ∈ rows, row.1.isLeaf = true)
    (leaf : entry.1.isLeaf = true)
    (other : (look Slot.alike rows entry.1).bind g.entries? = none ∨ g.entries? entry.2 = none) :
    mergeEntry n (.node i) g entry = .ok ⟨g.nodes.set i (.map (put Slot.alike entry.1 entry.2 rows))⟩ := by
  simp only [mergeEntry, entries?_node present, find?_eq_look keys leaf, putEntry_eq keys leaf]
  rcases other with none | none
  · simp only [none]
  · rw [none]
    cases (look Slot.alike rows entry.1).bind g.entries? <;> rfl

/-! ## Merging again -/

def Absorbed (g : Graph) : Nat → (base upper : Slot) → Prop
  | 0, _, _ => False
  | n + 1, base, upper => ∃ i rows j entries, base = .node i ∧ g.node? i = some (.map rows) ∧ upper = .node j ∧
      g.node? j = some (.map entries) ∧ (∀ row ∈ rows, row.1.isLeaf = true) ∧ ∀ e ∈ entries, e.1.isLeaf = true ∧
        ∃ w, look Slot.alike rows e.1 = some w ∧ (w = e.2 ∧ g.entries? w = none ∨ g.Absorbed n w e.2)

def Idle (g : Graph) (n : Nat) (w s : Slot) : Prop := w = s ∧ g.entries? w = none ∨ g.Absorbed n w s

theorem foldlM_idle {f : Graph → Slot × Slot → Except Fault Graph} (idle : ∀ e ∈ entries, f g e = .ok g) :
    entries.foldlM f g = .ok g := by
  induction entries with
  | nil => rfl
  | cons e rest ih =>
    rw [List.foldlM_cons, idle e List.mem_cons_self, ok_bind]
    exact ih fun e member => idle e (List.mem_cons_of_mem _ member)

theorem Absorbed.mappings (h : g.Absorbed n s t) :
    ∃ i, s = .node i ∧ (g.entries? s).isSome ∧ (g.entries? t).isSome := by
  cases n with
  | zero => cases h
  | succ n =>
    obtain ⟨i, rows, j, entries, rfl, present, rfl, above, -⟩ := h
    exact ⟨i, rfl, by rw [entries?_node present]; rfl, by rw [entries?_node above]; rfl⟩

theorem Absorbed.merge (h : g.Absorbed n s t) : g.merge n s t = .ok g := by
  induction n generalizing s t with
  | zero => cases h
  | succ n ih =>
    obtain ⟨i, rows, j, entries, rfl, present, rfl, above, keys, each⟩ := h
    rw [merge_node above]
    refine foldlM_idle fun e member => ?_
    obtain ⟨leaf, w, found, ⟨rfl, plain⟩ | absorbed⟩ := each e member
    · rw [mergeEntry_put present keys leaf (.inr plain), put_of_look found, set_present present]
    · obtain ⟨k, rfl, lower, upper⟩ := absorbed.mappings
      rw [mergeEntry_down present keys leaf found lower upper, ih absorbed]

theorem Idle.of_agree (below : Agree g h s) (above : Agree g h t) (idle : g.Idle n s t) : h.Idle n s t := by
  rcases idle with ⟨same, plain⟩ | absorbed
  · exact .inl ⟨same, below.entries?.trans plain⟩
  induction n generalizing s t with
  | zero => cases absorbed
  | succ n ih =>
    obtain ⟨i, rows, j, entries, rfl, present, rfl, there, keys, each⟩ := absorbed
    refine .inr ⟨i, rows, j, entries, rfl, (below i (.here i)).trans present, rfl, (above j (.here j)).trans there,
      keys, fun e member => ?_⟩
    obtain ⟨leaf, w, found, idle⟩ := each e member
    obtain ⟨row, place, -, rfl⟩ := mem_of_look found
    have agree := below.part present (slots_of_mem place)
    refine ⟨leaf, row.2, found, ?_⟩
    rcases idle with ⟨same, plain⟩ | deeper
    · exact .inl ⟨same, agree.entries?.trans plain⟩
    · exact ih agree (above.part there (slots_of_mem member)) deeper

theorem idle_self (fine : g.Fine s) (tidy : (g.value s).Tidy n) : g.Idle n s s := by
  induction n generalizing s with
  | zero =>
    have plain := tidy.nests
    rw [Value.nests, Bool.not_eq_true'] at plain
    exact .inl ⟨rfl, fine.plain plain⟩
  | succ n ih =>
    cases held : g.value s with
    | map u =>
      rw [held] at tidy
      obtain ⟨less, same, differ, scalar, tidy⟩ := tidy.map
      cases same
      obtain ⟨j, rows, rfl, present, sane, rfl⟩ := exists_rows (held ▸ fine : g.Unfolds s _) scalar
      have differ := distinct_of_tree (fun e member => (sane e member).1) differ
      refine .inr ⟨j, rows, j, rows, rfl, present, rfl, present, fun e member => (sane e member).1, fun e member => ?_⟩
      obtain ⟨leaf, -, deeper⟩ := sane e member
      have there := List.mem_map_of_mem (f := fun row => (g.value row.1, g.value row.2)) member
      exact ⟨leaf, e.2, look_of_mem alike_comparison differ member, ih deeper (tidy _ there)⟩
    | _ => exact .inl ⟨rfl, fine.plain (by rw [held]; rfl)⟩

/-! ## A run -/

structure Offer (U : Nat → Prop) (n : Nat) (g : Graph) (e : Slot × Slot) : Prop where
  leaf : e.1.isLeaf = true
  key : g.Fine e.1
  fine : g.Fine e.2
  above : ∀ k, g.Contains e.2 k → U k
  tidy : (g.value e.2).Tidy n

/-- The graph `h` after the entries `done` have been laid over node `i` of `g`, and before the entries `rest` are. -/
structure Stage (U : Nat → Prop) (n : Nat) (g : Graph) (i : Nat) (done rest : List (Slot × Slot)) (h : Graph)
    (rows : List (Slot × Slot)) : Prop where
  outside : ∀ k, g.Contains (.node i) k → ¬ U k
  offers : ∀ e ∈ done ++ rest, Offer U n g e
  differ : Distinct Slot.alike (done ++ rest)
  present : h.node? i = some (.map rows)
  sane : h.Sane rows
  apart : rows.Pairwise fun row other => ∀ k, h.Contains row.2 k → h.Contains other.2 k → U k
  below : ∀ row ∈ rows, ∀ k, h.Contains row.2 k → k ≠ i ∧ (g.Contains (.node i) k ∨ U k)
  fresh : ∀ e ∈ rest, ∀ row ∈ rows, row.1.alike e.1 = true → h.Lone row.2 ∧ ∀ k, h.Contains row.2 k → ¬ U k
  frame : ∀ k, ¬ g.Contains (.node i) k → h.node? k = g.node? k
  idle : ∀ e ∈ done, ∃ w, look Slot.alike rows e.1 = some w ∧ h.Idle n w e.2

namespace Stage

variable {U : Nat → Prop} {done rest : List (Slot × Slot)} {e : Slot × Slot} {h' : Graph}

theorem agree (stage : Stage U n g i done rest h rows) (above : ∀ k, g.Contains s k → U k) : Agree g h s :=
  fun k below => stage.frame k fun inside => stage.outside k inside (above k below)

theorem others (stage : Stage U n g i done (e :: rest) h rows) :
    (∀ d ∈ done, ¬ d.1.alike e.1 = true) ∧ ∀ d ∈ rest, ¬ e.1.alike d.1 = true := by
  obtain ⟨-, later, across⟩ := List.pairwise_append.mp stage.differ
  exact ⟨fun d member => across d member e List.mem_cons_self, (List.pairwise_cons.mp later).1⟩

theorem next (stage : Stage U n g i done (e :: rest) h rows) (w : Slot)
    (present : h'.node? i = some (.map (put Slot.alike e.1 w rows))) (fine : h'.Fine w)
    (under : ∀ k, h'.Contains w k → k ≠ i ∧ (g.Contains (.node i) k ∨ U k))
    (kept : ∀ row ∈ rows, row.2 = w ∧ row.1.alike e.1 = true ∨ Agree h h' row.2)
    (apart : (put Slot.alike e.1 w rows).Pairwise fun row other =>
      ∀ k, h'.Contains row.2 k → h'.Contains other.2 k → U k)
    (frame : ∀ k, ¬ g.Contains (.node i) k → h'.node? k = g.node? k) (idle : h'.Idle n w e.2) :
    Stage U n g i (done ++ [e]) rest h' (put Slot.alike e.1 w rows) := by
  have offer : Offer U n g e := stage.offers e (by simp)
  obtain ⟨before, after⟩ := stage.others
  have moved : done ++ [e] ++ rest = done ++ e :: rest := by simp
  refine ⟨stage.outside, moved ▸ stage.offers, moved ▸ stage.differ, present, fun row member => ?_, apart,
    fun row member k contains => ?_, fun d later row member alike => ?_, frame, fun d member => ?_⟩
  · rcases mem_put member with there | ⟨same, key⟩
    · obtain ⟨leaf, key, value⟩ := stage.sane row there
      refine ⟨leaf, (agree_of_isLeaf leaf).fine key, ?_⟩
      rcases kept row there with ⟨same, -⟩ | agree
      · exact same ▸ fine
      · exact agree.fine value
    · rcases key with same' | ⟨-, old, there⟩
      · rw [same, same']
        exact ⟨offer.leaf, (agree_of_isLeaf offer.leaf).fine offer.key, fine⟩
      · obtain ⟨leaf, key, -⟩ := stage.sane _ there
        exact ⟨leaf, (agree_of_isLeaf leaf).fine key, same ▸ fine⟩
  · rcases mem_put member with there | ⟨same, -⟩
    · rcases kept row there with ⟨same, -⟩ | agree
      · exact under k (same ▸ contains)
      · exact stage.below row there k (agree.contains contains)
    · exact under k (same ▸ contains)
  · -- an entry to come has another key, so that its row has been left alone
    have other : ¬ row.1.alike e.1 = true := fun again =>
      after d later (alike_comparison.trans (alike_comparison.symm again) alike)
    rcases mem_put member with there | ⟨-, same | ⟨again, -⟩⟩
    · rcases kept row there with ⟨-, again⟩ | agree
      · exact absurd again other
      · obtain ⟨lone, free⟩ := stage.fresh d (List.mem_cons_of_mem _ later) row there alike
        exact ⟨agree.lone lone, fun k contains => free k (agree.contains contains)⟩
    · exact absurd (same ▸ alike) (after d later)
    · exact absurd again other
  · rw [look_put alike_comparison]
    rcases List.mem_append.mp member with early | last
    · have other : ¬ e.1.alike d.1 = true := fun again => before d early (alike_comparison.symm again)
      obtain ⟨v, found, idle⟩ := stage.idle d early
      obtain ⟨row, there, alike, rfl⟩ := mem_of_look found
      refine ⟨row.2, by rw [if_neg other, found], idle.of_agree ?_ fun k contains => ?_⟩
      · rcases kept row there with ⟨-, again⟩ | agree
        · exact absurd (alike_comparison.trans (alike_comparison.symm again) alike) other
        · exact agree
      · have above := (stage.offers d (List.mem_append_left _ early)).above
        have hidden : ¬ g.Contains (.node i) k := fun inside =>
          stage.outside k inside (above k ((stage.agree above).contains contains))
        rw [frame k hidden, stage.frame k hidden]
    · obtain rfl := List.mem_singleton.mp last
      exact ⟨w, by rw [if_pos (alike_comparison.refl d.1)], idle⟩

theorem replace (stage : Stage U n g i done (e :: rest) h rows) :
    Stage U n g i (done ++ [e]) rest ⟨h.nodes.set i (.map (put Slot.alike e.1 e.2 rows))⟩
        (put Slot.alike e.1 e.2 rows) ∧
      (⟨h.nodes.set i (.map (put Slot.alike e.1 e.2 rows))⟩ : Graph).tree (put Slot.alike e.1 e.2 rows) =
        (h.tree rows).put (g.value e.1) (g.value e.2) := by
  set h' : Graph := ⟨h.nodes.set i (.map (put Slot.alike e.1 e.2 rows))⟩
  have offer : Offer U n g e := stage.offers e (by simp)
  have elsewhere {k : Nat} (other : k ≠ i) : h'.node? k = h.node? k := List.getElem?_set_ne other.symm
  have present : h'.node? i = some (.map (put Slot.alike e.1 e.2 rows)) :=
    List.getElem?_set_self (lt_of_present stage.present)
  have frame (k : Nat) (outside : ¬ g.Contains (.node i) k) : h'.node? k = g.node? k := by
    rw [elsewhere (by rintro rfl; exact outside (.here k)), stage.frame k outside]
  have above : Agree g h' e.2 := fun k below => frame k fun inside => stage.outside k inside (offer.above k below)
  have kept (row) (member : row ∈ rows) : Agree h h' row.2 :=
    fun k below => elsewhere (stage.below row member k below).1
  have keys (row) (member : row ∈ rows) : row.1.isLeaf = true := (stage.sane row member).1
  constructor
  · refine stage.next e.2 present (above.fine offer.fine) (fun k below => ?_) (fun row member => .inr (kept row member))
      (pairwise_put (R := fun a b => ∀ k, h'.Contains a k → h'.Contains b k → U k) ?_ ?_ ?_ e.1) frame ?_
    · have hidden := offer.above k (above.contains below)
      exact ⟨by rintro rfl; exact stage.outside k (.here k) hidden, .inr hidden⟩
    · exact stage.apart.imp_of_mem fun member member' apart k below below' =>
        apart k ((kept _ member).contains below) ((kept _ member').contains below')
    · exact fun w k _ below => offer.above k (above.contains below)
    · exact fun w k below _ => offer.above k (above.contains below)
    · exact (idle_self offer.fine offer.tidy).of_agree above above
  · rw [tree_put keys offer.leaf, above.value offer.fine, value_leaf (g := g) offer.leaf,
      tree_congr keys fun row member => (kept row member).value (stage.sane row member).2.2]

end Stage

/-- The graph `h` after the mapping at `t` has been laid over node `i` of `g`, which holds the tree `m` now. -/
structure Merged (U : Nat → Prop) (n : Nat) (g : Graph) (i : Nat) (t : Slot) (m : Mapping) (h : Graph) : Prop where
  unfolds : h.Unfolds (.node i) (.map m)
  below : ∀ k, h.Contains (.node i) k → g.Contains (.node i) k ∨ U k
  frame : ∀ k, ¬ g.Contains (.node i) k → h.node? k = g.node? k
  absorbed : h.Absorbed n (.node i) t

namespace Stage

variable {U : Nat → Prop} {done rest : List (Slot × Slot)} {e : Slot × Slot} {h' : Graph}

theorem down (stage : Stage U n g i done (e :: rest) h rows) (found : look Slot.alike rows e.1 = some (.node j))
    (merged : Merged U n h j e.2 m h') :
    Stage U n g i (done ++ [e]) rest h' rows ∧ h'.tree rows = (h.tree rows).put (g.value e.1) (.map m) := by
  have offer : Offer U n g e := stage.offers e (by simp)
  have keys (row) (member : row ∈ rows) : row.1.isLeaf = true := (stage.sane row member).1
  obtain ⟨place, member, alike, slot⟩ := mem_of_look found
  obtain ⟨-, clean⟩ := slot ▸ stage.fresh e List.mem_cons_self place member alike
  have low := slot ▸ stage.below place member
  -- only the nodes below the row change, and no other row shares them
  have away {row : Slot × Slot} (apart : ∀ k, h.Contains row.2 k → h.Contains (.node j) k → U k) : Agree h h' row.2 :=
    fun k below => merged.frame k fun inside => clean k inside (apart k below inside)
  have kept (row) (there : row ∈ rows) : row.2 = .node j ∧ row.1.alike e.1 = true ∨ Agree h h' row.2 := by
    by_cases same : row = place
    · exact .inl (same ▸ ⟨slot, alike⟩)
    · have symmetric : Std.Symm fun row other : Slot × Slot => ∀ k, h.Contains row.2 k → h.Contains other.2 k → U k :=
        ⟨fun row other apart k below below' => apart k below' below⟩
      exact .inr (away (slot ▸ stage.apart.forall there member same))
  have within (row) (there : row ∈ rows) (k : Nat) (below : h'.Contains row.2 k) : h.Contains row.2 k ∨ U k := by
    rcases kept row there with ⟨same, -⟩ | agree
    · rw [same] at below ⊢
      exact merged.below k below
    · exact .inl (agree.contains below)
  have same := put_of_look found
  constructor
  · rw [← same]
    refine stage.next (.node j) ?_ (fine_of_unfolds merged.unfolds) (fun k below => ?_) kept ?_ (fun k outside => ?_)
      (.inr merged.absorbed)
    · rw [same, merged.frame i fun inside => (low i inside).1 rfl, stage.present]
    · rcases merged.below k below with old | hidden
      · exact low k old
      · exact ⟨by rintro rfl; exact stage.outside k (.here k) hidden, .inr hidden⟩
    · rw [same]
      refine stage.apart.imp_of_mem fun member member' apart k below below' => ?_
      rcases within _ member k below with old | hidden
      · rcases within _ member' k below' with old' | hidden
        · exact apart k old old'
        · exact hidden
      · exact hidden
    · rw [merged.frame k fun inside => ?_, stage.frame k outside]
      exact (low k inside).2.elim outside (clean k inside)
  · have others : rows.Pairwise fun row other => (row.2 = .node j → h'.value other.2 = h.value other.2) ∧
        (other.2 = .node j → h'.value row.2 = h.value row.2) := by
      refine stage.apart.imp_of_mem fun member member' apart => ⟨fun slot => ?_, fun slot => ?_⟩
      · exact (away fun k below inside => apart k (slot ▸ inside) below).value (stage.sane _ member').2.2
      · exact (away fun k below inside => apart k below (slot ▸ inside)).value (stage.sane _ member).2.2
    rw [tree_changed keys offer.leaf found others, merged.unfolds.value_eq, value_leaf (g := g) offer.leaf]

end Stage

def Merges (n : Nat) : Prop :=
  ∀ {U : Nat → Prop} {g : Graph} {i : Nat} {t : Slot} {b u : Mapping}, g.Unfolds (.node i) (.map b) →
    g.Lone (.node i) → (∀ k, g.Contains (.node i) k → ¬ U k) → g.Unfolds t (.map u) → (∀ k, g.Contains t k → U k) →
    (Value.map u).Tidy n → ∃ h, g.merge n (.node i) t = .ok h ∧
      Merged U n g i t (b.merge u) h

namespace Stage

variable {U : Nat → Prop} {done rest : List (Slot × Slot)} {e : Slot × Slot}

theorem step (merges : Merges n) (stage : Stage U n g i done (e :: rest) h rows) :
    ∃ h' rows', mergeEntry n (.node i) h e = .ok h' ∧ Stage U n g i (done ++ [e]) rest h' rows' ∧
      h'.tree rows' = (h.tree rows).put (g.value e.1)
        (Mapping.mergeValue (g.value e.2) ((h.tree rows).find? (g.value e.1))) := by
  have offer : Offer U n g e := stage.offers e (by simp)
  have keys (row) (member : row ∈ rows) : row.1.isLeaf = true := (stage.sane row member).1
  have above := stage.agree offer.above
  have search : (h.tree rows).find? (g.value e.1) = (look Slot.alike rows e.1).map h.value := by
    rw [← value_leaf (h := h) offer.leaf, find?_tree keys offer.leaf]
  rw [search]
  rcases Value.mergeValue_cases (g.value e.2) ((look Slot.alike rows e.1).map h.value) with
    ⟨u, b, upper, lower, both⟩ | ⟨other, alone⟩
  · obtain ⟨w, found, lower⟩ := Option.map_eq_some_iff.mp lower
    obtain ⟨place, member, alike, rfl⟩ := mem_of_look found
    obtain ⟨lone, clean⟩ := stage.fresh e List.mem_cons_self place member alike
    have fine := (stage.sane place member).2.2
    have held : (h.entries? place.2).isSome := by rw [← fine.isMap_eq, lower]; rfl
    have laid : (h.entries? e.2).isSome := by rw [above.entries?, ← offer.fine.isMap_eq, upper]; rfl
    obtain ⟨p, below⟩ := Option.isSome_iff_exists.mp held
    have slot := (eq_of_entries? below).1
    rw [slot] at found lone clean fine held lower
    obtain ⟨h', made, merged⟩ := merges (fine.unfolds lower) lone clean (above.unfolds (offer.fine.unfolds upper))
      (fun k below => offer.above k (above.contains below)) (upper ▸ offer.tidy)
    obtain ⟨next, tree⟩ := stage.down found merged
    exact ⟨h', rows, (mergeEntry_down stage.present keys offer.leaf found held laid).trans made, next,
      by rw [tree, both]⟩
  · obtain ⟨next, tree⟩ := stage.replace
    refine ⟨_, _, mergeEntry_put stage.present keys offer.leaf ?_, next, by rw [tree, alone]⟩
    rcases other with plain | plain
    · exact .inr (above.entries?.trans (offer.fine.plain plain))
    · refine .inl (Option.bind_eq_none_iff.mpr fun w found => ?_)
      obtain ⟨row, member, -, rfl⟩ := mem_of_look found
      refine (stage.sane row member).2.2.plain (Bool.eq_false_iff.mpr fun mapping => ?_)
      cases held : h.value row.2 with
      | map base => exact plain base (by rw [found, Option.map_some, held])
      | _ => rw [held] at mapping; cases mapping

theorem run (merges : Merges n) (stage : Stage U n g i done rest h rows) :
    ∃ h' rows', rest.foldlM (mergeEntry n (.node i)) h = .ok h' ∧ Stage U n g i (done ++ rest) [] h' rows' ∧
      h'.tree rows' = (h.tree rows).merge (g.tree rest) := by
  induction rest generalizing done h rows with
  | nil => exact ⟨h, rows, rfl, by simpa using stage, (Mapping.merge.eq_1 _).symm⟩
  | cons e rest ih =>
    obtain ⟨h₁, rows₁, made, next, first⟩ := stage.step merges
    obtain ⟨h₂, rows₂, ran, last, all⟩ := ih next
    refine ⟨h₂, rows₂, ?_, by simpa using last, ?_⟩
    · rw [List.foldlM_cons, made, ok_bind, ran]
    · rw [all, first]
      exact (Mapping.merge.eq_2 ..).symm

theorem start (present : g.node? i = some (.map rows)) (sane : g.Sane rows) (each : ∀ row ∈ rows, g.Lone row.2)
    (apart : rows.Pairwise fun row other => ∀ k, g.Contains row.2 k → ¬ g.Contains other.2 k)
    (outside : ∀ k, g.Contains (.node i) k → ¬ U k) (offers : ∀ e ∈ entries, Offer U n g e)
    (differ : Distinct Slot.alike entries) : Stage U n g i [] entries g rows := by
  have inside {row : Slot × Slot} {k : Nat} (member : row ∈ rows) (below : g.Contains row.2 k) :
      g.Contains (.node i) k := .through present (slots_of_mem member) below
  refine ⟨outside, offers, differ, present, sane, ?_, fun row member k below => ⟨?_, .inl (inside member below)⟩, ?_,
    fun k _ => rfl, nofun⟩
  · exact apart.imp fun disjoint k below below' => absurd below' (disjoint k below)
  · rintro rfl
    exact (unfolds_tree present sane).acyclic k (.here k) ⟨_, present, _, slots_of_mem member, below⟩
  · exact fun e _ row member _ => ⟨each row member, fun k below => outside k (inside member below)⟩

theorem finish (stage : Stage U n g i entries [] h rows) (upper : g.node? j = some (.map entries))
    (hidden : U j) : Merged U (n + 1) g i (.node j) (h.tree rows) h := by
  refine ⟨unfolds_tree stage.present stage.sane, fun k below => ?_, stage.frame, ?_⟩
  · cases below with
    | here => exact .inl (.here i)
    | through present part further =>
      cases stage.present.symm.trans present
      obtain ⟨row, member, rfl | rfl⟩ := Node.mem_slots_map.mp part
      · exact absurd further (not_contains (stage.sane row member).1)
      · exact (stage.below row member k further).2
  · have kept : h.node? j = some (.map entries) := by
      rw [stage.frame j fun inside => stage.outside j inside hidden, upper]
    exact ⟨i, rows, j, entries, rfl, stage.present, rfl, kept, fun row member => (stage.sane row member).1,
      fun e member => ⟨(stage.offers e (by simpa using member)).leaf, stage.idle e member⟩⟩

end Stage

theorem merges (n : Nat) : Merges n := by
  induction n with
  | zero =>
    intro U g i t b u _ _ _ _ _ tidy
    obtain ⟨less, none, -⟩ := tidy.map
    cases none
  | succ n ih =>
    intro U g i t b u unfolds lone outside unfoldsUpper above tidy
    obtain ⟨less, same, differ, scalar, tidy⟩ := tidy.map
    cases same
    obtain ⟨j, entries, rfl, upper, sane, rfl⟩ := exists_rows unfoldsUpper scalar
    have offers (e) (member : e ∈ entries) : Offer U n g e := by
      have there := List.mem_map_of_mem (f := fun row => (g.value row.1, g.value row.2)) member
      obtain ⟨leaf, key, fine⟩ := sane e member
      exact ⟨leaf, key, fine, fun k below => above k (.through upper (slots_of_mem member) below), tidy _ there⟩
    cases lone with
    | other none =>
      have mapping := (fine_of_unfolds unfolds).isMap_eq
      rw [unfolds.value_eq, none] at mapping
      cases mapping
    | map present keys each apart =>
      obtain ⟨held, saneBase⟩ := sane_of_unfolds present keys unfolds
      cases Value.map.inj held
      have stage := Stage.start present saneBase each apart outside offers
        (distinct_of_tree (fun e member => (sane e member).1) differ)
      obtain ⟨h, rows, ran, last, tree⟩ := stage.run ih
      exact ⟨h, (merge_node upper _).trans ran, tree ▸ last.finish upper (above j (.here j))⟩

/-- Mappings without common nodes, the lower one without nodes in two places: it holds the merged tree in the end, the
upper one is as before, and a second time changes nothing. -/
theorem merge_unfolds {u b : Mapping} (lower : g.Unfolds s (.map b)) (lone : g.Lone s) (upper : g.Unfolds t (.map u))
    (apart : ∀ k, g.Contains s k → ¬ g.Contains t k) (tidy : (Value.map u).Tidy n) :
    ∃ h, g.merge n s t = .ok h ∧ h.Unfolds s (.map (b.merge u)) ∧ h.Unfolds t (.map u) ∧ h.merge n s t = .ok h := by
  cases s with
  | leaf v =>
    cases lower with
    | leaf scalar => cases scalar
  | node i =>
    obtain ⟨h, made, merged⟩ := merges n lower lone apart upper (fun _ below => below) tidy
    refine ⟨h, made, merged.unfolds, Agree.unfolds (fun k below => merged.frame k ?_) upper, merged.absorbed.merge⟩
    exact fun inside => apart k inside below

end Graph

/-! ## All together -/

/-- What a merged mapping holds at the end of a path: what the upper one holds there unless it is a mapping laid over
another one, whose keys keep their places before the new ones; and what the lower one holds if the upper one does not
reach there and replaces nothing on the way. Merging again changes nothing. All this is so in place as well. -/
theorem merge_obeys_path_law (base upper : Mapping) (ordered : (Value.map upper).throughout Mapping.distinct = true)
    (path : List Value) :
    (∀ w, (Value.map upper).at? path = some w → w.isMap = false →
      (Value.map (base.merge upper)).at? path = some w) ∧
    (∀ m, (Value.map upper).at? path = some (.map m) → (∀ b, (Value.map base).at? path ≠ some (.map b)) →
      (Value.map (base.merge upper)).at? path = some (.map m)) ∧
    ((Value.map upper).at? path = none →
      (∀ q, q <+: path → q ≠ path → ¬ (Value.map upper).Replaces (some (.map base)) q) →
      (Value.map (base.merge upper)).at? path = (Value.map base).at? path) ∧
    (∀ b m : Mapping, (Value.map base).at? path = some (.map b) → (Value.map upper).at? path = some (.map m) →
      ∃ r : Mapping, (Value.map (base.merge upper)).at? path = some (.map r) ∧
        r.map (·.1) = b.map (·.1) ++ (m.map (·.1)).filter fun key => (b.find? key).isNone) ∧
    (base.merge upper).merge upper = base.merge upper ∧
    ∀ (g : Graph) (s t : Slot) (fuel : Nat), g.Unfolds s (.map base) → g.Lone s → g.Unfolds t (.map upper) →
      (∀ k, g.Contains s k → ¬ g.Contains t k) → (Value.map upper).throughout Mapping.scalarKeys = true →
      (Value.map upper).nests fuel = true → ∃ h, g.merge fuel s t = .ok h ∧ h.Unfolds s (.map (base.merge upper)) ∧
        h.Unfolds t (.map upper) ∧ h.merge fuel s t = .ok h := by
  have merged : Mapping.mergeValue (.map upper) (some (.map base)) = .map (base.merge upper) := rfl
  refine ⟨fun w held leaf => ?_, fun m held new => ?_, fun absent kept => ?_, fun b m lower held => ?_, ?_,
    fun g s t fuel lower lone above apart scalar nests => ?_⟩
  · exact merged ▸ Value.at?_mergeValue_leaf ordered held leaf
  · exact merged ▸ Value.at?_mergeValue_new ordered held new
  · exact merged ▸ Value.at?_mergeValue_untouched ordered absent kept
  · obtain ⟨both, differ⟩ := Value.at?_mergeValue_both (x := some (.map base)) ordered held lower
    exact ⟨b.merge m, merged ▸ both, Mapping.keys_merge b differ⟩
  · exact Value.map.inj (merged ▸ Value.mergeValue_again ordered (some (.map base)))
  · exact Graph.merge_unfolds lower lone above apart ⟨ordered, scalar, nests⟩

open Value Mapping

def laidOver : Mapping :=
  [(.str "limits", .map [(.str "time", .int 5), (.str "depth", .map [])]), (.str "mode", .str "fast")]

def laidUnder : Mapping :=
  [(.str "mode", .map []), (.str "limits", .map [(.str "depth", .int 3), (.str "size", .int 8)])]

def limitsGraph : Graph := ⟨[
  .map [],
  .map [(.leaf (.str "depth"), .leaf (.int 3)), (.leaf (.str "size"), .leaf (.int 8))],
  .map [(.leaf (.str "mode"), .node 0), (.leaf (.str "limits"), .node 1)],
  .map [],
  .map [(.leaf (.str "time"), .leaf (.int 5)), (.leaf (.str "depth"), .node 3)],
  .map [(.leaf (.str "limits"), .node 4), (.leaf (.str "mode"), .leaf (.str "fast"))]]⟩

theorem limits_merged :
    (Value.map (laidUnder.merge laidOver)).at? [.str "limits", .str "time"] = some (.int 5) ∧
      (Value.map (laidUnder.merge laidOver)).at? [.str "limits", .str "size"] = some (.int 8) ∧
      (laidUnder.merge laidOver).merge laidOver = laidUnder.merge laidOver ∧
      ∃ h, limitsGraph.merge 3 (.node 2) (.node 5) = .ok h ∧ h.value (.node 2) = .map (laidUnder.merge laidOver) ∧
        h.merge 3 (.node 2) (.node 5) = .ok h := by
  have ordered : (Value.map laidOver).throughout distinct = true := by decide +kernel
  have law := merge_obeys_path_law laidUnder laidOver ordered
  refine ⟨(law _).1 _ ?_ rfl, ((law _).2.2.1 ?_ ?_).trans ?_, (law []).2.2.2.2.1, ?_⟩
  · simp [laidOver, at?, find?_cons, same_str]
  · simp [laidOver, at?, same_str, find?]
  · intro q before proper replaced
    obtain ⟨w, held, other⟩ := replaced
    rcases List.prefix_cons_iff.mp before with rfl | ⟨q, rfl, later⟩
    · cases held
      simp [isMap, at?] at other
    · rcases List.prefix_cons_iff.mp later with rfl | ⟨q, rfl, last⟩
      · simp [laidOver, laidUnder, at?, find?_cons, same_str, isMap] at held other
        subst held
        simp at other
      · rw [List.prefix_nil.mp last] at proper
        exact proper rfl
  · simp [laidUnder, at?, find?_cons, same_str]
  · have tree {i : Nat} (present : i < 6) : limitsGraph.Unfolds (.node i) (limitsGraph.value (.node i)) := by
      obtain ⟨v, unfolds⟩ : ∃ v, limitsGraph.Unfolds (.node i) v :=
        Graph.exists_unfolds_of_ordered (by decide) (decide_eq_true present)
      exact Graph.fine_of_unfolds unfolds
    have apart (i j : Nat) (l m : List Nat) (start : [i] ⊆ l ∧ [j] ⊆ m) (none : ∀ k ∈ l, k ∉ m)
        (closed : ∀ part ∈ [l, m], ∀ n ∈ part, ∀ node ∈ limitsGraph.node? n, node.references ⊆ part) (k : Nat)
        (first : limitsGraph.Contains (.node i) k) (second : limitsGraph.Contains (.node j) k) : False :=
      none k (first.mem start.1 (closed l (by simp)))
        (second.mem start.2 (closed m (by simp)))
    have leaf (v : Value) : limitsGraph.Lone (.leaf v) := .other rfl
    have empty : limitsGraph.Lone (.node 0) := .map rfl (by simp) (by simp) .nil
    have limits : limitsGraph.Lone (.node 1) := by
      refine .map rfl (by decide) (by simp [leaf]) ?_
      simpa using fun k below => absurd below (Graph.not_contains (by decide))
    have lone : limitsGraph.Lone (.node 2) := by
      refine .map rfl (by decide) (by simp [empty, limits]) ?_
      simpa using apart 0 1 [0] [1] (by decide) (by decide) (by decide)
    obtain ⟨h, made, unfolds, -, again⟩ := (law []).2.2.2.2.2 limitsGraph (.node 2) (.node 5) 3 (tree (by decide)) lone
      (tree (by decide)) (apart 2 5 [2, 0, 1] [5, 4, 3] (by decide) (by decide) (by decide)) (by decide +kernel)
      (by decide +kernel)
    exact ⟨h, made, unfolds.value_eq, again⟩

end Covenant
