import Covenant.Proofs.Engine.Snapshot
import Covenant.Proofs.Engine.Verdict
import Covenant.Proofs.Model.Spelling
import Covenant.Proofs.Text.Pieces

/-!
# What a counterexample shows

At its own site a solved model shows the receiver with its fields, the parameters and the static fields of the classes
in the context, each with the value that the solver found. The receiver has a key of its own among the others. Nothing
is lost, and the trace names everything as the source does, if and only if no shown location is called like that key and
no two static fields are shown under one name.
-/

namespace Covenant

open Snapshot

/-! ## The pre-state -/

def solvedValue (values : List (String × Value)) (name : String) : Value := (values.lookup name).getD .null

section

variable (subject : ClassModel) (method : MethodModel) (dependencies : List ClassModel) (context : Context)
  (values : List (String × Value))

def visibleStatics : List (String × String) :=
  (if context.contains subject.className then
    subject.staticFields.map fun f =>
      (if f.1 ∈ method.params.map (·.1) then dotted subject.simpleName f.1 else f.1, dotted subject.simpleName f.1)
  else []) ++
  (dependencies.filter fun m => context.contains m.className).flatMap fun m =>
    m.staticFields.map fun f => (dotted m.simpleName f.1, dotted m.simpleName f.1)

def visibleNames : List String := (visibleStatics subject method dependencies context).map (·.1)

def solvedReceiver : Option (List (String × Value)) :=
  if method.isStatic then none else some (subject.fields.map fun f => (f.1, solvedValue values (dotted "this" f.1)))

def solvedParams : List (String × Value) := method.params.map fun p => (p.1, solvedValue values p.1)

def solvedStatics : List (String × Value) :=
  (visibleStatics subject method dependencies context).map fun l => (l.1, solvedValue values l.2)

def solvedLocations : List (String × Value) :=
  solvedParams method values ++ solvedStatics subject method dependencies context values

def atSite (location : String × Value) : String × Value := (location.1 ++ siteSuffix, location.2)

def siteEntries : List (String × Value) :=
  ((solvedReceiver subject method values).map receiverEntry).toList ++
    (solvedLocations subject method dependencies context values).map atSite

def siteTrace : Trace :=
  ⟨((solvedReceiver subject method values).map fun fields => (receiverName, fieldsText fields)).toList ++
    (solvedLocations subject method dependencies context values).map fun l => (l.1, l.2.text)⟩

/-- No shown location takes the key of the receiver or that of another location. -/
structure Legible : Prop where
  unreserved : "thiz" ∉ method.params.map (·.1) ++ visibleNames subject method dependencies context
  distinct : (visibleNames subject method dependencies context).Nodup

def SolvedModel.Faithful (m : SolvedModel) : Prop :=
  ∃ s, m.snapshot context m.className m.methodId = .ok s ∧
    s.contents = (siteEntries subject method dependencies context values).map (fun entry => (.str entry.1, entry.2)) ∧
    ((siteEntries subject method dependencies context values).map (·.1)).Nodup ∧
    s.trace = .ok (siteTrace subject method dependencies context values)

end

/-! ## Names -/

theorem receiverKey_eq : receiverKey = "thiz" ++ siteSuffix := by decide

theorem displayName_atSite (name : String) : displayName (name ++ siteSuffix) = name := by
  have cut : Text.cutLast? '_' (name ++ siteSuffix).toList = some (name.toList, ['0']) := by
    rw [String.toList_append, Text.cutLast?_eq_some]
    exact ⟨rfl, by decide⟩
  rw [displayName, cut]
  exact String.ofList_toList

variable {subject : ClassModel} {method : MethodModel} {dependencies : List ClassModel} {context : Context}
  {values : List (String × Value)} {frame : Frame} {unknowns : List Variable}

theorem mem_visibleStatics {display name : String} :
    (display, name) ∈ visibleStatics subject method dependencies context ↔
      (context.contains subject.className = true ∧ ∃ f ∈ subject.staticFields,
        (if f.1 ∈ method.params.map (·.1) then dotted subject.simpleName f.1 else f.1) = display ∧
          dotted subject.simpleName f.1 = name) ∨
      ∃ m ∈ dependencies, context.contains m.className = true ∧ ∃ f ∈ m.staticFields,
        dotted m.simpleName f.1 = display ∧ dotted m.simpleName f.1 = name := by
  unfold visibleStatics
  rw [List.mem_append]
  refine or_congr ?_ ?_
  · split
    · rename_i shown
      simp only [List.mem_map, Prod.mk.injEq, shown, true_and]
    · rename_i hidden
      simp [hidden]
  · simp only [List.mem_flatMap, List.mem_filter, List.mem_map, Prod.mk.injEq, and_assoc]

theorem filter_owner {α : Type} (entry : α → StaticVariable) (owner : String) (xs : List α)
    (h : ∀ x, (entry x).owner = owner) :
    (xs.map entry).filter (fun s => context.contains s.owner) =
      if context.contains owner then xs.map entry else [] := by
  split
  · rename_i shown
    simp [List.filter_eq_self, h, shown]
  · rename_i hidden
    simp [List.filter_eq_nil_iff, h, hidden]

theorem staticVariables_shown :
    ((staticVariables subject method dependencies).filter fun s => context.contains s.owner).map
        (fun s => (s.display, s.variableName)) = visibleStatics subject method dependencies context := by
  rw [staticVariables, List.filter_append, List.map_append, visibleStatics]
  congr 1
  · have declared (f : String) : (method.params.lookup f).isSome = true ↔ f ∈ method.params.map (·.1) := by
      rw [Option.isSome_iff_ne_none, Ne, lookup_eq_none_iff_not_mem, not_not]
    rw [filter_owner _ subject.className _ fun _ => rfl]
    split
    · rw [List.map_map]
      refine List.map_congr_left fun f _ => ?_
      simp only [Function.comp_apply, ownStatic, declared]
    · rfl
  · induction dependencies with
    | nil => rfl
    | cons m rest ih =>
      rw [List.flatMap_cons, List.filter_append, List.map_append, ih, dependencyStatics,
        filter_owner _ m.className _ fun _ => rfl, List.filter_cons]
      split
      · rw [List.flatMap_cons, List.map_map]
        rfl
      · rfl

/-! ## Legible names -/

theorem mem_visibleNames {display : String} (h : display ∈ visibleNames subject method dependencies context) :
    ∃ name, (display, name) ∈ visibleStatics subject method dependencies context := by
  obtain ⟨⟨_, name⟩, member, rfl⟩ := List.mem_map.mp h
  exact ⟨name, member⟩

theorem Apart.not_visible (a : Apart subject method dependencies) {p : String}
    (declared : p ∈ method.params.map (·.1)) : p ∉ visibleNames subject method dependencies context := by
  intro visible
  obtain ⟨name, member⟩ := mem_visibleNames visible
  obtain ⟨d, parameter, rfl⟩ := List.mem_map.mp declared
  rcases mem_visibleStatics.mp member with ⟨-, f, own, shown, -⟩ | ⟨m, related, -, f, static, shown, -⟩
  · split at shown
    · exact a.param_static d parameter f own shown.symm
    · rename_i notParam
      exact notParam (shown ▸ declared)
  · exact a.param_other d parameter m related f static shown.symm

theorem nodup_map_dotted {owner : String} {ds : Declarations} (distinct : (ds.map (·.1)).Nodup) :
    (ds.map fun f => dotted owner f.1).Nodup := by
  have keys : (ds.map fun f => dotted owner f.1) = (ds.map (·.1)).map (dotted owner) := by simp
  rw [keys]
  exact distinct.map fun _ _ => dotted_inj.mp

theorem Apart.nodup_visibleNames (a : Apart subject method dependencies)
    (undotted : ∀ f ∈ subject.staticFields, '.' ∉ f.1.toList) :
    (visibleNames subject method dependencies context).Nodup := by
  have own : (subject.staticFields.map fun f =>
      if f.1 ∈ method.params.map (·.1) then dotted subject.simpleName f.1 else f.1).Nodup := by
    refine List.Nodup.map_on ?_ (a.statics.of_map _)
    intro f first g second same
    have key : f.1 = g.1 := by
      split at same <;> split at same
      · exact dotted_inj.mp same
      · exact absurd (same ▸ dot_mem_dotted _ _) (undotted g second)
      · exact absurd (same ▸ dot_mem_dotted _ _) (undotted f first)
      · exact same
    exact List.inj_on_of_nodup_map a.statics first second key
  have others : ((dependencies.filter fun m => context.contains m.className).flatMap fun m =>
      m.staticFields.map fun f => dotted m.simpleName f.1).Nodup := by
    rw [List.nodup_flatMap]
    refine ⟨fun m member => nodup_map_dotted (a.others m (List.mem_filter.mp member).1), ?_⟩
    refine (a.other_other.filter _).imp ?_
    intro m later differ name first second
    obtain ⟨f, here, rfl⟩ := List.mem_map.mp first
    obtain ⟨g, there, same⟩ := List.mem_map.mp second
    exact differ f here g there same.symm
  have split : visibleNames subject method dependencies context =
      (if context.contains subject.className then subject.staticFields.map fun f =>
        if f.1 ∈ method.params.map (·.1) then dotted subject.simpleName f.1 else f.1 else []) ++
      (dependencies.filter fun m => context.contains m.className).flatMap fun m =>
        m.staticFields.map fun f => dotted m.simpleName f.1 := by
    rw [visibleNames, visibleStatics, List.map_append, List.map_flatMap]
    congr 1
    · split <;> simp
    · simp only [List.map_map, Function.comp_def]
  rw [split, List.nodup_append]
  refine ⟨?_, others, ?_⟩
  · split
    · exact own
    · exact List.nodup_nil
  · rintro name first _ second rfl
    split at first
    · obtain ⟨f, static, rfl⟩ := List.mem_map.mp first
      obtain ⟨m, member, other⟩ := List.mem_flatMap.mp second
      obtain ⟨g, field, same⟩ := List.mem_map.mp other
      split at same
      · exact a.static_other f static m (List.mem_filter.mp member).1 g field same.symm
      · exact undotted f static (same ▸ dot_mem_dotted _ _)
    · cases first

theorem Apart.legible_iff (a : Apart subject method dependencies)
    (undotted : ∀ f ∈ subject.staticFields, '.' ∉ f.1.toList) :
    Legible subject method dependencies context ↔ "thiz" ∉ method.params.map (·.1) ∧
      (context.contains subject.className = true → "thiz" ∉ subject.staticFields.map (·.1)) := by
  constructor
  · intro legible
    obtain ⟨notParam, notVisible⟩ := not_or.mp (mt List.mem_append.mpr legible.unreserved)
    refine ⟨notParam, fun shown static => notVisible ?_⟩
    obtain ⟨f, declared, named⟩ := List.mem_map.mp static
    have bare : (if f.1 ∈ method.params.map (·.1) then dotted subject.simpleName f.1 else f.1) = "thiz" := by
      rw [if_neg (by rw [named]; exact notParam), named]
    exact List.mem_map.mpr ⟨_, mem_visibleStatics.mpr (.inl ⟨shown, f, declared, bare, rfl⟩), rfl⟩
  · rintro ⟨notParam, notStatic⟩
    refine ⟨fun reserved => ?_, a.nodup_visibleNames undotted⟩
    obtain ⟨name, member⟩ := mem_visibleNames ((List.mem_append.mp reserved).resolve_left notParam)
    have noDot : '.' ∉ "thiz".toList := by decide
    rcases mem_visibleStatics.mp member with ⟨shown, f, own, named, -⟩ | ⟨m, related, -, f, static, named, -⟩
    · split at named
      · exact noDot (named ▸ dot_mem_dotted _ _)
      · exact notStatic shown (List.mem_map.mpr ⟨f, own, named⟩)
    · exact noDot (named ▸ dot_mem_dotted _ _)

/-! ## Solvers -/

structure Bound (values : List (String × Value)) (xs : List Variable) : Prop where
  keys : values.map (·.1) = names xs
  plain : ∀ entry ∈ values, entry.2.Plain

def Solver.Binds (solver : Solver) : Prop :=
  ∀ enc values, solver enc = .satisfiable values → Bound values enc.unknowns

theorem Solved.plain_toValue (v : Solved) : v.toValue.Plain := by
  cases v with
  | truth b => exact trivial
  | whole n =>
    rw [toValue]
    cases Text.exceedsDigits n <;> exact trivial
  | fraction q =>
    rw [toValue, fractionValue]
    split
    · exact trivial
    · split <;> exact trivial
  | name s =>
    unfold toValue
    split <;> first | contradiction | exact trivial

theorem Search.keys_report (unknowns : List Variable) (values : List (Variable × Solved))
    (constraints : List (Term .bool)) : (report unknowns values constraints).map (·.1) = names unknowns := by
  rw [report, List.map_map]
  refine List.map_congr_left fun x _ => ?_
  simp only [Function.comp_apply]
  split <;> rfl

theorem Solver.exhaustive_binds : Solver.exhaustive.Binds := by
  intro enc values found
  unfold exhaustive at found
  cases solved : solve enc.range enc.unknowns enc.constraints with
  | none => simp [solved] at found
  | some pairs =>
    simp only [solved, Decision.satisfiable.injEq] at found
    subst found
    obtain ⟨folded, -, rest⟩ := Option.bind_eq_some_iff.mp solved
    obtain ⟨⟨assigned, left⟩, -, made⟩ := Option.bind_eq_some_iff.mp rest
    cases made
    refine ⟨?_, ?_⟩
    · rw [List.map_map]
      exact Search.keys_report enc.unknowns assigned left
    · intro entry member
      obtain ⟨pair, -, rfl⟩ := List.mem_map.mp member
      exact Solved.plain_toValue pair.2

/-! ## The entries of a solved model -/

theorem Bound.lookup (b : Bound values unknowns) {name : String} (known : name ∈ names unknowns) :
    values.lookup name = some (solvedValue values name) := by
  cases found : values.lookup name with
  | none => exact absurd (b.keys ▸ known) (lookup_eq_none_iff_not_mem.mp found)
  | some v => rw [solvedValue, found, Option.getD_some]

theorem Bound.plain_solvedValue (b : Bound values unknowns) {name : String} (known : name ∈ names unknowns) :
    (solvedValue values name).Plain :=
  b.plain _ (mem_of_lookup (b.lookup known))

theorem Mapping.put_fresh {entries : Mapping} {key v : Value} (fresh : ∀ entry ∈ entries, entry.1.same key = false) :
    Mapping.put entries key v = entries ++ [(key, v)] := by
  induction entries with
  | nil => rfl
  | cons entry rest ih =>
    obtain ⟨k, old⟩ := entry
    rw [Mapping.put, fresh _ List.mem_cons_self, ih fun later member => fresh later (List.mem_cons_of_mem _ member)]
    rfl

theorem Mapping.ofList_distinct {fields : List (String × Value)} (distinct : (fields.map (·.1)).Nodup) :
    Mapping.ofList (fields.map fun f => (.str f.1, f.2)) = fields.map fun f => (.str f.1, f.2) := by
  have step (front rest : List (String × Value)) (distinct : ((front ++ rest).map (·.1)).Nodup) :
      (rest.map fun f => ((.str f.1, f.2) : Value × Value)).foldl (fun done entry => put done entry.1 entry.2)
        (front.map fun f => (.str f.1, f.2)) = (front ++ rest).map fun f => (.str f.1, f.2) := by
    induction rest generalizing front with
    | nil => simp
    | cons f rest ih =>
      have fresh : ∀ entry ∈ front.map (fun f => ((.str f.1, f.2) : Value × Value)),
          entry.1.same (.str f.1) = false := by
        intro entry member
        obtain ⟨g, earlier, rfl⟩ := List.mem_map.mp member
        rw [Value.same_str, beq_eq_false_iff_ne]
        rw [List.map_append, List.nodup_append] at distinct
        exact distinct.2.2 _ (List.mem_map.mpr ⟨g, earlier, rfl⟩) _ List.mem_cons_self
      have next := ih (front ++ [f]) (by simpa using distinct)
      rw [List.map_cons, List.foldl_cons, Mapping.put_fresh fresh]
      simpa using next
  exact step [] fields distinct

variable {bits : Nat} {enc : Encoding} {site : Site}

section

variable (e : Encodes subject method dependencies bits enc) (b : Bound values enc.unknowns)

include e in
theorem known_param {p : String × String} (declared : p ∈ method.params) : p.1 ∈ names enc.unknowns := by
  rw [e.declares.names_unknowns]
  exact List.mem_append_left _ (List.mem_append_left _ (List.mem_append_left _ (List.mem_map.mpr ⟨p, declared, rfl⟩)))

include e in
theorem known_field {f : String × String} (declared : f ∈ receiverFields subject method) :
    dotted "this" f.1 ∈ names enc.unknowns := by
  rw [e.declares.names_unknowns]
  exact List.mem_append_left _ (List.mem_append_left _ (List.mem_append_right _ (List.mem_map.mpr ⟨f, declared, rfl⟩)))

include e in
theorem known_visible {l : String × String} (shown : l ∈ visibleStatics subject method dependencies context) :
    l.2 ∈ names enc.unknowns := by
  rw [e.declares.names_unknowns]
  obtain ⟨display, name⟩ := l
  rcases mem_visibleStatics.mp shown with ⟨-, f, own, -, rfl⟩ | ⟨m, related, -, f, static, -, rfl⟩
  · exact List.mem_append_left _ (List.mem_append_right _ (List.mem_map.mpr ⟨f, own, rfl⟩))
  · exact List.mem_append_right _ (mem_dotted related static)

include e b

theorem plain_atSite :
    ∀ entry ∈ (solvedLocations subject method dependencies context values).map atSite, entry.2.Plain := by
  intro entry member
  obtain ⟨l, location, rfl⟩ := List.mem_map.mp member
  rcases List.mem_append.mp location with param | static
  · obtain ⟨p, declared, rfl⟩ := List.mem_map.mp param
    exact b.plain_solvedValue (known_param e declared)
  · obtain ⟨l, shown, rfl⟩ := List.mem_map.mp static
    exact b.plain_solvedValue (known_visible e shown)

theorem plain_receiver : ∀ fields ∈ solvedReceiver subject method values, ∀ f ∈ fields, f.2.Plain := by
  intro fields here f member
  unfold solvedReceiver at here
  split at here
  · cases here
  · rename_i notStatic
    cases here
    obtain ⟨f, declared, rfl⟩ := List.mem_map.mp member
    have field : f ∈ receiverFields subject method := by rwa [receiverFields, if_neg notStatic]
    exact b.plain_solvedValue (known_field e field)

omit e in
theorem modelOf_value {name : String} (known : name ∈ names enc.unknowns) :
    (BoundedEngine.modelOf site subject method enc values).value name = .ok (solvedValue values name) := by
  have found : (BoundedEngine.modelOf site subject method enc values).values.lookup name = some _ := b.lookup known
  rw [SolvedModel.value, found]

theorem modelOf_receiver (notStatic : ¬ method.isStatic = true) :
    (BoundedEngine.modelOf site subject method enc values).receiver =
      .ok (receiverEntry (subject.fields.map fun f => (f.1, solvedValue values (dotted "this" f.1)))).2 := by
  have fields : (BoundedEngine.modelOf site subject method enc values).receiverFields = subject.fields.map (·.1) :=
    if_neg notStatic
  have here : receiverFields subject method = subject.fields := if_neg notStatic
  have read : ∀ f ∈ subject.fields.map (·.1), (do
      return (Value.str f, ← (BoundedEngine.modelOf site subject method enc values).value (dotted "this" f))) =
      (.ok (.str f, solvedValue values (dotted "this" f)) : Except Fault (Value × Value)) := by
    intro name member
    obtain ⟨f, declared, rfl⟩ := List.mem_map.mp member
    rw [modelOf_value b (known_field e (here ▸ declared))]
    rfl
  have distinct : ((subject.fields.map fun f => (f.1, solvedValue values (dotted "this" f.1))).map (·.1)).Nodup := by
    rw [List.map_map]
    exact here ▸ e.declares.apart.fields
  rw [SolvedModel.receiver, fields, mapM_ok read, receiverEntry, ← Mapping.ofList_distinct distinct, List.map_map,
    List.map_map]
  rfl

omit e b in
theorem siteEntries_split : siteEntries subject method dependencies context values =
    ((solvedReceiver subject method values).map receiverEntry).toList ++ (solvedParams method values).map atSite ++
      (solvedStatics subject method dependencies context values).map atSite := by
  rw [siteEntries, solvedLocations, List.map_append, List.append_assoc]

theorem ownEntries_eq :
    (BoundedEngine.modelOf site subject method enc values).ownEntries context =
      .ok (putAll [] (siteEntries subject method dependencies context values)) := by
  let m := BoundedEngine.modelOf site subject method enc values
  have params : m.params.mapM (fun p => do return (p ++ siteSuffix, ← m.value p)) =
      (.ok ((solvedParams method values).map atSite) : Except Fault (List (String × Value))) := by
    have read : ∀ p ∈ method.params.map (·.1), (do return (p ++ siteSuffix, ← m.value p)) =
        (.ok (p ++ siteSuffix, solvedValue values p) : Except Fault (String × Value)) := by
      intro name member
      obtain ⟨p, declared, rfl⟩ := List.mem_map.mp member
      rw [modelOf_value b (known_param e declared)]
      rfl
    refine (mapM_ok read).trans ?_
    rw [solvedParams, List.map_map, List.map_map]
    rfl
  have statics : (m.shownStatics context).mapM (fun s => do
        return (s.display ++ siteSuffix, ← m.value s.variableName)) =
      (.ok ((solvedStatics subject method dependencies context values).map atSite) :
        Except Fault (List (String × Value))) := by
    have shown : (m.shownStatics context).map (fun s => (s.display, s.variableName)) =
        visibleStatics subject method dependencies context := by
      rw [← staticVariables_shown, ← e.statics_eq]
      rfl
    have read : ∀ s ∈ m.shownStatics context, (do return (s.display ++ siteSuffix, ← m.value s.variableName)) =
        (.ok (s.display ++ siteSuffix, solvedValue values s.variableName) : Except Fault (String × Value)) := by
      intro s member
      have visible : (s.display, s.variableName) ∈ visibleStatics subject method dependencies context :=
        shown ▸ List.mem_map.mpr ⟨s, member, rfl⟩
      rw [modelOf_value b (known_visible e visible)]
      rfl
    rw [mapM_ok read, solvedStatics, ← shown, List.map_map, List.map_map]
    rfl
  change m.ownEntries context = _
  by_cases isStatic : method.isStatic = true
  · have none : m.isStatic = true := isStatic
    rw [SolvedModel.ownEntries, if_pos none, params, statics, siteEntries_split, solvedReceiver, if_pos isStatic]
    rfl
  · have some : ¬ m.isStatic = true := isStatic
    have receiver : m.receiver = _ := modelOf_receiver e b isStatic
    rw [SolvedModel.ownEntries, if_neg some, receiver, params, statics, siteEntries_split, solvedReceiver,
      if_neg isStatic]
    rfl

end

/-! ## What is shown -/

def locationNames (subject : ClassModel) (method : MethodModel) (dependencies : List ClassModel) (context : Context) :
    List String :=
  method.params.map (·.1) ++ visibleNames subject method dependencies context

theorem names_solvedLocations : (solvedLocations subject method dependencies context values).map (·.1) =
    locationNames subject method dependencies context := by
  rw [solvedLocations, solvedParams, solvedStatics, List.map_append, List.map_map, List.map_map, locationNames,
    visibleNames]
  rfl

theorem nodup_atSite {xs : List String} : (xs.map (· ++ siteSuffix)).Nodup ↔ xs.Nodup :=
  List.nodup_map_iff fun _ _ => (String.append_left_inj siteSuffix).mp

theorem mem_atSite {xs : List String} {x : String} : x ++ siteSuffix ∈ xs.map (· ++ siteSuffix) ↔ x ∈ xs :=
  List.mem_map_of_injective fun _ _ => (String.append_left_inj siteSuffix).mp

theorem keys_atSite : ((solvedLocations subject method dependencies context values).map atSite).map (·.1) =
    (locationNames subject method dependencies context).map (· ++ siteSuffix) := by
  rw [← names_solvedLocations, List.map_map, List.map_map]
  rfl

theorem Apart.nodup_locationNames (a : Apart subject method dependencies)
    (distinct : (visibleNames subject method dependencies context).Nodup) :
    (locationNames subject method dependencies context).Nodup := by
  rw [locationNames, List.nodup_append]
  refine ⟨a.params, distinct, ?_⟩
  rintro name param _ visible rfl
  exact a.not_visible param visible

theorem eq_receiverKey {this : Option (List (String × Value))} {key : String}
    (h : key ∈ (this.map receiverEntry).toList.map (·.1)) : key = receiverKey := by
  cases this with
  | none => cases h
  | some fields => exact List.mem_singleton.mp h

theorem nodup_siteKeys (this : Option (List (String × Value))) {xs : List String} (distinct : xs.Nodup)
    (unreserved : "thiz" ∉ xs) :
    ((this.map receiverEntry).toList.map (·.1) ++ xs.map (· ++ siteSuffix)).Nodup := by
  rw [List.nodup_append, nodup_atSite]
  refine ⟨by cases this <;> simp, distinct, ?_⟩
  intro key first other second same
  rw [← same, eq_receiverKey first, receiverKey_eq, mem_atSite] at second
  exact unreserved second

theorem Legible.nodup_keys (legible : Legible subject method dependencies context)
    (a : Apart subject method dependencies) :
    ((siteEntries subject method dependencies context values).map (·.1)).Nodup := by
  rw [siteEntries, List.map_append, keys_atSite]
  exact nodup_siteKeys _ (a.nodup_locationNames legible.distinct) legible.unreserved

section

variable (e : Encodes subject method dependencies bits enc) (b : Bound values enc.unknowns)

include e b

theorem snapshot_own (m : SolvedModel) (made : m = BoundedEngine.modelOf site subject method enc values) :
    m.snapshot context m.className m.methodId =
      .ok (ofEntries (putAll [] (siteEntries subject method dependencies context values))) := by
  rw [SolvedModel.snapshot, SolvedModel.snapshotEntries, if_pos ⟨rfl, rfl⟩, made, ownEntries_eq e b]
  rfl

theorem trace_siteEntries (unreserved : "thiz" ∉ locationNames subject method dependencies context) :
    (ofEntries (siteEntries subject method dependencies context values)).trace =
      .ok (siteTrace subject method dependencies context values) := by
  have named : receiverKey ∉ ((solvedLocations subject method dependencies context values).map atSite).map (·.1) := by
    rw [keys_atSite, receiverKey_eq, mem_atSite]
    exact unreserved
  rw [siteEntries, trace_ofEntries (plain_receiver e b) (plain_atSite e b) named, siteTrace, List.map_map]
  simp only [Function.comp_def, atSite, displayName_atSite]

theorem Legible.faithful (legible : Legible subject method dependencies context) (m : SolvedModel)
    (made : m = BoundedEngine.modelOf site subject method enc values) :
    m.Faithful subject method dependencies context values := by
  have distinct : ((siteEntries subject method dependencies context values).map (·.1)).Nodup :=
    legible.nodup_keys e.declares.apart
  refine ⟨_, snapshot_own e b m made, ?_, distinct, ?_⟩
  · rw [putAll_distinct distinct]
    exact contents_ofEntries (plain_receiver e b) (plain_atSite e b)
  · rw [putAll_distinct distinct]
    exact trace_siteEntries e b legible.unreserved

theorem legible_of_faithful (m : SolvedModel) (made : m = BoundedEngine.modelOf site subject method enc values)
    (faithful : m.Faithful subject method dependencies context values) :
    Legible subject method dependencies context := by
  obtain ⟨s, shown, -, distinct, traced⟩ := faithful
  rw [snapshot_own e b m made, putAll_distinct distinct] at shown
  cases shown
  have keys := distinct
  rw [siteEntries, List.map_append, keys_atSite] at keys
  have locations := nodup_atSite.mp (List.nodup_append.mp keys).2.1
  refine ⟨fun reserved => ?_, (List.nodup_append.mp locations).2.1⟩
  -- the trace has an entry of that name, but the key of such a location is taken for that of the receiver
  obtain ⟨t, same, named⟩ := trace_names (siteEntries subject method dependencies context values)
  rw [traced] at same
  cases same
  have expected : "thiz" ∈ (siteTrace subject method dependencies context values).entries.map (·.1) := by
    have location : "thiz" ∈ (solvedLocations subject method dependencies context values).map (·.1) :=
      names_solvedLocations ▸ reserved
    obtain ⟨l, member, same⟩ := List.mem_map.mp location
    refine List.mem_map.mpr ⟨(l.1, l.2.text), List.mem_append_right _ ?_, same⟩
    exact List.mem_map.mpr ⟨l, member, rfl⟩
  rw [named] at expected
  rcases List.mem_append.mp expected with receiver | other
  · split at receiver
    · exact absurd (List.mem_singleton.mp receiver) (by decide)
    · cases receiver
  · obtain ⟨key, kept, display⟩ := List.mem_map.mp other
    obtain ⟨member, differs⟩ := List.mem_filter.mp kept
    have other : key ≠ receiverKey := of_decide_eq_true differs
    rw [siteEntries, List.map_append, keys_atSite] at member
    rcases List.mem_append.mp member with receiver | location
    · exact other (eq_receiverKey receiver)
    · obtain ⟨name, -, rfl⟩ := List.mem_map.mp location
      rw [displayName_atSite] at display
      exact other (by rw [display, receiverKey_eq])

end

/-! ## The engine -/

variable {τ : Type} {engine : BoundedEngine} {configuration : Mapping} {desk final : Desk τ}
  {answer : Answer SolvedModel}

theorem answerOf_satisfiable {decision : Decision}
    (answered : BoundedEngine.answerOf site subject method enc decision = .ok answer)
    (satisfiable : answer.satisfiable = true) :
    ∃ values, decision = .satisfiable values ∧
      answer.model = some (BoundedEngine.modelOf site subject method enc values) := by
  cases decision with
  | unsatisfiable =>
    cases answered
    cases satisfiable
  | satisfiable values =>
    cases answered
    exact ⟨values, rfl, rfl⟩
  | unknown reason => cases answered

theorem analyze_answered (answered : (engine.analyze configuration).ends desk = (.ok answer, final)) :
    ∃ (q : Inquiry engine configuration desk) (enc : Encoding),
      Encoding.ofMethod q.subject q.method q.dependencies q.scopes.bits = .ok enc ∧
        BoundedEngine.answerOf q.site q.subject q.method enc (engine.solver enc) = .ok answer := by
  obtain ⟨site, _, located, answered⟩ := ends_bind_eq_ok.mp answered
  obtain ⟨found, rfl⟩ := Prod.mk.inj ((ends_check _ _).symm.trans located)
  obtain ⟨_, _, got, answered⟩ := ends_bind_eq_ok.mp answered
  cases got
  obtain ⟨model, _, loaded, answered⟩ := ends_bind_eq_ok.mp answered
  obtain ⟨modelled, rfl⟩ := Prod.mk.inj ((ends_check _ _).symm.trans loaded)
  cases model with
  | none => cases answered
  | some subject =>
    simp only at answered
    cases named : subject.method? site.methodName with
    | none =>
      rw [named] at answered
      cases answered
    | some method =>
      rw [named] at answered
      obtain ⟨dependencies, later, related, answered⟩ := ends_bind_eq_ok.mp answered
      obtain ⟨scopes, _, ranged, answered⟩ := ends_bind_eq_ok.mp answered
      obtain ⟨scopes_eq, rfl⟩ := Prod.mk.inj ((ends_check _ _).symm.trans ranged)
      obtain ⟨_, _, -, answered⟩ := ends_bind_eq_ok.mp answered
      obtain ⟨_, _, limited, answered⟩ := ends_bind_eq_ok.mp answered
      obtain ⟨timed, rfl⟩ := Prod.mk.inj ((ends_check _ _).symm.trans limited)
      obtain ⟨enc, _, encoded, answered⟩ := ends_bind_eq_ok.mp answered
      obtain ⟨made, rfl⟩ := Prod.mk.inj ((ends_check _ _).symm.trans encoded)
      obtain ⟨decided, rfl⟩ := Prod.mk.inj ((ends_check _ _).symm.trans answered)
      exact ⟨⟨site, subject, method, dependencies, later, scopes, found, modelled, named, related,
        mapError_eq_ok.mp scopes_eq, timed⟩, enc, mapError_eq_ok.mp made, decided⟩

theorem analyze_satisfiable (answered : (engine.analyze configuration).ends desk = (.ok answer, final))
    (satisfiable : answer.satisfiable = true) :
    ∃ (q : Inquiry engine configuration desk) (enc : Encoding) (values : List (String × Value)),
      Encoding.ofMethod q.subject q.method q.dependencies q.scopes.bits = .ok enc ∧
        engine.solver enc = .satisfiable values ∧
        answer.model = some (BoundedEngine.modelOf q.site q.subject q.method enc values) := by
  obtain ⟨q, enc, encoded, decided⟩ := analyze_answered answered
  obtain ⟨values, solved, shown⟩ := answerOf_satisfiable decided satisfiable
  exact ⟨q, enc, values, encoded, solved, shown⟩

structure Exhibits (m : SolvedModel) (subject : ClassModel) (method : MethodModel) (dependencies : List ClassModel)
    (values : List (String × Value)) (context : Context) : Prop where
  ends : ∃ s t, m.snapshot context m.className m.methodId = .ok s ∧ s.trace = .ok t
  faithful_iff : m.Faithful subject method dependencies context values ↔ Legible subject method dependencies context
  legible_iff : (∀ f ∈ subject.staticFields, '.' ∉ f.1.toList) →
    (Legible subject method dependencies context ↔ "thiz" ∉ method.params.map (·.1) ∧
      (context.contains subject.className = true → "thiz" ∉ subject.staticFields.map (·.1)))

/-- A counterexample can always be shown. It shows the whole pre-state under its own names if and only if these are
legible, which is to say for field names without a dot that nothing shown is called like the receiver's key. -/
theorem counterexample_faithful_iff_legible (binds : engine.solver.Binds)
    (answered : (engine.analyze configuration).ends desk = (.ok answer, final))
    (satisfiable : answer.satisfiable = true) :
    ∃ (q : Inquiry engine configuration desk) (enc : Encoding) (values : List (String × Value)) (m : SolvedModel),
      Encoding.ofMethod q.subject q.method q.dependencies q.scopes.bits = .ok enc ∧
        engine.solver enc = .satisfiable values ∧ answer.model = some m ∧
        ∀ context, Exhibits m q.subject q.method q.dependencies values context := by
  obtain ⟨q, enc, values, encoded, solved, shown⟩ := analyze_satisfiable answered satisfiable
  obtain ⟨e⟩ := ofMethod_ok encoded
  have b := binds enc values solved
  refine ⟨q, enc, values, _, encoded, solved, shown, fun context => ⟨?_, ⟨?_, ?_⟩, e.declares.apart.legible_iff⟩⟩
  · obtain ⟨t, traced, -⟩ := trace_names (putAll [] (siteEntries q.subject q.method q.dependencies context values))
    exact ⟨_, t, snapshot_own e b _ rfl, traced⟩
  · exact legible_of_faithful e b _ rfl
  · exact fun legible => legible.faithful e b _ rfl

theorem Inquiry.unique (q r : Inquiry engine configuration desk) : q = r := by
  obtain ⟨site, subject, method, dependencies, loaded, scopes, located, modelled, named, related, scopes_eq, _⟩ := q
  obtain ⟨site', subject', method', dependencies', loaded', scopes', located', modelled', named', related', scopes_eq',
    _⟩ := r
  obtain rfl : site = site' := Except.ok.inj (located.symm.trans located')
  obtain rfl : subject = subject' := Option.some.inj (Except.ok.inj (modelled.symm.trans modelled'))
  obtain rfl : method = method' := Option.some.inj (named.symm.trans named')
  obtain ⟨same, rfl⟩ := Prod.mk.inj (related.symm.trans related')
  obtain rfl : dependencies = dependencies' := Except.ok.inj same
  obtain rfl : scopes = scopes' := Except.ok.inj (scopes_eq.symm.trans scopes_eq')
  rfl

instance : Decidable (Legible subject method dependencies context) :=
  decidable_of_iff (_ ∧ _) ⟨fun h => ⟨h.1, h.2⟩, fun h => ⟨h.unreserved, h.distinct⟩⟩

theorem counter_shown :
    ∃ (q : Inquiry {} counterConfiguration counterDesk) (answer : Answer SolvedModel) (final : Desk Unit)
      (values : List (String × Value)) (m : SolvedModel),
      (({} : BoundedEngine).analyze counterConfiguration).ends counterDesk = (.ok answer, final) ∧
        answer.satisfiable = true ∧ answer.model = some m ∧
        m.Faithful q.subject q.method q.dependencies (.classes ["Limits"]) values := by
  have ran : ((({} : BoundedEngine).analyze counterConfiguration).ends counterDesk).1.toOption.any
        (·.satisfiable) = true ∧
      (inquiry? {} counterConfiguration counterDesk).any (fun q =>
        decide (Legible q.subject q.method q.dependencies (.classes ["Limits"]))) = true := by
    decide +kernel
  obtain ⟨answer, answers, satisfiable⟩ := (Option.any_eq_true _ _).mp ran.1
  obtain ⟨r, -, legible⟩ := (Option.any_eq_true _ _).mp ran.2
  have ended : (({} : BoundedEngine).analyze counterConfiguration).ends counterDesk = (.ok answer, _) :=
    Prod.ext (toOption_eq_some.mp answers) rfl
  obtain ⟨q, enc, values, m, -, -, shown, exhibits⟩ :=
    counterexample_faithful_iff_legible Solver.exhaustive_binds ended satisfiable
  rw [← q.unique r] at legible
  refine ⟨q, answer, _, values, m, ended, satisfiable, shown, ?_⟩
  exact (exhibits _).faithful_iff.mpr (of_decide_eq_true legible)

def tankDesk : Desk Unit where
  files := ⟨[
    (["src"], .directory),
    (["src", "Tank.model.yaml"], .file ("fields: {level: int}\n" ++
      "methods: {fill: {params: {thiz: int}, requires: level == 1 and thiz == 2, ensures: level > thiz}}"))]⟩
  rest := ()

def tankConfiguration : Mapping := [
  (.str Configuration.classKey, .str "Tank"),
  (.str Configuration.relevantKey, .str "Tank"),
  (.str Configuration.methodKey, .str "fill_0"),
  (.str Configuration.rootKey, .str "src")]

theorem parameter_replaces_receiver :
    ∃ (answer : Answer SolvedModel) (final : Desk Unit) (m : SolvedModel) (s : Snapshot),
      (({} : BoundedEngine).analyze tankConfiguration).ends tankDesk = (.ok answer, final) ∧
        answer.satisfiable = true ∧ answer.model = some m ∧ m.isStatic = false ∧ m.receiverFields = ["level"] ∧
        m.params = ["thiz"] ∧ m.snapshot (.classes []) m.className m.methodId = .ok s ∧ s.entries.length = 1 ∧
        s.trace = .ok ⟨[("this", "2")]⟩ := by
  have ran : ((({} : BoundedEngine).analyze tankConfiguration).ends tankDesk).1.toOption.any (fun answer =>
      answer.satisfiable && answer.model.any fun m => !m.isStatic && decide (m.receiverFields = ["level"]) &&
        decide (m.params = ["thiz"]) && (m.snapshot (.classes []) m.className m.methodId).toOption.any fun s =>
          s.entries.length == 1 && decide (s.trace.toOption = some ⟨[("this", "2")]⟩)) = true := by
    decide +kernel
  obtain ⟨answer, answers, checked⟩ := (Option.any_eq_true _ _).mp ran
  simp only [Bool.and_eq_true, Option.any_eq_true, Bool.not_eq_true', decide_eq_true_eq, beq_iff_eq,
    toOption_eq_some] at checked
  obtain ⟨satisfiable, m, shown, ⟨⟨⟨isStatic, fields⟩, params⟩, s, made, one, traced⟩⟩ := checked
  exact ⟨answer, _, m, s, Prod.ext (toOption_eq_some.mp answers) rfl, satisfiable, shown, isStatic, fields, params,
    made, one, traced⟩

end Covenant
