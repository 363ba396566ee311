import Covenant.Proofs.Engine.Snapshot
import Covenant.Proofs.Engine.Verdict
import Covenant.Proofs.Model.Dependencies

/-!
# Relevant classes

A configuration names further classes whose static state a method may speak of. Naming more of them, in any order and
any number of times, changes nothing about the method: either one of the new classes cannot be read or declared, or
every clause means what it meant and the contract can be broken if and only if it could be.
-/

namespace Covenant

/-! ## Loaded models -/

namespace ClassModel

theorem mem_keys_put {ds : Declarations} {name text key : String} :
    key ∈ (ds.put name text).map (·.1) ↔ key = name ∨ key ∈ ds.map (·.1) := by
  induction ds with
  | nil => simp [Declarations.put]
  | cons d rest ih =>
    obtain ⟨n, t⟩ := d
    unfold Declarations.put
    split
    · rename_i same
      simp [same]
    · rw [List.map_cons, List.mem_cons, ih, List.map_cons, List.mem_cons]
      exact or_left_comm

theorem nodup_keys_put {ds : Declarations} (distinct : (ds.map (·.1)).Nodup) (name text : String) :
    ((ds.put name text).map (·.1)).Nodup := by
  induction ds with
  | nil => simp [Declarations.put]
  | cons d rest ih =>
    obtain ⟨n, t⟩ := d
    rw [List.map_cons, List.nodup_cons] at distinct
    unfold Declarations.put
    split
    · rw [List.map_cons, List.nodup_cons]
      exact distinct
    · rename_i differs
      rw [List.map_cons, List.nodup_cons, mem_keys_put]
      refine ⟨?_, ih distinct.2⟩
      rintro (same | member)
      · exact differs same
      · exact distinct.1 member

theorem nodup_entryTexts {entries : Mapping} {ds : Declarations} (h : entryTexts entries = .ok ds) :
    (ds.map (·.1)).Nodup := by
  have start : (([] : Declarations).map (·.1)).Nodup := List.nodup_nil
  refine foldlM_keeps (P := fun ds : Declarations => (ds.map (·.1)).Nodup) ?_ start h
  rintro ds ⟨k, v⟩ next distinct made
  obtain ⟨key, -, made⟩ := bind_eq_ok.mp made
  obtain ⟨text, -, made⟩ := bind_eq_ok.mp made
  cases made
  exact nodup_keys_put distinct key text

theorem parse_ok {raw : Value} {name : String} {m : ClassModel} (h : parse raw name = .ok m) :
    m.className = name ∧ (m.staticFields.map (·.1)).Nodup := by
  unfold parse at h
  split at h
  case h_2 => cases h
  rename_i entries
  unfold parseEntries at h
  simp only at h
  split at h
  · obtain ⟨found, -, h⟩ := bind_eq_ok.mp h
    obtain ⟨_, impossible, -⟩ := bind_eq_ok.mp h
    cases impossible
  · obtain ⟨fields, -, h⟩ := bind_eq_ok.mp h
    obtain ⟨staticFields, declared, h⟩ := bind_eq_ok.mp h
    split at h
    · cases h
    · obtain ⟨methods, -, made⟩ := bind_eq_ok.mp h
      cases made
      refine ⟨rfl, ?_⟩
      unfold declarations at declared
      split at declared
      · cases declared
        exact List.nodup_nil
      · exact nodup_entryTexts declared
      · cases declared

theorem load_ok {files : FileTree} {root name suffix : String} {m : ClassModel}
    (h : load files root name suffix = .ok (some m)) : m.className = name ∧ (m.staticFields.map (·.1)).Nodup := by
  obtain ⟨present, -, h⟩ := bind_eq_ok.mp h
  split at h
  · obtain ⟨text, -, h⟩ := bind_eq_ok.mp h
    obtain ⟨raw, -, h⟩ := bind_eq_ok.mp h
    obtain ⟨model, parsed, made⟩ := bind_eq_ok.mp h
    cases made
    exact parse_ok (mapError_eq_ok.mp parsed)
  · cases h

theorem load_error {files : FileTree} {root name suffix : String} {f : Fault}
    (h : load files root name suffix = .error f) :
    files.isFile (classFile root name suffix).text = .ok true ∨
      files.isFile (classFile root name suffix).text = .error f := by
  rcases bind_eq_error.mp h with failed | ⟨present, found, h⟩
  · exact .inr failed
  · cases present with
    | true => exact .inl found
    | false => cases h

end ClassModel

namespace BoundedEngine

variable {τ : Type} {e : BoundedEngine} {root : Value}

theorem loadModel_ok {files : FileTree} {name : String} {m : ClassModel}
    (h : e.loadModel files root name = .ok (some m)) : m.className = name ∧ (m.staticFields.map (·.1)).Nodup := by
  unfold loadModel at h
  split at h
  · exact ClassModel.load_ok h
  · cases h

structure Loads (e : BoundedEngine) (files : FileTree) (root : Value) (seen names : List String)
    (ms : List ClassModel) : Prop where
  read : ∀ name ∈ names, name ∉ seen → ∃ m?, e.loadModel files root name = .ok m?
  mem_iff : ∀ m, m ∈ ms ↔ ∃ name ∈ names, name ∉ seen ∧ e.loadModel files root name = .ok (some m)
  distinct : (ms.map (·.className)).Nodup

namespace Loads

variable {files : FileTree} {seen rest : List String} {ms : List ClassModel} {name : String}

theorem of_seen (known : name ∈ seen) (h : e.Loads files root seen rest ms) :
    e.Loads files root seen (name :: rest) ms where
  read other member new := by
    rcases List.mem_cons.mp member with rfl | member
    · exact absurd known new
    · exact h.read other member new
  mem_iff m := by
    rw [h.mem_iff]
    constructor
    · rintro ⟨other, member, new, loaded⟩
      exact ⟨other, List.mem_cons_of_mem _ member, new, loaded⟩
    · rintro ⟨other, member, new, loaded⟩
      rcases List.mem_cons.mp member with rfl | member
      · exact absurd known new
      · exact ⟨other, member, new, loaded⟩
  distinct := h.distinct

theorem of_new {m? : Option ClassModel} (new : name ∉ seen) (loaded : e.loadModel files root name = .ok m?)
    (h : e.Loads files root (name :: seen) rest ms) : e.Loads files root seen (name :: rest) (m?.toList ++ ms) where
  read other member unseen := by
    by_cases same : other = name
    · exact ⟨m?, same ▸ loaded⟩
    · exact h.read other ((List.mem_cons.mp member).resolve_left same) (List.not_mem_cons_of_ne_of_not_mem same unseen)
  mem_iff m := by
    rw [List.mem_append, Option.mem_toList, h.mem_iff]
    constructor
    · rintro (own | ⟨other, member, unseen, found⟩)
      · exact ⟨name, List.mem_cons_self, new, own ▸ loaded⟩
      · exact ⟨other, List.mem_cons_of_mem _ member, fun known => unseen (List.mem_cons_of_mem _ known), found⟩
    · rintro ⟨other, member, unseen, found⟩
      by_cases same : other = name
      · rw [same, loaded] at found
        exact .inl (Except.ok.inj found)
      · refine .inr ⟨other, (List.mem_cons.mp member).resolve_left same, ?_, found⟩
        exact List.not_mem_cons_of_ne_of_not_mem same unseen
  distinct := by
    cases m? with
    | none => exact h.distinct
    | some m =>
      rw [Option.toList_some, List.singleton_append, List.map_cons, List.nodup_cons]
      refine ⟨fun member => ?_, h.distinct⟩
      obtain ⟨n, among, same⟩ := List.mem_map.mp member
      obtain ⟨other, -, unseen, found⟩ := (h.mem_iff n).mp among
      rw [(loadModel_ok found).1, (loadModel_ok loaded).1] at same
      exact unseen (same ▸ List.mem_cons_self)

end Loads

theorem name_of_tail {P : String → Prop} {seen rest : List String} {name : String}
    (h : ∃ other ∈ rest, other ∉ name :: seen ∧ P other) : ∃ other ∈ name :: rest, other ∉ seen ∧ P other := by
  obtain ⟨other, member, unseen, found⟩ := h
  exact ⟨other, List.mem_cons_of_mem _ member, fun known => unseen (List.mem_cons_of_mem _ known), found⟩

theorem loadDependencies_ends (seen names : List String) (desk : Desk τ) :
    (∃ ms last, (e.loadDependencies root seen names).ends desk = (.ok ms, last) ∧
        e.Loads desk.files root seen names ms) ∨
      ∃ f last, (e.loadDependencies root seen names).ends desk = (.error f, last) ∧
        ∃ name ∈ names, name ∉ seen ∧ e.loadModel desk.files root name = .error f := by
  induction names generalizing seen desk with
  | nil => exact .inl ⟨[], desk, rfl, nofun, by simp, List.nodup_nil⟩
  | cons name rest ih =>
    rw [loadDependencies]
    by_cases known : name ∈ seen
    · rw [if_pos (List.contains_iff_mem.mpr known)]
      rcases ih seen desk with ⟨ms, last, ends, loads⟩ | ⟨f, last, ends, other, member, failed⟩
      · exact .inl ⟨ms, last, ends, loads.of_seen known⟩
      · exact .inr ⟨f, last, ends, other, List.mem_cons_of_mem _ member, failed⟩
    · rw [if_neg fun contained => known (List.contains_iff_mem.mp contained), ends_bind_ok (ends_get _)]
      cases loaded : e.loadModel desk.files root name with
      | error f => exact .inr ⟨f, desk, ends_bind_error (ends_check _ _), name, List.mem_cons_self, known, loaded⟩
      | ok m? =>
        rw [ends_bind_ok (ends_check _ _)]
        cases m? with
        | none =>
          simp only
          rw [ends_bind_ok (ends_say _ _ _)]
          rcases ih (name :: seen) { desk with log := _ } with ⟨ms, last, ends, loads⟩ | ⟨f, last, ends, failed⟩
          · exact .inl ⟨ms, last, ends, loads.of_new known loaded⟩
          · exact .inr ⟨f, last, ends, name_of_tail failed⟩
        | some m =>
          simp only
          rcases ih (name :: seen) desk with ⟨ms, last, ends, loads⟩ | ⟨f, last, ends, failed⟩
          · exact .inl ⟨m :: ms, last, ends_bind_ok ends, loads.of_new known loaded⟩
          · exact .inr ⟨f, last, ends_bind_error ends, name_of_tail failed⟩

theorem Loads.separate {files : FileTree} {seen names : List String} {ms : List ClassModel}
    (h : e.Loads files root seen names ms)
    (apart : ∀ a ∈ names, ∀ b ∈ names, ∀ m n, e.loadModel files root a = .ok (some m) →
      e.loadModel files root b = .ok (some n) → m.simpleName = n.simpleName → a = b) : Separate ms where
  simpleNames := by
    refine List.Nodup.map_on ?_ (h.distinct.of_map _)
    intro m first n second same
    obtain ⟨a, named, -, loaded⟩ := (h.mem_iff m).mp first
    obtain ⟨b, named', -, loaded'⟩ := (h.mem_iff n).mp second
    obtain rfl := apart a named b named' m n loaded loaded' same
    exact Option.some.inj (Except.ok.inj (loaded.symm.trans loaded'))
  fields m member := by
    obtain ⟨a, -, -, loaded⟩ := (h.mem_iff m).mp member
    exact (loadModel_ok loaded).2

theorem loadModel_error {files : FileTree} {name : String} {m : ClassModel} {subject : String} {f : Fault}
    (modelled : e.loadModel files root subject = .ok (some m)) (h : e.loadModel files root name = .error f) :
    ∃ sourceRoot suffix, root = .str sourceRoot ∧ e.modelSuffix = .str suffix ∧
      (files.isFile (classFile sourceRoot name suffix).text = .ok true ∨
        files.isFile (classFile sourceRoot name suffix).text = .error f) := by
  unfold loadModel at modelled h
  split at h
  · rename_i sourceRoot suffix suffix_eq
    exact ⟨sourceRoot, suffix, rfl, suffix_eq, ClassModel.load_error h⟩
  · rename_i other
    split at modelled
    · rename_i sourceRoot suffix suffix_eq
      exact absurd suffix_eq (other sourceRoot suffix rfl)
    · cases modelled

end BoundedEngine

/-! ## Two lists of relevant classes -/

variable {τ : Type} {e : BoundedEngine} {configuration : Mapping} {desk : Desk τ} {enc : Encoding}

/-- What stands in the way of a further class. Its model file is there and cannot be read, no file can have the name of
its model file, or its static state cannot be declared. -/
inductive Inquiry.Blocks (q : Inquiry e configuration desk) (name : String) : Fault → Prop
  | malformed {sourceRoot suffix : String} {f : Fault} (root : q.site.root = .str sourceRoot)
      (suffix_eq : e.modelSuffix = .str suffix)
      (present : desk.files.isFile (classFile sourceRoot name suffix).text = .ok true)
      (unreadable : e.loadModel desk.files q.site.root name = .error f) : Blocks q name f
  | overlong {sourceRoot suffix : String} {f : Fault} (root : q.site.root = .str sourceRoot)
      (suffix_eq : e.modelSuffix = .str suffix)
      (refused : desk.files.isFile (classFile sourceRoot name suffix).text = .error f) : Blocks q name f
  | obstructs {m : ClassModel} {err : EncodingError} (modelled : e.loadModel desk.files q.site.root name = .ok (some m))
      (obstructs : Obstructs q.subject q.method q.scopes.bits m err) : Blocks q name (.ofEncoding err)

/-- The decision is what there is to find out, unless the solver gives up. -/
def Decision.Right (enc : Encoding) : Decision → Prop
  | .unsatisfiable => ¬ enc.Satisfiable
  | .satisfiable _ => enc.Satisfiable
  | .unknown _ => True

theorem Decision.Exact.right {decision : Decision} (h : decision.Exact enc) : decision.Right enc := by
  cases decision with
  | unsatisfiable => exact fun ⟨i, all⟩ => h i all
  | satisfiable values =>
    obtain ⟨-, ⟨i, assigned⟩, solves⟩ := h
    exact ⟨i, solves i assigned⟩
  | unknown reason => trivial

theorem Decision.Right.answer {decision : Decision} (right : decision.Right enc) {site : Site} {subject : ClassModel}
    {method : MethodModel} {answer : Answer SolvedModel}
    (answers : BoundedEngine.answerOf site subject method enc decision = .ok answer) :
    answer.satisfiable = true ↔ enc.Satisfiable := by
  cases decision with
  | unsatisfiable =>
    cases answers
    exact iff_of_false Bool.false_ne_true right
  | satisfiable values =>
    cases answers
    exact iff_of_true rfl right
  | unknown reason => cases answers

def SameVerdict (e : BoundedEngine) (configuration configuration' : Mapping) (desk : Desk τ) (enc enc' : Encoding) :
    Prop :=
  ∀ answer answer' last last', (e.analyze configuration).ends desk = (.ok answer, last) →
    (e.analyze configuration').ends desk = (.ok answer', last') → (e.solver enc).Right enc →
    (e.solver enc').Right enc' → answer.satisfiable = answer'.satisfiable

theorem Inquiry.satisfiable_iff (q : Inquiry e configuration desk)
    (encoded : Encoding.ofMethod q.subject q.method q.dependencies q.scopes.bits = .ok enc)
    (right : (e.solver enc).Right enc) {answer : Answer SolvedModel} {last : Desk τ}
    (analyzed : (e.analyze configuration).ends desk = (.ok answer, last)) :
    answer.satisfiable = true ↔ enc.Satisfiable := by
  obtain ⟨final, ends⟩ := q.analyze_ends
  rw [mapError_eq_ok.mpr encoded, ok_bind, analyzed, Prod.mk.injEq] at ends
  exact right.answer ends.1.symm

theorem Inquiry.loads (q : Inquiry e configuration desk) :
    e.Loads desk.files q.site.root [q.site.className] q.site.relevant q.dependencies := by
  rcases e.loadDependencies_ends [q.site.className] q.site.relevant desk with
    ⟨ms, last, related, loads⟩ | ⟨f, last, related, -⟩
  · cases q.related.symm.trans related
    exact loads
  · cases q.related.symm.trans related

theorem Inquiry.analyze_unloaded (q : Inquiry e configuration desk) {configuration' : Mapping} {relevant : List String}
    (located : Site.ofConfiguration configuration' = .ok { q.site with relevant := relevant })
    {f : Fault} {last : Desk τ}
    (failed : (e.loadDependencies q.site.root [q.site.className] relevant).ends desk = (.error f, last)) :
    (e.analyze configuration').ends desk = (.error f, last) := by
  have named : q.subject.method? (Site.methodName { q.site with relevant := relevant }) = some q.method := q.named
  rw [BoundedEngine.analyze, ends_bind_ok (run_check located _), ends_bind_ok (ends_get _),
    ends_bind_ok (run_check q.modelled _)]
  simp only [named]
  exact ends_bind_error failed

def Inquiry.relating (q : Inquiry e configuration desk) {configuration' : Mapping} {relevant : List String}
    (located : Site.ofConfiguration configuration' = .ok { q.site with relevant := relevant })
    (widths : configuration'.get Configuration.scopeKey = configuration.get Configuration.scopeKey)
    {ms : List ClassModel} {last : Desk τ}
    (related : (e.loadDependencies q.site.root [q.site.className] relevant).ends desk = (.ok ms, last)) :
    Inquiry e configuration' desk :=
  { q with
    site := { q.site with relevant := relevant }
    dependencies := ms
    loaded := last
    located := located
    related := related
    scopes_eq := widths ▸ q.scopes_eq }

/-- Naming further classes as relevant, in any order and any number of times, keeps the terms of all clauses and the
verdict, unless one of these classes blocks the analysis. -/
theorem verdict_kept_unless_further_class_blocks (q : Inquiry e configuration desk)
    (encoded : Encoding.ofMethod q.subject q.method q.dependencies q.scopes.bits = .ok enc)
    {configuration' : Mapping} {relevant : List String}
    (located : Site.ofConfiguration configuration' = .ok { q.site with relevant := relevant })
    (widths : configuration'.get Configuration.scopeKey = configuration.get Configuration.scopeKey)
    (covers : ∀ name ∈ q.site.relevant, name ∈ relevant)
    (apart : ∀ a ∈ relevant, ∀ b ∈ relevant, ∀ m n, e.loadModel desk.files q.site.root a = .ok (some m) →
      e.loadModel desk.files q.site.root b = .ok (some n) → m.simpleName = n.simpleName → a = b) :
    (∃ (q' : Inquiry e configuration' desk) (enc' : Encoding),
        Encoding.ofMethod q'.subject q'.method q'.dependencies q'.scopes.bits = .ok enc' ∧
        q'.subject = q.subject ∧ q'.method = q.method ∧
        Encoding.Alike q.subject q.method q.dependencies q'.dependencies enc enc' ∧
        SameVerdict e configuration configuration' desk enc enc') ∨
      ∃ f last, (e.analyze configuration').ends desk = (.error f, last) ∧
        ∃ name ∈ relevant, name ∉ q.site.relevant ∧ name ≠ q.site.className ∧ q.Blocks name f := by
  rcases e.loadDependencies_ends [q.site.className] relevant desk with
    ⟨ms, loaded, related, loads⟩ | ⟨f, last, failed, name, named, new, unreadable⟩
  · let q' := q.relating located widths related
    have covered : ∀ m ∈ q.dependencies, m ∈ ms := by
      intro m member
      obtain ⟨name, named, new, found⟩ := (q.loads.mem_iff m).mp member
      exact (loads.mem_iff m).mpr ⟨name, covers name named, new, found⟩
    rcases ofMethod_or_obstructs encoded covered (loads.separate apart) with
      ⟨enc', encoded', alike⟩ | ⟨err, failed, m, related', further, obstructs⟩
    · refine .inl ⟨q', enc', encoded', rfl, rfl, alike, ?_⟩
      intro answer answer' last last' analyzed analyzed' right right'
      have verdict := q.satisfiable_iff encoded right analyzed
      have verdict' := q'.satisfiable_iff encoded' right' analyzed'
      rw [Bool.eq_iff_iff, verdict, verdict', alike.satisfiable]
    · obtain ⟨final, ends⟩ := q'.analyze_ends
      have failed' : Encoding.ofMethod q'.subject q'.method q'.dependencies q'.scopes.bits = .error err := failed
      rw [failed'] at ends
      obtain ⟨name, named, new, found⟩ := (loads.mem_iff m).mp related'
      refine .inr ⟨_, final, ends, name, named, fun before => further ?_, ?_, .obstructs found obstructs⟩
      · exact (q.loads.mem_iff m).mpr ⟨name, before, new, found⟩
      · exact fun same => new (same ▸ List.mem_singleton_self _)
  · refine .inr ⟨f, last, q.analyze_unloaded located failed, name, named, fun before => ?_, ?_, ?_⟩
    · obtain ⟨m?, read⟩ := q.loads.read name before new
      cases read.symm.trans unreadable
    · exact fun same => new (same ▸ List.mem_singleton_self _)
    · obtain ⟨sourceRoot, suffix, root, suffix_eq, present | refused⟩ :=
        BoundedEngine.loadModel_error q.modelled unreadable
      · exact .malformed root suffix_eq present unreadable
      · exact .overlong root suffix_eq refused

def openGateDesk : Desk Unit where
  files := ⟨[
    (["src"], .directory),
    (["src", "Gate.model.yaml"],
      .file "static_fields: {open: bool}\nmethods: {shut: {static: always, ensures: not Gate.open}}"),
    (["src", "Limits.model.yaml"], .file "static_fields: {top: int}")]⟩
  rest := ()

def openGateConfiguration (relevant scope : String) : Mapping := [
  (.str Configuration.classKey, .str "Gate"),
  (.str Configuration.relevantKey, .str relevant),
  (.str Configuration.methodKey, .str "shut_0"),
  (.str Configuration.rootKey, .str "src"),
  (.str Configuration.scopeKey, .str scope)]

theorem scope_openGate (relevant scope : String) :
    (openGateConfiguration relevant scope).get Configuration.scopeKey = .str scope := by
  simp [openGateConfiguration, Mapping.get, Mapping.get?, Mapping.find?, Value.same_str, Configuration.classKey,
    Configuration.relevantKey, Configuration.methodKey, Configuration.rootKey, Configuration.scopeKey]

theorem site_openGate (relevant scope : String) :
    Site.ofConfiguration (openGateConfiguration relevant scope) =
      .ok ⟨.str "src", "Gate", "shut_0", Site.splitRelevant relevant⟩ := by
  have name : Text.replaceChar '/' '.' "Gate" = "Gate" := by decide
  simp [openGateConfiguration, Site.ofConfiguration, Site.required, Site.textOption, Site.methodOption, Mapping.get?,
    Mapping.find?, Value.same_str, Value.text, Configuration.classKey, Configuration.relevantKey,
    Configuration.methodKey, Configuration.rootKey, ok_bind, name]

theorem gate_verdict_kept :
    ∃ (q : Inquiry {} (openGateConfiguration "Gate" "int:4") openGateDesk) (enc enc' : Encoding)
      (q' : Inquiry {} (openGateConfiguration "Ghost,Limits,Gate,Limits" "int:4") openGateDesk),
      Encoding.ofMethod q.subject q.method q.dependencies q.scopes.bits = .ok enc ∧
      Encoding.ofMethod q'.subject q'.method q'.dependencies q'.scopes.bits = .ok enc' ∧
      Encoding.Alike q.subject q.method q.dependencies q'.dependencies enc enc' := by
  have ran : (inquiry? {} (openGateConfiguration "Gate" "int:4") openGateDesk).any (fun q =>
      (Encoding.ofMethod q.subject q.method q.dependencies q.scopes.bits).isOk &&
        ((({} : BoundedEngine).analyze (openGateConfiguration "Ghost,Limits,Gate,Limits" "int:4")).ends
          openGateDesk).1.isOk) = true := by decide +kernel
  obtain ⟨q, -, checked⟩ := (Option.any_eq_true _ _).mp ran
  obtain ⟨encodes, answers⟩ := (Bool.and_eq_true _ _).mp checked
  obtain ⟨enc, encoded⟩ := exists_of_isOk encodes
  obtain ⟨answer, answered⟩ := exists_of_isOk answers
  have site : q.site = ⟨.str "src", "Gate", "shut_0", ["Gate"]⟩ :=
    Except.ok.inj (q.located.symm.trans (site_openGate "Gate" "int:4"))
  have located : Site.ofConfiguration (openGateConfiguration "Ghost,Limits,Gate,Limits" "int:4") =
      .ok { q.site with relevant := ["Ghost", "Limits", "Gate", "Limits"] } := by
    rw [site_openGate, site]
    rfl
  have widths : (openGateConfiguration "Ghost,Limits,Gate,Limits" "int:4").get Configuration.scopeKey =
      (openGateConfiguration "Gate" "int:4").get Configuration.scopeKey := by
    rw [scope_openGate, scope_openGate]
  have covers : ∀ name ∈ q.site.relevant, name ∈ ["Ghost", "Limits", "Gate", "Limits"] := by
    rw [site]
    decide
  have names : ∀ a ∈ ["Ghost", "Limits", "Gate", "Limits"], ∀ b ∈ ["Ghost", "Limits", "Gate", "Limits"],
      Text.afterLastDot a = Text.afterLastDot b → a = b := by decide
  have apart : ∀ a ∈ ["Ghost", "Limits", "Gate", "Limits"], ∀ b ∈ ["Ghost", "Limits", "Gate", "Limits"], ∀ m n,
      ({} : BoundedEngine).loadModel openGateDesk.files q.site.root a = .ok (some m) →
      ({} : BoundedEngine).loadModel openGateDesk.files q.site.root b = .ok (some n) →
      m.simpleName = n.simpleName → a = b := by
    intro a first b second m n loaded loaded' same
    apply names a first b second
    rw [← (BoundedEngine.loadModel_ok loaded).1, ← (BoundedEngine.loadModel_ok loaded').1]
    exact same
  rcases verdict_kept_unless_further_class_blocks q encoded located widths covers apart with
    ⟨q', enc', encoded', -, -, alike, -⟩ | ⟨f, last, failed, -⟩
  · exact ⟨q, enc, enc', q', encoded, encoded', alike⟩
  · rw [failed] at answered
    cases answered

/-- The bounds of a wide scope cannot be written, which shows only when a class with a whole number is named. -/
theorem wide_scope_blocks_further_class :
    ((({} : BoundedEngine).analyze (openGateConfiguration "Gate" "int:20000")).ends openGateDesk).1.map
        (·.satisfiable) = .ok true ∧
      ((({} : BoundedEngine).analyze (openGateConfiguration "Gate,Limits" "int:20000")).ends openGateDesk).1.map
        (·.satisfiable) = .error .longNumber := by
  decide +kernel

end Covenant
