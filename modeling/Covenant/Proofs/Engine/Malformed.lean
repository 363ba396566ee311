import Covenant.Proofs.Engine.Doubt
import Covenant.Proofs.Engine.Relevant
import Covenant.Proofs.Model.Shape
import Covenant.Proofs.Verifier.Site

namespace Covenant

variable {τ : Type}

/-! ## Files -/

namespace ClassModel

variable {files : FileTree} {root className suffix text : String}

theorem load_eq (present : files.isFile (classFile root className suffix).text = .ok true)
    (read : files.read (classFile root className suffix).text = .ok text) :
    load files root className suffix = (do
      let raw ← (Yaml.load (classFile root className suffix).text text).mapError
        (unreadable (classFile root className suffix).text)
      return some (← (parse raw className).mapError .ofModel)) := by
  simp only [load, present, read, ok_bind, if_true]

theorem load_document_fault (present : files.isFile (classFile root className suffix).text = .ok true)
    (read : files.read (classFile root className suffix).text = .ok text) {f : Fault}
    (failed : Yaml.load (classFile root className suffix).text text = .error f) :
    load files root className suffix = .error (unreadable (classFile root className suffix).text f) := by
  rw [load_eq present read, failed]
  rfl

theorem unreadable_kind {path : String} {f : Fault} (kind : f.kind = .markup) :
    (unreadable path f).kind = .semantic := by
  rw [unreadable, kind]

theorem unreadable_other {path : String} {f : Fault} (kind : f.kind ≠ .markup) : unreadable path f = f := by
  unfold unreadable
  split
  · contradiction
  · rfl

theorem onlySemantic_load (present : files.isFile (classFile root className suffix).text = .ok true)
    (read : files.read (classFile root className suffix).text = .ok text)
    (document : ∀ f, Yaml.load (classFile root className suffix).text text = .error f → f.kind = .markup)
    (model : ∀ raw, Yaml.load (classFile root className suffix).text text = .ok raw →
      Writable (textValues raw) ∧ ¬ Misplaced raw className) :
    OnlySemantic (load files root className suffix) := by
  intro f failed
  cases loaded : Yaml.load (classFile root className suffix).text text with
  | error g =>
    rw [load_document_fault present read loaded] at failed
    cases failed
    exact unreadable_kind (document g loaded)
  | ok raw =>
    rw [load_eq present read, loaded] at failed
    rcases bind_eq_error.mp failed with impossible | ⟨_, ⟨⟩, failed⟩
    · cases impossible
    · rcases bind_eq_error.mp failed with failed | ⟨_, -, impossible⟩
      · exact (onlySemantic_parse_iff (model raw loaded).1).mpr (model raw loaded).2 f failed
      · cases impossible

end ClassModel

/-! ## The engine -/

section

variable {e : BoundedEngine} {configuration : Mapping} {desk : Desk τ} {site : Site}

structure BoundedEngine.ReadsModels (e : BoundedEngine) (site : Site) (files : FileTree) : Prop where
  subject : ∃ m, e.loadModel files site.root site.className = .ok (some m)
  dependencies : ∀ name ∈ site.relevant, ∃ m?, e.loadModel files site.root name = .ok m?

theorem BoundedEngine.loadModel_eq {suffix : String} (suffixed : e.modelSuffix = .str suffix) (files : FileTree)
    (root name : String) : e.loadModel files (.str root) name = ClassModel.load files root name suffix := by
  unfold loadModel
  rw [suffixed]

theorem BoundedEngine.analyze_unmodelled (located : Site.ofConfiguration configuration = .ok site) {f : Fault}
    (failed : e.loadModel desk.files site.root site.className = .error f) :
    (e.analyze configuration).ends desk = (.error f, desk) := by
  have loading : (Desk.check (e.loadModel desk.files site.root site.className)).ends desk = (.error f, desk) := by
    rw [failed, ends_check]
  rw [analyze, ends_bind_ok (run_check located _), ends_bind_ok (ends_get _), ends_bind_error loading]

theorem BoundedEngine.reads_or_doubts (located : Site.ofConfiguration configuration = .ok site)
    (contained : ∀ name ∈ site.className :: site.relevant, OnlySemantic (e.loadModel desk.files site.root name)) :
    e.ReadsModels site desk.files ∨
      ∃ f doubt final, (e.analyze configuration).ends desk = (.error f, final) ∧ f.kind.doubt? = some doubt := by
  have semantic {f : Fault} (kind : f.kind = .semantic) : f.kind.doubt? = some .semantic := by
    rw [kind]
    rfl
  cases modelled : e.loadModel desk.files site.root site.className with
  | error f =>
    have kind := contained site.className List.mem_cons_self f modelled
    exact .inr ⟨f, _, desk, analyze_unmodelled located modelled, semantic kind⟩
  | ok m? =>
    rw [analyze, ends_bind_ok (run_check located _), ends_bind_ok (ends_get _), ends_bind_ok (run_check modelled _)]
    cases m? with
    | none => exact .inr ⟨_, _, _, rfl, rfl⟩
    | some subject =>
      cases named : subject.method? site.methodName with
      | none =>
        simp only [named]
        exact .inr ⟨_, _, _, rfl, semantic rfl⟩
      | some method =>
        rcases e.loadDependencies_ends [site.className] site.relevant desk with
          ⟨ms, last, ends, loads⟩ | ⟨f, last, ends, name, member, -, failed⟩
        · -- the subject's own class is not read again as a dependency
          refine .inl ⟨⟨subject, modelled⟩, fun name member => ?_⟩
          by_cases own : name = site.className
          · exact ⟨some subject, own ▸ modelled⟩
          · exact loads.read name member (by simpa using own)
        · have kind := contained name (List.mem_cons_of_mem _ member) f failed
          simp only [named]
          exact .inr ⟨f, _, last, ends_bind_error ends, semantic kind⟩

end

/-! ## The verifier -/

theorem Verifier.verify_escapes {μ : Type} {v : Verifier τ μ} {b : Bench τ μ} (idle : b.session.state ≠ .running)
    {subject : Subject} {request : Request} {desk final : Desk τ}
    (checked : validSubject.ends (⟨.asking b.session.request, b.desk⟩ : Bench τ μ) =
      (.ok subject, ⟨.asking request, desk⟩)) {f : Fault}
    (interpreted : (v.engine.interpret (.asking request) (Configuration.build subject request)).ends
      (announced subject request desk) = (.error f, final)) : (v.verify.ends b).1 = .error f := by
  have attempted : v.attempt.ends ⟨.asking b.session.request, b.desk⟩ = (.error f, ⟨.asking request, final⟩) := by
    unfold attempt
    rw [ends_bind_ok checked, ends_bind_ok (ends_get _)]
    simp only
    rw [ends_bind_ok (ends_onDesk_ok (ends_announce _ _ _)), ends_bind_error (ends_onDesk_error interpreted)]
  rw [v.verify_idle idle, attempted]

/-- Which values are models, which files fail only as faults of the contract, and what a verifier makes of them. -/
theorem malformed_models_inconclusive (e : BoundedEngine) {suffix : String} (suffixed : e.modelSuffix = .str suffix) :
    (∀ (raw : Value) (className : String),
      ((∃ m, ClassModel.parse raw className = .ok m) ↔
        ClassModel.Shaped raw className ∧ ClassModel.Writable (ClassModel.textValues raw)) ∧
      (ClassModel.Writable (ClassModel.textValues raw) →
        (OnlySemantic ((ClassModel.parse raw className).mapError .ofModel) ↔ ¬ ClassModel.Misplaced raw className)) ∧
      (ClassModel.Shaped raw className → ¬ ClassModel.Writable (ClassModel.textValues raw) →
        ClassModel.parse raw className = .error .longNumber)) ∧
    (∀ (files : FileTree) (root className path text : String), path = (classFile root className suffix).text →
      files.isFile path = .ok true → files.read path = .ok text →
      ((∀ f, Yaml.load path text = .error f → f.kind = .markup) →
        (∀ raw, Yaml.load path text = .ok raw →
          ClassModel.Writable (ClassModel.textValues raw) ∧ ¬ ClassModel.Misplaced raw className) →
        OnlySemantic (ClassModel.load files root className suffix)) ∧
      ∀ f, Yaml.load path text = .error f → f.kind ≠ .markup →
        ClassModel.load files root className suffix = .error f) ∧
    ∀ (v : Verifier τ SolvedModel) (b : Bench τ SolvedModel) (subject : Subject) (request : Request) (desk : Desk τ)
      (site : Site), v.engine = e.engine → b.session.state ≠ .running →
      Verifier.validSubject.ends (⟨.asking b.session.request, b.desk⟩ : Bench τ SolvedModel) =
        (.ok subject, ⟨.asking request, desk⟩) →
      Site.ofConfiguration (Configuration.build subject request) = .ok site →
      ((∀ name ∈ site.className :: site.relevant,
          OnlySemantic (ClassModel.load desk.files subject.sourceRoot name suffix)) →
        e.ReadsModels site desk.files ∨ v.EndsInconclusive b) ∧
      ∀ f, ClassModel.load desk.files subject.sourceRoot site.className suffix = .error f → f.kind.doubt? = none →
        (v.verify.ends b).1 = .error f := by
  refine ⟨fun raw className => ⟨ClassModel.parse_ok_iff, ClassModel.onlySemantic_parse_iff, ClassModel.parse_long⟩,
    ?_, ?_⟩
  · rintro files root className _ text rfl present read
    refine ⟨ClassModel.onlySemantic_load present read, fun f failed other => ?_⟩
    rw [ClassModel.load_document_fault present read failed, ClassModel.unreadable_other other]
  · intro v b subject request desk site engine idle checked located
    have root : site.root = .str subject.sourceRoot := by
      cases (ofConfiguration_build subject request).symm.trans located
      rfl
    have loads (name : String) : e.loadModel (Verifier.announced subject request desk).files site.root name =
        ClassModel.load desk.files subject.sourceRoot name suffix := by
      rw [root]
      exact BoundedEngine.loadModel_eq suffixed desk.files subject.sourceRoot name
    constructor
    · intro contained
      have tame : ∀ name ∈ site.className :: site.relevant,
          OnlySemantic (e.loadModel (Verifier.announced subject request desk).files site.root name) := by
        intro name member
        rw [loads]
        exact contained name member
      rcases BoundedEngine.reads_or_doubts located tame with reads | ⟨f, doubt, final, analyzed, kind⟩
      · exact .inl reads
      · have interpreted := BoundedEngine.interpret_failed analyzed (.asking request)
        rw [kind, ← engine] at interpreted
        exact .inr (Verifier.endsInconclusive idle checked interpreted)
    · intro f failed kind
      rw [← loads] at failed
      have interpreted := BoundedEngine.interpret_failed (BoundedEngine.analyze_unmodelled located failed)
        (.asking request)
      rw [kind, ← engine] at interpreted
      exact Verifier.verify_escapes idle checked interpreted

/-! ## A dependency without declarations, and a list of methods -/

def faultKind? {α : Type} : Except Fault α → Option FaultKind
  | .ok _ => none
  | .error f => some f.kind

theorem onlySemantic_iff_faultKind? {α : Type} {x : Except Fault α} :
    OnlySemantic x ↔ faultKind? x = none ∨ faultKind? x = some .semantic := by
  cases x <;> simp [OnlySemantic, faultKind?]

def pumpDesk : Desk Unit where
  files := ⟨[
    (["src"], .directory),
    (["src", "Drain.model.yaml"], .file "methods: {shut: {}}"),
    (["src", "Pump.model.yaml"], .file "static_fields: [level]")]⟩
  rest := ()

def drain : Subject := { sourceRoot := "src", className := "Drain", valid := some true }

def drainRequest : Request := { subject := some drain, method := "shut", dependencies := ["Drain", "Pump"] }

theorem drain_inconclusive :
    let v : Verifier Unit SolvedModel := ⟨BoundedEngine.engine {}, []⟩
    faultKind? (ClassModel.load pumpDesk.files "src" "Drain" ClassModel.defaultSuffix) = none ∧
      faultKind? (ClassModel.load pumpDesk.files "src" "Pump" ClassModel.defaultSuffix) = some .semantic ∧
      v.EndsInconclusive ⟨{ request := drainRequest }, pumpDesk⟩ := by
  intro v
  have own : faultKind? (ClassModel.load pumpDesk.files "src" "Drain" ClassModel.defaultSuffix) = none := by
    decide +kernel
  have pump : faultKind? (ClassModel.load pumpDesk.files "src" "Pump" ClassModel.defaultSuffix) = some .semantic := by
    decide +kernel
  have contained : ∀ name ∈ ["Drain", "Drain", "Pump"],
      OnlySemantic (ClassModel.load pumpDesk.files "src" name ClassModel.defaultSuffix) := by
    simp only [List.forall_mem_cons, List.not_mem_nil, false_imp_iff, implies_true, onlySemantic_iff_faultKind?, own,
      pump, true_or, or_true, and_self]
  obtain ⟨-, -, verified⟩ := @malformed_models_inconclusive Unit {} _ rfl
  refine ⟨own, pump, ?_⟩
  rcases (verified v ⟨{ request := drainRequest }, pumpDesk⟩ drain drainRequest pumpDesk _ rfl nofun rfl
    (ofConfiguration_build drain drainRequest)).1 contained with reads | ends
  · obtain ⟨m?, read⟩ := reads.dependencies "Pump" (by decide)
    have loaded := (BoundedEngine.loadModel_eq (e := {}) rfl pumpDesk.files "src" "Pump").symm.trans read
    rw [loaded] at pump
    cases pump
  · exact ends

theorem listed_methods_escape :
    let raw := Value.map [(.str "methods", .list [.str "shut"])]
    faultKind? ((ClassModel.parse raw "Drain").mapError Fault.ofModel) = some .attribute ∧
      ¬ OnlySemantic ((ClassModel.parse raw "Drain").mapError Fault.ofModel) := by
  intro raw
  have kind : faultKind? ((ClassModel.parse raw "Drain").mapError Fault.ofModel) = some .attribute := by
    decide +kernel
  refine ⟨kind, fun contained => ?_⟩
  rw [onlySemantic_iff_faultKind?, kind] at contained
  rcases contained with impossible | impossible <;> cases impossible

end Covenant
