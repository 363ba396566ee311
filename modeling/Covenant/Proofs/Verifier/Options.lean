import Covenant.Proofs.Engine.Relevant
import Covenant.Proofs.Text.Pieces
import Covenant.Proofs.Verifier.Chains
import Covenant.Proofs.Verifier.Sessions
import Covenant.Proofs.Verifier.Site

namespace Covenant

variable {τ μ : Type}

/-! ## Lists of classes -/

def namesIn (pieces : List String) : List String :=
  (pieces.filter fun piece => !Text.allBlank piece).map Text.trim

theorem namesIn_append (first second : List String) : namesIn (first ++ second) = namesIn first ++ namesIn second := by
  rw [namesIn, List.filter_append, List.map_append, namesIn, namesIn]

theorem splitClasses_eq {text : String} {pieces : List String} (made : Text.MadeOf ',' text pieces) :
    splitClasses text = namesIn pieces := by
  have kept (piece : String) : (Text.trim piece != "") = !Text.allBlank piece := by
    rw [Bool.eq_iff_iff, bne_iff_ne, Bool.not_eq_true', Bool.eq_false_iff, Ne, Text.trim_eq_empty]
  rw [splitClasses, made.splitText_eq, List.filter_map, namesIn]
  simp only [Function.comp_def, kept]

theorem flatMap_splitClasses {texts : List String} {pieces : List (List String)}
    (made : List.Forall₂ (Text.MadeOf ',') texts pieces) : texts.flatMap splitClasses = namesIn pieces.flatten := by
  induction made with
  | nil => rfl
  | cons first _ ih => rw [List.flatMap_cons, splitClasses_eq first, ih, List.flatten_cons, namesIn_append]

def Listable (name : String) : Prop := name ≠ "" ∧ ',' ∉ name.toList

theorem listable_of_mem_splitClasses {text name : String} (member : name ∈ splitClasses text) : Listable name := by
  rw [splitClasses, List.mem_filter, List.mem_map] at member
  obtain ⟨⟨piece, cut, rfl⟩, kept⟩ := member
  exact ⟨bne_iff_ne.mp kept, fun comma =>
    (Text.madeOf_splitText ',' text).free piece cut (Text.mem_of_mem_trim comma)⟩

theorem madeOf_joined {names : List String} (some_name : names ≠ []) (listable : ∀ name ∈ names, Listable name) :
    Text.MadeOf ',' (Text.joined "," names) names :=
  ⟨some_name, fun name member => (listable name member).2, rfl⟩

theorem splitRelevant_joined {names : List String} (some_name : names ≠ [])
    (listable : ∀ name ∈ names, Listable name) : Site.splitRelevant (Text.joined "," names) = names := by
  rw [Site.splitRelevant, (madeOf_joined some_name listable).splitText_eq, List.filter_eq_self]
  exact fun name member => bne_iff_ne.mpr (listable name member).1

theorem methodName_of_methodId {site : Site} {method : String} (asked : site.methodId = methodId method) :
    site.methodName = method := by
  have reversed : site.methodId.toList.reverse = siteSuffix.toList.reverse ++ method.toList.reverse := by
    rw [asked, methodId, String.toList_append, List.reverse_append]
  simp only [Site.methodName, reversed, Text.dropStart?_append, List.reverse_reverse, String.ofList_toList]

/-! ## What the verifier asks the engine -/

/-- The verifier asks its engine about nothing but the options of the request, and for snapshots in no context but that
of its dependencies: what another engine does elsewhere makes no difference. -/
def Verifier.AsksOnlyAbout (v : Verifier τ μ) (request : Request) : Prop :=
  ∀ e : Engine τ μ,
    (∀ s subject, e.analyze s (Configuration.build subject request) =
      v.engine.analyze s (Configuration.build subject request)) →
    (∀ m className methodId, e.snapshot m (.classes request.dependencies) className methodId =
      v.engine.snapshot m (.classes request.dependencies) className methodId) →
    ∀ b : Bench τ μ, b.session.request = request →
      ({ v with engine := e } : Verifier τ μ).verify.ends b = v.verify.ends b ∧
      ∀ className method, (({ v with engine := e } : Verifier τ μ).counterexample none className method).ends b =
        (v.counterexample none className method).ends b

theorem Verifier.asksOnlyAbout (v : Verifier τ μ) (request : Request) : v.AsksOnlyAbout request := by
  rintro e agrees shows b rfl
  constructor
  · by_cases running : b.session.state = .running
    · rw [verify_running _ running, verify_running _ running]
    · rw [verify_idle _ running, verify_idle _ running, attempt_congr shows fun s subject _ => agrees s subject]
  · intro className method
    simp only [counterexample, ends_bind, ends_get]
    cases state : b.session.state with
    | refuted => cases className <;> cases method <;> cases b.session.trace <;> simp [Engine.extract, shows]
    | _ => rfl

/-! ## The way of a request to the engine -/

theorem takes_texts {method name : String} {classes names : List String}
    (takes : Request.Takes (.str method) (.list (names.map .str)) name classes) : method = name ∧ names = classes := by
  have kept : Request.Takes (.str method) (.list (names.map .str)) method names :=
    ⟨takes.present, rfl, _, rfl, by simp [Value.asText?]⟩
  exact kept.unique takes

theorem BoundedEngine.className_mem_of_loaded {e : BoundedEngine} {root : Value} {seen names : List String}
    {desk last : Desk τ} {models : List ClassModel}
    (loaded : (e.loadDependencies root seen names).ends desk = (.ok models, last)) {m : ClassModel}
    (member : m ∈ models) : m.className ∈ names := by
  rcases e.loadDependencies_ends seen names desk with ⟨ms, final, ends, loads⟩ | ⟨f, final, ends, -⟩
  · cases ends.symm.trans loaded
    obtain ⟨name, named, -, found⟩ := (loads.mem_iff m).mp member
    rwa [(loadModel_ok found).1]
  · cases ends.symm.trans loaded

/-- A request created from the values of a command line, its configuration as the engine reads it, and what the verifier
asks the engine about it. -/
theorem options_keep_classes_and_method {subject : Subject} {needed : List String} {pieces : List (List String)}
    {method : String} {scope : Value} {desk final : Desk τ} {request : Request}
    (named : subject.className ≠ "") (whole : ',' ∉ subject.className.toList)
    (given : List.Forall₂ (Text.MadeOf ',') needed pieces)
    (created : (Request.create (some subject) (.str method) (.list ((needed.flatMap splitClasses).map .str)) scope).ends
      desk = (.ok request, final)) :
    request.method = method ∧ request.dependencies = subject.className :: namesIn pieces.flatten ∧
      (∀ asked : Subject, ∃ text site,
        (Configuration.build asked request).get? Configuration.relevantKey = some (.str text) ∧
        Text.MadeOf ',' text request.dependencies ∧
        Site.ofConfiguration (Configuration.build asked request) = .ok site ∧
        site.relevant = request.dependencies ∧ site.methodName = request.method ∧
        ∀ (e : BoundedEngine) (start last : Desk τ) (models : List ClassModel),
          (e.loadDependencies site.root [site.className] site.relevant).ends start = (.ok models, last) →
          ∀ m ∈ models, (Context.classes request.dependencies).contains m.className = true) ∧
      ∀ v : Verifier τ μ, v.AsksOnlyAbout request := by
  obtain ⟨checked, name, classes, bounds, validated, takes, -, rfl⟩ := Request.create_eq_ok.mp created
  obtain ⟨rfl, rfl⟩ := takes_texts takes
  have same : checked.className = subject.className := by rw [Subject.validate_ok validated]
  have listable : ∀ name ∈ checked.className :: needed.flatMap splitClasses, Listable name := by
    rw [List.forall_mem_cons, same]
    refine ⟨⟨named, whole⟩, fun name member => ?_⟩
    obtain ⟨text, -, cut⟩ := List.mem_flatMap.mp member
    exact listable_of_mem_splitClasses cut
  refine ⟨rfl, by rw [same, flatMap_splitClasses given], fun asked => ?_, fun v => v.asksOnlyAbout _⟩
  have relevant := splitRelevant_joined (List.cons_ne_nil _ _) listable
  refine ⟨_, _, (get?_build _ _).2.1, madeOf_joined (List.cons_ne_nil _ _) listable, ofConfiguration_build _ _,
    relevant, methodName_of_methodId rfl, fun e start last models loaded m member => ?_⟩
  rw [Context.contains, List.contains_iff_mem, ← relevant]
  exact BoundedEngine.className_mem_of_loaded loaded member

def ledger : Subject := { sourceRoot := "src", className := "bank.Ledger", check := .answer true }

theorem ledger_request_kept :
    ∃ (request : Request) (site : Site) (final : Desk Unit),
      (Request.create (some ledger) (.str "close_0")
        (.list (([" bank.Log ,, ", "bank.Rates,bank.Log"].flatMap splitClasses).map .str)) .null).ends { rest := () } =
          (.ok request, final) ∧
      Site.ofConfiguration (Configuration.build ledger request) = .ok site ∧ site.methodId = "close_0_0" ∧
      site.methodName = "close_0" ∧ site.relevant = ["bank.Ledger", "bank.Log", "bank.Rates", "bank.Log"] ∧
      ∀ v : Verifier Unit SolvedModel, v.AsksOnlyAbout request := by
  have given : List.Forall₂ (Text.MadeOf ',') [" bank.Log ,, ", "bank.Rates,bank.Log"]
      [[" bank.Log ", "", " "], ["bank.Rates", "bank.Log"]] :=
    .cons ⟨List.cons_ne_nil _ _, by decide, rfl⟩ (.cons ⟨List.cons_ne_nil _ _, by decide, rfl⟩ .nil)
  obtain ⟨request, final, created⟩ : ∃ (request : Request) (final : Desk Unit),
      (Request.create (some ledger) (.str "close_0")
        (.list (([" bank.Log ,, ", "bank.Rates,bank.Log"].flatMap splitClasses).map .str)) .null).ends { rest := () } =
          (.ok request, final) := ⟨_, _, rfl⟩
  obtain ⟨method, classes, reaches, asks⟩ := options_keep_classes_and_method (by decide) (by decide) given created
  obtain ⟨text, site, -, -, located, relevant, named, -⟩ := reaches ledger
  refine ⟨request, site, final, created, located, ?_, named.trans method, relevant.trans classes, asks⟩
  rw [(site_of_build located).2, method]
  rfl

end Covenant
