import Covenant.Proofs.Engine.Verdict
import Covenant.Proofs.Model.Posed
import Covenant.Proofs.Verifier.Escapes

namespace Covenant

theorem EncodingError.IsDoubt.kind {err : EncodingError} (h : err.IsDoubt) :
    ∃ doubt, (Fault.ofEncoding err).kind.doubt? = some doubt := by
  cases err with
  | clause place text e =>
    change ∃ doubt, (Fault.severityKind e.severity).doubt? = some doubt
    rcases h with unsupported | semantic
    · exact ⟨.unsupported, by rw [unsupported]; rfl⟩
    · exact ⟨.semantic, by rw [semantic]; rfl⟩
  | longNumber => exact h.elim
  | unknownType typeName => exact ⟨.unsupported, rfl⟩
  | _ => exact ⟨.semantic, rfl⟩

/-! ## The engine -/

section

variable {τ : Type} {e : BoundedEngine} {configuration : Mapping} {desk : Desk τ} {err : EncodingError}

theorem Inquiry.analyze_error (q : Inquiry e configuration desk)
    (failed : Encoding.ofMethod q.subject q.method q.dependencies q.scopes.bits = .error err) :
    ∃ final : Desk τ, (e.analyze configuration).ends desk = (.error (.ofEncoding err), final) := by
  obtain ⟨final, ends⟩ := q.analyze_ends
  refine ⟨final, ends.trans ?_⟩
  rw [failed]
  rfl

theorem BoundedEngine.interpret_failed {f : Fault} {final : Desk τ}
    (analyzed : (e.analyze configuration).ends desk = (.error f, final)) (s : Session SolvedModel) :
    (e.engine.interpret s configuration).ends desk =
      match f.kind.doubt? with
      | some doubt => (.ok (.inconclusive doubt f.message), final)
      | none => (.error f, final) := by
  have asked : e.engine.analyze s configuration = (e.analyze configuration : Run (Desk τ) (Answer SolvedModel)) := rfl
  rw [Engine.interpret, ends_tryCatch, ends_bind, asked, analyzed]
  simp only
  cases f.kind.doubt? <;> rfl

theorem Inquiry.interpret_doubt (q : Inquiry e configuration desk)
    (failed : Encoding.ofMethod q.subject q.method q.dependencies q.scopes.bits = .error err) (isDoubt : err.IsDoubt)
    (s : Session SolvedModel) :
    ∃ doubt final, (e.engine.interpret s configuration).ends desk =
      (.ok (.inconclusive doubt (Fault.ofEncoding err).message), final) := by
  obtain ⟨final, analyzed⟩ := q.analyze_error failed
  obtain ⟨doubt, kind⟩ := isDoubt.kind
  exact ⟨doubt, final, by rw [BoundedEngine.interpret_failed analyzed, kind]⟩

structure Inquiry.Troubled (q : Inquiry e configuration desk) : Prop where
  written : TextsWritten q.subject q.method
  proper : ∀ place context text, Poses q.subject q.method q.dependencies place context text → context.Proper text
  bad : ∃ place context text, Poses q.subject q.method q.dependencies place context text ∧
    ¬ place.HasTerm context text

theorem Inquiry.Troubled.failed {q : Inquiry e configuration desk} (h : q.Troubled) :
    ∃ err, Encoding.ofMethod q.subject q.method q.dependencies q.scopes.bits = .error err ∧ err.IsDoubt := by
  obtain ⟨place, context, text, posed, bad⟩ := h.bad
  refine (ofMethod_doubtOr h.written h.proper).resolve_right fun good => ?_
  exact bad (good place context text posed)

end

/-! ## The report -/

section

variable {τ μ : Type}

theorem Report.writeAll_error {text : String} {sinks : List (Sink τ)} {n last : Notes τ} {f : Fault}
    (h : (writeAll text sinks).ends n = (.error f, last)) :
    ∃ sink ∈ sinks, ∃ desk, ((sink.write text).ends desk).1 = .error f := by
  rcases tolerated_or_stops text sinks n.desk with tolerated | ⟨g, receipts, desk, stops⟩
  · rw [(writeAll_deliver tolerated).ends_eq] at h
    cases h
  · cases (writeAll_stops stops n.diagnostics).symm.trans h
    obtain ⟨-, sink, member, before, after, raised⟩ := stops.raised
    exact ⟨sink, member, before, by rw [raised]⟩

theorem Verifier.report_error {v : Verifier τ μ} {outcome : Outcome μ} {trace : Option Trace} {b last : Bench τ μ}
    {f : Fault} (h : (v.report outcome trace).ends b = (.error f, last)) :
    ∃ sink ∈ v.sinks, ∃ text desk, ((sink.write text).ends desk).1 = .error f := by
  simp only [report, ends_bind, ends_get] at h
  have ran : StateT.run (ExceptT.run (Report.emit v.sinks outcome trace)) ⟨outcome.diagnostics, b.desk⟩ =
      (Report.emit v.sinks outcome trace).ends ⟨outcome.diagnostics, b.desk⟩ := rfl
  rw [ran] at h
  cases emitted : (Report.emit v.sinks outcome trace).ends ⟨outcome.diagnostics, b.desk⟩ with
  | mk r notes =>
    rw [emitted] at h
    cases r with
    | ok _ => cases h
    | error g =>
      cases h
      obtain ⟨sink, member, desk, raised⟩ := Report.writeAll_error emitted
      exact ⟨sink, member, _, desk, raised⟩

/-! ## The verifier -/

structure Verifier.EndsInconclusive (v : Verifier τ μ) (b : Bench τ μ) : Prop where
  state : (v.verify.ends b).2.session.state = .inconclusive
  answer : ∀ a, (v.verify.ends b).1 = .ok a → a = false
  fault : ∀ f, (v.verify.ends b).1 = .error f →
    ∃ sink ∈ v.sinks, ∃ text desk, ((sink.write text).ends desk).1 = .error f

theorem Verifier.endsInconclusive {v : Verifier τ μ} {b : Bench τ μ} (idle : b.session.state ≠ .running)
    {subject : Subject} {request : Request} {desk asked : Desk τ}
    (checked : validSubject.ends (⟨.asking b.session.request, b.desk⟩ : Bench τ μ) =
      (.ok subject, ⟨.asking request, desk⟩))
    {doubt : Doubt} {message : String}
    (interpreted : (v.engine.interpret (.asking request) (Configuration.build subject request)).ends
      (announced subject request desk) = (.ok (.inconclusive doubt message), asked)) :
    v.EndsInconclusive b := by
  have traced : (v.traceOf (.asking request) subject (.inconclusive doubt message)).ends asked = (.ok none, _) :=
    ends_bind_ok (ends_say _ _ _)
  have attempted := v.attempt_asked checked (ends_announce subject request desk) interpreted traced
  obtain ⟨r, notes, last, reported⟩ := v.report_ends (.inconclusive doubt message) none
    ⟨(Session.asking request).finish (.inconclusive doubt message) none, _⟩
  have ended := v.verify_idle idle
  rw [attempted, reported] at ended
  cases r with
  | ok _ =>
    refine ⟨by rw [ended]; rfl, ?_, ?_⟩
    · rintro a answered
      rw [ended] at answered
      cases answered
      rfl
    · intro f failed
      rw [ended] at failed
      cases failed
  | error g =>
    -- the outcome is stored before the report, so that a failing report does not take the run back
    refine ⟨by rw [ended]; rfl, ?_, ?_⟩
    · rintro a answered
      rw [ended] at answered
      cases answered
    · intro f failed
      rw [ended] at failed
      cases failed
      exact Verifier.report_error reported

end

/-! ## All together -/

section

variable {τ : Type}

/-- Clauses that do not fall under an exception fail only in ways that leave an analysis inconclusive, for the engine
and for a verifier that asks it. An operator that is not defined for its operands is such an exception. -/
theorem clause_errors_stay_inconclusive (e : BoundedEngine) :
    (∀ (context : Clause.Context) (text : String), context.Proper text → context.Contained text) ∧
    (∀ (context : Clause.Context) (text : String) (clause : Clause.Expr), '\x00' ∉ text.toList →
      Clause.parse text = some clause → clause.depth ≤ Clause.depthLimit →
      (context.term text = .error .undefinedOperator ↔ context.Clashes clause)) ∧
    (∀ (configuration : Mapping) (desk : Desk τ) (q : Inquiry e configuration desk), q.Troubled →
      ∀ s, ∃ doubt message final,
        (e.engine.interpret s configuration).ends desk = (.ok (.inconclusive doubt message), final)) ∧
    ∀ (v : Verifier τ SolvedModel) (b : Bench τ SolvedModel) (subject : Subject) (request : Request) (desk : Desk τ),
      v.engine = e.engine → b.session.state ≠ .running →
      Verifier.validSubject.ends (⟨.asking b.session.request, b.desk⟩ : Bench τ SolvedModel) =
        (.ok subject, ⟨.asking request, desk⟩) →
      ∀ q : Inquiry e (Configuration.build subject request) (Verifier.announced subject request desk), q.Troubled →
        v.EndsInconclusive b := by
  refine ⟨fun _ _ proper => proper.contained, ?_, ?_, ?_⟩
  · intro context text clause plain parsed shallow
    exact Clause.Context.term_undefined_iff plain parsed shallow
  · intro configuration desk q troubled s
    obtain ⟨err, failed, isDoubt⟩ := troubled.failed
    obtain ⟨doubt, final, interpreted⟩ := q.interpret_doubt failed isDoubt s
    exact ⟨doubt, _, final, interpreted⟩
  · intro v b subject request desk engine idle checked q troubled
    obtain ⟨err, failed, isDoubt⟩ := troubled.failed
    obtain ⟨doubt, final, interpreted⟩ := q.interpret_doubt failed isDoubt (.asking request)
    rw [← engine] at interpreted
    exact Verifier.endsInconclusive idle checked interpreted

end

/-! ## A method that speaks of unknown names, and two truth values in order -/

def Clause.Expr.comparedNames? : Clause.Expr → Option (String × Clause.CompareOp × String)
  | .compare (.name x) [(op, .name y)] => some (x, op, y)
  | _ => none

theorem parse_comparedNames {text x y : String} {op : Clause.CompareOp}
    (h : (Clause.parse text).bind (·.comparedNames?) = some (x, op, y)) :
    Clause.parse text = some (.compare (.name x) [(op, .name y)]) := by
  obtain ⟨e, parsed, names⟩ := Option.bind_eq_some_iff.mp h
  rw [parsed]
  unfold Clause.Expr.comparedNames? at names
  split at names
  · cases names
    rfl
  · cases names

theorem parse_keyAboveLock :
    Clause.parse "key > lock" = some (.compare (.name "key") [(.gt, .name "lock")]) :=
  parse_comparedNames (by decide +kernel)

def gateDesk : Desk Unit where
  files := ⟨[
    (["src"], .directory),
    (["src", "Gate.model.yaml"],
      .file "methods: {enter: {static: always, requires: key > lock, ensures: key > lock}}")]⟩
  rest := ()

def gateSubject : Subject := { sourceRoot := "src", className := "Gate", valid := some true }

def gateRequest : Request := { subject := some gateSubject, method := "enter", dependencies := [] }

structure Bare (subject : ClassModel) (method : MethodModel) (dependencies : List ClassModel) : Prop where
  static : method.isStatic = true
  params : method.params = []
  statics : subject.staticFields = []
  dependencies : dependencies = []
  effects : method.effects = []
  returns : method.returns.isNull = true
  invariant : subject.invariant.truthy = false

def bareScope (subject : ClassModel) : Clause.Scope := [(subject.simpleName, .owner [])]

namespace Bare

variable {subject : ClassModel} {method : MethodModel} {dependencies : List ClassModel}
  (bare : Bare subject method dependencies)

include bare

theorem declares : (declareFrame subject method dependencies).run [] = .ok (⟨[], [], [], []⟩, []) := by
  simp only [declareFrame, bare.params, bare.static, declareStatics, bare.statics, bare.dependencies]
  rfl

theorem preScope_eq : preScope subject method ⟨[], [], [], []⟩ = bareScope subject := by
  simp only [preScope, bare.static]
  rfl

theorem poses {place : Place} {context : Clause.Context} {text : String}
    (posed : Poses subject method dependencies place context text) :
    context.current = bareScope subject ∧ (text = method.requires ∨ text = method.ensures) := by
  have unchecked : checkedInvariant subject method = none := by simp [checkedInvariant, bare.invariant]
  cases posed with
  | effect declared member =>
    rw [bare.effects] at member
    cases member
  | precondition declared =>
    cases bare.declares.symm.trans declared
    exact ⟨bare.preScope_eq, .inl rfl⟩
  | postcondition declared applied =>
    cases bare.declares.symm.trans declared
    refine ⟨?_, .inr rfl⟩
    obtain ⟨ran, resulting⟩ := applied
    rw [bare.effects] at ran
    cases ran
    simp only [resultTerm, bare.returns, if_true] at resulting
    cases resulting
    exact bare.preScope_eq
  | assumed declared checked =>
    rw [unchecked] at checked
    cases checked
  | kept declared applied checked =>
    rw [unchecked] at checked
    cases checked

end Bare

theorem gate_proper {context : Clause.Context} (scope : context.current = [("Gate", .owner [])]) :
    context.Proper "key > lock" := by
  refine ⟨by decide, ?_, ?_, ?_⟩ <;> rw [parse_keyAboveLock] <;> rintro e ⟨⟩
  · decide
  · exact ⟨trivial, trivial, trivial⟩
  · intro clashes
    have failed := Clause.Context.clashes_iff.mpr clashes
    rw [scope] at failed
    cases failed

theorem gate_inconclusive :
    let configuration := Configuration.build gateSubject gateRequest
    let desk := Verifier.announced gateSubject gateRequest gateDesk
    let v : Verifier Unit SolvedModel := { engine := BoundedEngine.engine {}, sinks := [] }
    ∃ q : Inquiry {} configuration desk, q.Troubled ∧
      (∀ s, ∃ doubt message final, ((BoundedEngine.engine {}).interpret s configuration).ends desk =
        (.ok (.inconclusive doubt message), final)) ∧
      v.EndsInconclusive ⟨{ request := gateRequest }, gateDesk⟩ := by
  intro configuration desk v
  have posed : (inquiry? {} configuration desk).any (fun q =>
      q.method.isStatic && q.method.params.isEmpty && q.subject.staticFields.isEmpty && q.dependencies.isEmpty &&
        q.method.effects.isEmpty && q.method.returns.isNull && !q.subject.invariant.truthy &&
        q.subject.simpleName = "Gate" && q.method.requires = "key > lock" &&
        q.method.ensures = "key > lock") = true := by
    decide +kernel
  obtain ⟨q, -, checked⟩ := (Option.any_eq_true _ _).mp posed
  simp only [Bool.and_eq_true, List.isEmpty_iff, Bool.not_eq_true', decide_eq_true_eq, and_assoc] at checked
  obtain ⟨static, params, statics, dependencies, effects, returns, invariant, named, requires, ensures⟩ := checked
  have bare : Bare q.subject q.method q.dependencies :=
    ⟨static, params, statics, dependencies, effects, returns, invariant⟩
  have troubled : q.Troubled := by
    refine ⟨⟨?_, ?_⟩, ?_, ?_⟩
    · simp [returns]
    · simp [invariant]
    · intro place context text posed
      obtain ⟨scope, given⟩ := bare.poses posed
      rw [requires, ensures, or_self] at given
      rw [given]
      exact gate_proper (by rw [scope, bareScope, named])
    · refine ⟨_, _, _, .precondition bare.declares, ?_⟩
      rintro ⟨x, made⟩
      rw [requires] at made
      obtain ⟨-, e, parsed, -, failed⟩ := Clause.Context.term_eq_ok.mp (Clause.Context.boolTerm_eq_ok.mp made)
      cases parse_keyAboveLock.symm.trans parsed
      rw [bare.preScope_eq, bareScope, named] at failed
      cases failed
  obtain ⟨-, -, interpreted, verified⟩ := @clause_errors_stay_inconclusive Unit {}
  exact ⟨q, troubled, interpreted _ _ q troubled, verified v _ _ _ _ rfl nofun rfl q troubled⟩

theorem truths_in_order_undefined : ∃ (context : Clause.Context) (e : Clause.Expr),
    Clause.parse "a < b" = some e ∧ e.Supported ∧ (∀ ty, ¬ context.Sorts e ty) ∧
      context.term "a < b" = .error .undefinedOperator ∧ ¬ Clause.Error.undefinedOperator.IsDoubt := by
  let inOrder : Clause.Expr := .compare (.name "a") [(.lt, .name "b")]
  let truths : Clause.Context := {
    current := [("a", .value (.bool (.var "a" .bool))), ("b", .value (.bool (.var "b" .bool)))] }
  have parsed : Clause.parse "a < b" = some inOrder := parse_comparedNames (by decide +kernel)
  have undefined : inOrder.toTerm truths.old truths.current = .error .undefinedOperator := rfl
  refine ⟨truths, inOrder, parsed, ⟨trivial, rfl, trivial, trivial⟩, ?_, ?_, ?_⟩
  · intro ty sorts
    obtain ⟨x, made⟩ := (truths.toTerm_iff_sorts inOrder ty).mpr ⟨sorts, trivial, trivial, trivial⟩
    rw [undefined] at made
    cases made
  · exact (Clause.Context.term_undefined_iff (by decide) parsed (by decide)).mpr
      (Clause.Context.clashes_iff.mp undefined)
  · rintro (unsupported | semantic)
    · cases unsupported
    · cases semantic

end Covenant
