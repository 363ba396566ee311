import Covenant.Proofs.Log
import Covenant.Verifier

namespace Covenant

variable {τ μ α : Type}

/-! ## The parts of a run -/

section

open Bench

@[simp] theorem ends_onDesk (act : Run (Desk τ) α) (b : Bench τ μ) :
    (onDesk act).ends b = ((act.ends b.desk).1, { b with desk := (act.ends b.desk).2 }) := by
  have ran : StateT.run (ExceptT.run act) b.desk = act.ends b.desk := rfl
  simp only [onDesk, ends_bind, ends_get, ran]
  cases act.ends b.desk with
  | mk r desk => cases r <;> rfl

theorem ends_onDesk_ok {act : Run (Desk τ) α} {a : α} {b : Bench τ μ} {desk : Desk τ}
    (h : act.ends b.desk = (.ok a, desk)) : (onDesk act).ends b = (.ok a, { b with desk := desk }) := by
  rw [ends_onDesk, h]

theorem ends_onDesk_error {act : Run (Desk τ) α} {f : Fault} {b : Bench τ μ} {desk : Desk τ}
    (h : act.ends b.desk = (.error f, desk)) : (onDesk act).ends b = (.error f, { b with desk := desk }) := by
  rw [ends_onDesk, h]

@[simp] theorem ends_setSession (s : Session μ) (b : Bench τ μ) :
    (setSession s).ends b = (.ok ⟨⟩, { b with session := s }) := rfl

theorem sorted?_build (subject : Subject) (request : Request) :
    ∃ sorted, (Configuration.build subject request).sorted? = some sorted := by
  have texts : ∀ e ∈ Configuration.build subject request, ∃ key, e.1 = .str key := by
    intro e member
    obtain ⟨option, -, rfl⟩ := List.mem_map.mp member
    exact ⟨option.1, rfl⟩
  have ordered : (Configuration.build subject request).all (fun e =>
      (Configuration.build subject request).all fun e' => (e.1.precedes? e'.1).isSome) = true := by
    simp only [List.all_eq_true]
    intro e member e' member'
    obtain ⟨key, named⟩ := texts e member
    obtain ⟨key', named'⟩ := texts e' member'
    rw [named, named']
    rfl
  unfold Mapping.sorted?
  split
  · exact ⟨_, rfl⟩
  · exact ⟨_, rfl⟩
  · rw [if_pos ordered]
    exact ⟨_, rfl⟩

namespace Verifier

def optionTexts (subject : Subject) (request : Request) : List (String × String) :=
  ((Configuration.build subject request).sorted?.getD []).texts

def announcement (subject : Subject) (request : Request) (indent : Nat) : List Output :=
  .entry .step indent ("Verifying " ++ subject.className ++ "." ++ request.method) ::
    Log.listTalk indent Log.optionsTitle (optionTexts subject request)

theorem said_announcement (subject : Subject) (request : Request) (indent : Nat) :
    ∀ o ∈ announcement subject request indent, o.isText = false := by
  intro o member
  rcases List.mem_cons.mp member with rfl | member
  · rfl
  · exact Log.said_listTalk _ _ _ o member

def announced (subject : Subject) (request : Request) (desk : Desk τ) : Desk τ :=
  { desk with log := desk.log.heard (announcement subject request desk.log.indent) }

theorem announce_gives [Terminal] (subject : Subject) (request : Request) (desk : Desk τ) :
    (announce subject request).Gives () desk (announced subject request desk) := by
  obtain ⟨sorted, order⟩ := sorted?_build subject request
  have texts : sorted.texts = optionTexts subject request := by rw [optionTexts, order, Option.getD_some]
  refine .bind (Run.Gives.onLog (Log.say_gives _ _ _)) ?_
  have listed := Log.options_gives order Log.optionsTitle
    (desk.log.heard [.entry .step desk.log.indent ("Verifying " ++ subject.className ++ "." ++ request.method)])
  rw [Log.heard_heard, texts] at listed
  exact listed.onLog

theorem ends_announce (subject : Subject) (request : Request) (desk : Desk τ) :
    (announce subject request).ends desk = (.ok (), announced subject request desk) :=
  (announce_gives subject request desk).ends_eq

end Verifier

def Request.remembering (r : Request) (valid : Option Bool) : Request :=
  { r with subject := r.subject.map fun s => { s with valid := valid } }

theorem Request.remembering_self (r : Request) : r.remembering (r.subject.bind (·.valid)) = r := by
  obtain ⟨_ | s, _, _, _⟩ := r <;> rfl

theorem Request.remembering_remembering (r : Request) (a b : Option Bool) :
    (r.remembering a).remembering b = r.remembering b := by
  obtain ⟨_ | s, _, _, _⟩ := r <;> rfl

theorem Subject.validate_ok {s t : Subject} {valid : Bool} {desk desk' : Desk τ}
    (h : s.validate.ends desk = (.ok (valid, t), desk')) : t = { s with valid := t.valid } := by
  unfold Subject.validate at h
  split at h
  · cases h
    rfl
  · split at h
    · cases h
      rfl
    · simp only [ends_bind, ends_check, ends_modify, ends_get] at h
      cases found : s.sourceFile with
      | error f => simp [found] at h
      | ok path =>
        simp only [found] at h
        cases ran : s.check.run desk.files path.text with
        | error f => simp [ran] at h
        | ok answer =>
          simp only [ran, ends_pure, Prod.mk.injEq, Except.ok.injEq] at h
          obtain ⟨⟨-, rfl⟩, -⟩ := h
          rfl

theorem Verifier.validSubject_ends (b : Bench τ μ) :
    ∃ valid desk r, (validSubject.ends b : Except Fault Subject × Bench τ μ) =
        (r, ⟨{ b.session with request := b.session.request.remembering valid }, desk⟩) ∧
      ∀ subject, r = .ok subject → (b.session.request.remembering valid).subject = some subject := by
  obtain ⟨⟨request, state, outcome, trace⟩, desk⟩ := b
  have unchanged (f : Fault) (desk : Desk τ) : ∃ valid desk' r,
      ((.error f, ⟨⟨request, state, outcome, trace⟩, desk⟩) : Except Fault Subject × Bench τ μ) =
        (r, ⟨⟨request.remembering valid, state, outcome, trace⟩, desk'⟩) ∧
      ∀ subject, r = .ok subject → (request.remembering valid).subject = some subject := by
    refine ⟨request.subject.bind (·.valid), desk, .error f, ?_, fun _ impossible => nomatch impossible⟩
    rw [Request.remembering_self]
  unfold validSubject
  simp only [ends_bind, ends_get]
  cases asked : request.subject with
  | none => exact unchanged _ _
  | some s =>
    simp only
    by_cases named : (request.method == "") = true
    · simp only [named, if_true, ends_bind, ends_throw]
      exact unchanged _ _
    · simp only [named, Bool.false_eq_true, if_false, ends_bind, ends_onDesk]
      cases validated : s.validate.ends desk with
      | mk r desk' =>
        cases r with
        | error f => exact unchanged _ _
        | ok answer =>
          obtain ⟨valid, t⟩ := answer
          have same : t = { s with valid := t.valid } := Subject.validate_ok validated
          have remembered : { request with subject := some t } = request.remembering t.valid := by
            rw [Request.remembering, asked, Option.map_some, ← same]
          simp only [ends_setSession, remembered]
          cases valid with
          | true =>
            refine ⟨t.valid, desk', .ok t, rfl, ?_⟩
            rintro subject ⟨⟩
            rw [← remembered]
          | false => exact ⟨t.valid, desk', _, rfl, fun _ impossible => nomatch impossible⟩

section

variable [Terminal]

theorem Verifier.traceOf_ok {v : Verifier τ μ} {s : Session μ} {subject : Subject} {outcome : Outcome μ}
    {desk desk' : Desk τ} {trace : Option Trace} (h : (v.traceOf s subject outcome).ends desk = (.ok trace, desk')) :
    (∃ m t, outcome.verdict = .refuted (some m) ∧ trace = some t ∧
        ((v.engine.extract (some m) (.classes s.request.dependencies) subject.className s.methodId).ends desk).1 =
          .ok t) ∨
      (trace = none ∧ ∀ m, outcome.verdict ≠ .refuted m) := by
  unfold traceOf at h
  split at h
  · rename_i model refuted
    left
    rw [ends_bind] at h
    cases extracted : (v.engine.extract model (.classes s.request.dependencies) subject.className s.methodId).ends
        desk with
    | mk r last =>
      rw [extracted] at h
      cases r with
      | error f => cases h
      | ok t =>
        obtain ⟨_, _, -, returned⟩ := ends_bind_eq_ok.mp h
        cases returned
        cases model with
        | none => cases extracted
        | some m => exact ⟨m, t, refuted, rfl, by rw [extracted]⟩
  · rename_i doubt reason inconclusive
    obtain ⟨_, _, -, returned⟩ := ends_bind_eq_ok.mp h
    cases returned
    exact .inr ⟨rfl, fun m refuted => by rw [inconclusive] at refuted; cases refuted⟩
  · rename_i proved
    obtain ⟨_, _, -, returned⟩ := ends_bind_eq_ok.mp h
    cases returned
    exact .inr ⟨rfl, fun m refuted => by rw [proved] at refuted; cases refuted⟩

theorem Verifier.report_ends (v : Verifier τ μ) (outcome : Outcome μ) (trace : Option Trace) (b : Bench τ μ) :
    ∃ r notes desk, (v.report outcome trace).ends b =
      (r, ⟨{ b.session with outcome := some { outcome with diagnostics := notes } }, desk⟩) := by
  simp only [report, ends_bind, ends_get]
  cases StateT.run (ExceptT.run (Report.emit v.sinks outcome trace)) ⟨outcome.diagnostics, b.desk⟩ with
  | mk r notes => cases r <;> exact ⟨_, _, _, rfl⟩

end

end

/-! ## The whole run -/

def Session.asking (request : Request) : Session μ := ⟨request, .running, none, none⟩

theorem Verdict.state_ne_running (verdict : Verdict μ) : verdict.state ≠ .running := by
  cases verdict <;> exact nofun

theorem Session.abandon_finish (s : Session μ) (outcome : Outcome μ) (trace : Option Trace) :
    (s.finish outcome trace).abandon = s.finish outcome trace := by
  rw [abandon, if_neg]
  exact outcome.verdict.state_ne_running

section

variable [Terminal]

/-- The session `last` holds the outcome of a run: the engine was asked at the desk and its answer traced while the
session was running. -/
def Verifier.Finishes (v : Verifier τ μ) (subject : Subject) (request : Request) (asking : Desk τ) (outcome : Outcome μ)
    (last : Session μ) : Prop :=
  ∃ trace notes, request.subject = some subject ∧
    last = (Session.asking request).finish { outcome with diagnostics := notes } trace ∧
    ∃ extracting reporting : Desk τ,
      (v.engine.interpret (.asking request) (Configuration.build subject request)).ends asking =
        (.ok outcome, extracting) ∧
      (v.traceOf (.asking request) subject outcome).ends extracting = (.ok trace, reporting)

/-- The engine is asked about the subject at the desk `asking`: the compile check passed and the run was announced. -/
def Verifier.AsksAt (b : Bench τ μ) (valid : Option Bool) (subject : Subject) (asking : Desk τ) : Prop :=
  ∃ desk, validSubject.ends ⟨.asking b.session.request, b.desk⟩ =
      (.ok subject, (⟨.asking (b.session.request.remembering valid), desk⟩ : Bench τ μ)) ∧
    (announce subject (b.session.request.remembering valid)).ends desk = (.ok (), asking)

/-- How an attempt ends: it stops at the first step that fails, in the session that the engine is asked in, or it stores
its outcome. -/
inductive Verifier.Attempts (v : Verifier τ μ) (b : Bench τ μ) : Except Fault Bool → Session μ → Prop
  | broken {f : Fault} {valid : Option Bool} : Attempts v b (.error f) (.asking (b.session.request.remembering valid))
  | finished {r : Except Fault Bool} {valid : Option Bool} {subject : Subject} {asking : Desk τ} {last : Session μ}
      {outcome : Outcome μ} (asks : AsksAt b valid subject asking)
      (finishes : v.Finishes subject (b.session.request.remembering valid) asking outcome last)
      (answered : ∀ answer, r = .ok answer → answer = isProved outcome.verdict) : Attempts v b r last

inductive Verifier.Ends (v : Verifier τ μ) (b : Bench τ μ) : Except Fault Bool → Session μ → Prop
  | refused (running : b.session.state = .running) : Ends v b (.error (.ofUsage .inProgress)) b.session
  | broken {f : Fault} {valid : Option Bool} (idle : b.session.state ≠ .running) :
      Ends v b (.error f) ⟨b.session.request.remembering valid, .notStarted, none, none⟩
  | finished {r : Except Fault Bool} {valid : Option Bool} {subject : Subject} {asking : Desk τ} {last : Session μ}
      {outcome : Outcome μ} (idle : b.session.state ≠ .running) (asks : AsksAt b valid subject asking)
      (finishes : v.Finishes subject (b.session.request.remembering valid) asking outcome last)
      (answered : ∀ answer, r = .ok answer → answer = isProved outcome.verdict) : Ends v b r last

theorem Verifier.verify_running (v : Verifier τ μ) {b : Bench τ μ} (running : b.session.state = .running) :
    v.verify.ends b = (.error (.ofUsage .inProgress), b) := by
  simp only [verify, ends_bind, ends_get, Session.begin, running, if_true, ends_throw]

theorem Verifier.verify_idle (v : Verifier τ μ) {b : Bench τ μ} (idle : b.session.state ≠ .running) :
    v.verify.ends b =
      match v.attempt.ends ⟨.asking b.session.request, b.desk⟩ with
      | (.ok answer, last) => (.ok answer, last)
      | (.error f, last) => (.error f, { last with session := last.session.abandon }) := by
  simp only [verify, ends_bind, ends_get, Session.begin, idle, if_false, ends_setSession, ends_tryCatch, ends_modify,
    ends_throw, Session.asking]
  cases v.attempt.ends ⟨⟨b.session.request, .running, none, none⟩, b.desk⟩ with
  | mk r last => cases r <;> rfl

theorem Verifier.attempt_asked (v : Verifier τ μ) {request checkedRequest : Request} {desk checkedDesk asking : Desk τ}
    {subject : Subject} (checked : validSubject.ends (⟨.asking request, desk⟩ : Bench τ μ) =
      (.ok subject, ⟨.asking checkedRequest, checkedDesk⟩))
    (announced : (announce subject checkedRequest).ends checkedDesk = (.ok (), asking))
    {outcome : Outcome μ} {extracting : Desk τ}
    (asked : (v.engine.interpret (.asking checkedRequest) (Configuration.build subject checkedRequest)).ends asking =
      (.ok outcome, extracting))
    {trace : Option Trace} {reporting : Desk τ}
    (traced : (v.traceOf (.asking checkedRequest) subject outcome).ends extracting = (.ok trace, reporting)) :
    v.attempt.ends ⟨.asking request, desk⟩ =
      match (v.report outcome trace).ends ⟨(Session.asking checkedRequest).finish outcome trace, reporting⟩ with
      | (.ok _, last) => (.ok (isProved outcome.verdict), last)
      | (.error f, last) => (.error f, last) := by
  unfold attempt
  rw [ends_bind_ok checked, ends_bind_ok (ends_get _)]
  simp only
  rw [ends_bind_ok (ends_onDesk_ok announced), ends_bind_ok (ends_onDesk_ok asked),
    ends_bind_ok (ends_onDesk_ok traced), ends_bind_ok (ends_setSession _ _), ends_bind]
  cases (v.report outcome trace).ends ⟨(Session.asking checkedRequest).finish outcome trace, reporting⟩ with
  | mk r last => cases r <;> rfl

theorem Verifier.attempt_ends (v : Verifier τ μ) (b : Bench τ μ) :
    v.Attempts b (v.attempt.ends ⟨.asking b.session.request, b.desk⟩).1
      (v.attempt.ends ⟨.asking b.session.request, b.desk⟩).2.session := by
  obtain ⟨valid, checkedDesk, r, checked, found⟩ :=
    validSubject_ends (⟨.asking b.session.request, b.desk⟩ : Bench τ μ)
  change validSubject.ends _ =
    (r, (⟨.asking (b.session.request.remembering valid), checkedDesk⟩ : Bench τ μ)) at checked
  cases r with
  | error f =>
    rw [attempt, ends_bind_error checked]
    exact .broken
  | ok subject =>
    cases announced : (announce subject (b.session.request.remembering valid)).ends checkedDesk with
    | mk r asking =>
    cases r with
    | error f =>
      rw [attempt, ends_bind_ok checked, ends_bind_ok (ends_get _)]
      simp only
      rw [ends_bind_error (ends_onDesk_error announced)]
      exact .broken
    | ok _ =>
    cases asked : (v.engine.interpret (.asking (b.session.request.remembering valid))
        (Configuration.build subject (b.session.request.remembering valid))).ends asking with
    | mk r extracting =>
      cases r with
      | error f =>
        rw [attempt, ends_bind_ok checked, ends_bind_ok (ends_get _)]
        simp only
        rw [ends_bind_ok (ends_onDesk_ok announced), ends_bind_error (ends_onDesk_error asked)]
        exact .broken
      | ok outcome =>
        cases traced : (v.traceOf (.asking (b.session.request.remembering valid)) subject outcome).ends extracting with
        | mk r reporting =>
          cases r with
          | error f =>
            rw [attempt, ends_bind_ok checked, ends_bind_ok (ends_get _)]
            simp only
            rw [ends_bind_ok (ends_onDesk_ok announced), ends_bind_ok (ends_onDesk_ok asked),
              ends_bind_error (ends_onDesk_error traced)]
            exact .broken
          | ok trace =>
            rw [v.attempt_asked checked announced asked traced]
            obtain ⟨r, notes, last, reported⟩ := v.report_ends outcome trace
              ⟨(Session.asking (b.session.request.remembering valid)).finish outcome trace, reporting⟩
            have finishes : v.Finishes subject (b.session.request.remembering valid) asking outcome
                ((Session.asking (b.session.request.remembering valid)).finish
                  { outcome with diagnostics := notes } trace) :=
              ⟨trace, notes, found subject rfl, rfl, extracting, reporting, asked, traced⟩
            rw [reported]
            cases r with
            | error f => exact .finished ⟨checkedDesk, checked, announced⟩ finishes nofun
            | ok _ =>
              refine .finished ⟨checkedDesk, checked, announced⟩ finishes ?_
              rintro answer ⟨⟩
              rfl

theorem Verifier.verify_ends (v : Verifier τ μ) (b : Bench τ μ) :
    v.Ends b (v.verify.ends b).1 (v.verify.ends b).2.session := by
  by_cases running : b.session.state = .running
  · rw [v.verify_running running]
    exact .refused running
  · have attempts := v.attempt_ends b
    rw [v.verify_idle running]
    generalize v.attempt.ends ⟨.asking b.session.request, b.desk⟩ = ended at attempts
    obtain ⟨r, last⟩ := ended
    generalize stored : last.session = session at attempts
    cases attempts with
    | broken =>
      simp only [stored]
      exact .broken running
    | finished asks finishes answered =>
      cases r with
      | ok answer =>
        simp only [stored]
        exact .finished running asks finishes answered
      | error f =>
        obtain ⟨trace, notes, found, rfl, rest⟩ := finishes
        simp only [stored, Session.abandon_finish]
        exact .finished running asks ⟨trace, notes, found, rfl, rest⟩ nofun

end

end Covenant
