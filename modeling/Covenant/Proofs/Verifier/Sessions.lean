import Covenant.Proofs.Verifier.Runs

/-!
# Sessions between and during calls

Whatever the engine, the models and the sinks do, a verifier that is not in a run has one of four kinds of session: no
run has taken place, or the last one ended with an outcome, and a trace belongs to a refuted outcome and to no other.
While the engine is asked the session is running and holds nothing of an earlier run, and the calls that the engine then
makes of its own verifier are refused and leave it so.
-/

namespace Covenant

variable {τ μ : Type}

inductive Session.Settled : Session μ → Prop
  | notStarted (request : Request) : Settled ⟨request, .notStarted, none, none⟩
  | proved (request : Request) (notes : List String) : Settled ⟨request, .proved, some ⟨.proved, notes⟩, none⟩
  | refuted (request : Request) (m : μ) (notes : List String) (t : Trace) :
      Settled ⟨request, .refuted, some ⟨.refuted (some m), notes⟩, some t⟩
  | inconclusive (request : Request) (doubt : Doubt) (reason : String) (notes : List String) :
      Settled ⟨request, .inconclusive, some ⟨.inconclusive doubt reason, notes⟩, none⟩

theorem Session.Settled.idle {s : Session μ} (h : s.Settled) : s.state ≠ .running := by
  cases h <;> exact nofun

theorem Session.Settled.refuted_of_trace {s : Session μ} (h : s.Settled) {t : Trace} (stored : s.trace = some t) :
    s.state = .refuted := by
  cases h with
  | refuted => rfl
  | _ => cases stored

def Session.Running (s : Session μ) : Prop := s.state = .running ∧ s.outcome = none ∧ s.trace = none

theorem Session.running_asking (request : Request) : (Session.asking request : Session μ).Running := ⟨rfl, rfl, rfl⟩

/-! ## Calls from outside -/

inductive Call (τ : Type) where
  | verify
  | counterexample (context : Option (List String)) (className method : Option String)
  | meanwhile (change : Desk τ → Desk τ)

namespace Verifier

def afterCall (v : Verifier τ μ) (b : Bench τ μ) : Call τ → Bench τ μ
  | .verify => (v.verify.ends b).2
  | .counterexample context className method => ((v.counterexample context className method).ends b).2
  | .meanwhile change => { b with desk := change b.desk }

def afterCalls (v : Verifier τ μ) (b : Bench τ μ) (calls : List (Call τ)) : Bench τ μ := calls.foldl v.afterCall b

def Shows (v : Verifier τ μ) (s : Session μ) : Prop :=
  ∀ m t, lastModel s = some m → s.trace = some t →
    ∃ subject desk, s.request.subject = some subject ∧
      ((v.engine.extract (some m) (.classes s.request.dependencies) subject.className s.methodId).ends desk).1 = .ok t

theorem Finishes.settled {v : Verifier τ μ} {subject : Subject} {request : Request} {asking : Desk τ}
    {outcome : Outcome μ} {last : Session μ} (h : v.Finishes subject request asking outcome last) :
    last.request = request ∧ last.Settled ∧ v.Shows last ∧
      isProved outcome.verdict = decide (last.state = .proved) := by
  obtain ⟨trace, notes, found, rfl, extracting, reporting, -, traced⟩ := h
  obtain ⟨verdict, diagnostics⟩ := outcome
  refine ⟨rfl, ?_⟩
  rcases traceOf_ok traced with ⟨m, t, refuted, rfl, extracted⟩ | ⟨rfl, unrefuted⟩
  · cases refuted
    refine ⟨.refuted _ _ _ _, ?_, rfl⟩
    rintro m t ⟨⟩ ⟨⟩
    exact ⟨subject, extracting, found, extracted⟩
  · cases verdict with
    | proved => exact ⟨.proved _ _, nofun, rfl⟩
    | refuted m => exact absurd rfl (unrefuted m)
    | inconclusive doubt reason => exact ⟨.inconclusive _ _ _ _, nofun, rfl⟩

structure Rests (v : Verifier τ μ) (request : Request) (s : Session μ) : Prop where
  settled : s.Settled
  shows : v.Shows s
  remembered : ∃ valid, s.request = request.remembering valid

theorem Rests.initial (v : Verifier τ μ) (request : Request) : v.Rests request { request := request } where
  settled := .notStarted request
  shows := nofun
  remembered := ⟨_, request.remembering_self.symm⟩

theorem Rests.verify {v : Verifier τ μ} {request : Request} {b : Bench τ μ} (h : v.Rests request b.session) :
    v.Rests request (v.verify.ends b).2.session := by
  obtain ⟨settled, -, before, remembered⟩ := h
  have ends := v.verify_ends b
  generalize (v.verify.ends b).1 = r, (v.verify.ends b).2.session = last at ends
  cases ends with
  | refused running => exact absurd running settled.idle
  | @broken _ valid _ =>
    refine ⟨.notStarted _, nofun, valid, ?_⟩
    rw [remembered, Request.remembering_remembering]
  | @finished _ valid _ _ _ _ _ _ finishes _ =>
    obtain ⟨request_eq, settled, shows, -⟩ := finishes.settled
    refine ⟨settled, shows, valid, ?_⟩
    rw [request_eq, remembered, Request.remembering_remembering]

/-! ## Asking for a counterexample -/

theorem counterexample_keeps (v : Verifier τ μ) (context : Option (List String)) (className method : Option String)
    (b : Bench τ μ) : ((v.counterexample context className method).ends b).2.session = b.session := by
  simp only [counterexample, ends_bind, ends_get]
  split
  · rfl
  · split
    · rfl
    · rw [ends_onDesk]
  · rfl

theorem counterexample_refuted {v : Verifier τ μ} {context : Option (List String)} {className method : Option String}
    {b last : Bench τ μ} {t : Trace} (h : (v.counterexample context className method).ends b = (.ok t, last)) :
    b.session.state = .refuted := by
  simp only [counterexample, ends_bind, ends_get] at h
  split at h
  · cases h
  · rename_i refuted
    exact refuted
  · cases h

theorem counterexample_running (v : Verifier τ μ) (context : Option (List String)) (className method : Option String)
    {b : Bench τ μ} (running : b.session.state = .running) :
    (v.counterexample context className method).ends b = (.error (.ofUsage (.notRefuted .running)), b) := by
  simp only [counterexample, ends_bind, ends_get, running, ends_throw]

theorem counterexample_stored (v : Verifier τ μ) {b : Bench τ μ} {t : Trace} (refuted : b.session.state = .refuted)
    (stored : b.session.trace = some t) : (v.counterexample none none none).ends b = (.ok t, b) := by
  simp only [counterexample, ends_bind, ends_get, refuted, stored, ends_pure]

theorem classFor_own {s : Session μ} {subject : Subject} (found : s.request.subject = some subject)
    {className : Option String} (own : className = none ∨ className = some subject.className) :
    classFor s className = .ok subject.className := by
  obtain rfl | rfl := own
  · simp only [classFor, found]
  · by_cases named : subject.className = "" <;> simp [classFor, found, named]

theorem methodIdFor_own {s : Session μ} {method : Option String}
    (own : method = none ∨ method = some s.request.method) : methodIdFor s method = s.methodId := by
  obtain rfl | rfl := own
  · rfl
  · by_cases named : s.request.method = "" <;> simp [methodIdFor, Session.methodId, named]

end Verifier

def Engine.Steady (e : Engine τ μ) (m : μ) : Prop :=
  ∃ shown : Context → String → String → Except Fault Snapshot, ∀ context className methodId desk,
    ((e.snapshot m context className methodId).ends desk).1 = shown context className methodId

theorem Engine.Steady.extract {e : Engine τ μ} {m : μ} (steady : e.Steady m) (context : Context)
    (className methodId : String) (d d' : Desk τ) :
    ((e.extract (some m) context className methodId).ends d).1 =
      ((e.extract (some m) context className methodId).ends d').1 := by
  obtain ⟨shown, eq⟩ := steady
  have first := eq context className methodId d
  have second := eq context className methodId d'
  simp only [Engine.extract, ends_bind]
  generalize (e.snapshot m context className methodId).ends d = x at first
  generalize (e.snapshot m context className methodId).ends d' = y at second
  obtain ⟨r, last⟩ := x
  obtain ⟨r', last'⟩ := y
  obtain rfl : r = r' := first.trans second.symm
  cases r with
  | error f => rfl
  | ok snapshot => simp only [ends_check]

namespace Verifier

theorem counterexample_own {v : Verifier τ μ} {b : Bench τ μ} {m : μ} {t : Trace} (shows : v.Shows b.session)
    (refuted : b.session.state = .refuted) (model : lastModel b.session = some m) (stored : b.session.trace = some t)
    (steady : v.engine.Steady m) {context : Option (List String)} {className method : Option String}
    (ownContext : context = none ∨ context = some b.session.request.dependencies)
    (ownClass : className = none ∨ className = b.session.request.subject.map (·.className))
    (ownMethod : method = none ∨ method = some b.session.request.method) :
    ((v.counterexample context className method).ends b).1 = .ok t := by
  obtain ⟨subject, desk, found, shown⟩ := shows m t model stored
  rw [found] at ownClass
  have deps : context.getD b.session.request.dependencies = b.session.request.dependencies := by
    obtain rfl | rfl := ownContext <;> rfl
  simp only [counterexample, ends_bind, ends_get, refuted]
  split
  · rename_i trace kept
    rw [stored] at kept
    cases kept
    rfl
  · simp only [ends_onDesk, ends_bind, ends_check, classFor_own found ownClass, methodIdFor_own ownMethod, deps, model]
    rw [steady.extract _ _ _ _ desk, shown]

/-! ## Any sequence of calls -/

theorem Rests.afterCall {v : Verifier τ μ} {request : Request} {b : Bench τ μ} (h : v.Rests request b.session)
    (call : Call τ) : v.Rests request (v.afterCall b call).session := by
  cases call with
  | verify => exact h.verify
  | counterexample context className method =>
    rw [Verifier.afterCall, counterexample_keeps]
    exact h
  | meanwhile change => exact h

theorem Rests.afterCalls {v : Verifier τ μ} {request : Request} {b : Bench τ μ} (h : v.Rests request b.session)
    (calls : List (Call τ)) : v.Rests request (v.afterCalls b calls).session := by
  induction calls generalizing b with
  | nil => exact h
  | cons call rest ih => exact ih (h.afterCall call)

theorem verify_answers {v : Verifier τ μ} {b last : Bench τ μ} {answer : Bool}
    (h : v.verify.ends b = (.ok answer, last)) : answer = decide (last.session.state = .proved) := by
  have ends := v.verify_ends b
  rw [h] at ends
  generalize returned : (Except.ok answer : Except Fault Bool) = r, last.session = s at ends
  cases ends with
  | refused => cases returned
  | broken => cases returned
  | finished _ _ finishes answered =>
    obtain ⟨-, -, -, proved⟩ := finishes.settled
    rw [answered answer returned.symm, proved]

/-! ## Calls from within a run -/

/-- The engine is never asked in a session that is not running: what another engine does there makes no difference. -/
def AsksWhileRunning (v : Verifier τ μ) : Prop :=
  ∀ e : Engine τ μ, e.snapshot = v.engine.snapshot →
    (∀ s configuration, s.Running → e.analyze s configuration = v.engine.analyze s configuration) →
    ∀ b, ({ v with engine := e } : Verifier τ μ).verify.ends b = v.verify.ends b

theorem attempt_congr {v : Verifier τ μ} {e : Engine τ μ} {request : Request}
    (shows : ∀ m className methodId, e.snapshot m (.classes request.dependencies) className methodId =
      v.engine.snapshot m (.classes request.dependencies) className methodId)
    (agrees : ∀ s subject, s.Running →
      e.analyze s (Configuration.build subject request) = v.engine.analyze s (Configuration.build subject request))
    (desk : Desk τ) :
    ({ v with engine := e } : Verifier τ μ).attempt.ends ⟨.asking request, desk⟩ =
      v.attempt.ends ⟨.asking request, desk⟩ := by
  obtain ⟨valid, checkedDesk, r, checked, -⟩ := validSubject_ends (⟨.asking request, desk⟩ : Bench τ μ)
  change validSubject.ends _ = (r, (⟨.asking (request.remembering valid), checkedDesk⟩ : Bench τ μ)) at checked
  unfold attempt
  cases r with
  | error f => rw [ends_bind_error checked, ends_bind_error checked]
  | ok subject =>
    have interprets : e.interpret (.asking (request.remembering valid)) (Configuration.build subject request) =
        v.engine.interpret (.asking (request.remembering valid)) (Configuration.build subject request) := by
      unfold Engine.interpret
      rw [agrees _ _ (Session.running_asking _)]
    have traces outcome : ({ v with engine := e } : Verifier τ μ).traceOf (.asking (request.remembering valid)) subject
        outcome = v.traceOf (.asking (request.remembering valid)) subject outcome := by
      have same : (Session.asking (request.remembering valid) : Session μ).request.dependencies =
        request.dependencies := rfl
      simp only [traceOf, Engine.extract, same, shows]
    have options : Configuration.build subject (Session.asking (request.remembering valid) : Session μ).request =
      Configuration.build subject request := rfl
    rw [ends_bind_ok checked, ends_bind_ok checked, ends_bind_ok (ends_get _), ends_bind_ok (ends_get _)]
    simp only [options, interprets, traces]
    rfl

theorem asksWhileRunning (v : Verifier τ μ) : v.AsksWhileRunning := by
  intro e shows agrees b
  by_cases running : b.session.state = .running
  · rw [verify_running _ running, verify_running _ running]
  · rw [verify_idle _ running, verify_idle _ running,
      attempt_congr (fun _ _ _ => by rw [shows]) fun s _ => agrees s _]

end Verifier

/-- What an engine may do during an analysis: it works on the desk, looks at the session, calls the verifier that asked
it and goes on as it likes from what the calls answer or fail with. -/
inductive Conduct (τ μ : Type) where
  | finish (result : Except Fault (Answer μ))
  | work (change : Desk τ → Desk τ) (next : Desk τ → Conduct τ μ)
  | look (next : Session μ → Conduct τ μ)
  | verify (next : Except Fault Bool → Conduct τ μ)
  | counterexample (context : Option (List String)) (className method : Option String)
      (next : Except Fault Trace → Conduct τ μ)

namespace Conduct

def perform (v : Verifier τ μ) : Conduct τ μ → Bench τ μ → Except Fault (Answer μ) × Bench τ μ
  | finish result, b => (result, b)
  | work change next, b => (next b.desk).perform v { b with desk := change b.desk }
  | look next, b => (next b.session).perform v b
  | verify next, b => (next (v.verify.ends b).1).perform v (v.verify.ends b).2
  | counterexample context className method next, b =>
    (next ((v.counterexample context className method).ends b).1).perform v
      ((v.counterexample context className method).ends b).2

theorem perform_session (v : Verifier τ μ) {s : Session μ} (running : s.Running) (c : Conduct τ μ) (desk : Desk τ) :
    (c.perform v ⟨s, desk⟩).2.session = s := by
  induction c generalizing desk with
  | finish result => rfl
  | work change next ih => exact ih _ _
  | look next ih => exact ih _ _
  | verify next ih =>
    rw [perform, v.verify_running running.1]
    exact ih _ _
  | counterexample context className method next ih =>
    rw [perform, v.counterexample_running _ _ _ running.1]
    exact ih _ _

theorem perform_congr (v w : Verifier τ μ) {s : Session μ} (running : s.Running) (c : Conduct τ μ) (desk : Desk τ) :
    c.perform v ⟨s, desk⟩ = c.perform w ⟨s, desk⟩ := by
  induction c generalizing desk with
  | finish result => rfl
  | work change next ih => exact ih _ _
  | look next ih => exact ih _ _
  | verify next ih =>
    rw [perform, perform, v.verify_running running.1, w.verify_running running.1]
    exact ih _ _
  | counterexample context className method next ih =>
    rw [perform, perform, v.counterexample_running _ _ _ running.1, w.counterexample_running _ _ _ running.1]
    exact ih _ _

def analysis (v : Verifier τ μ) (c : Conduct τ μ) (s : Session μ) : Run (Desk τ) (Answer μ) :=
  ExceptT.mk fun desk => ((c.perform v ⟨s, desk⟩).1, (c.perform v ⟨s, desk⟩).2.desk)

end Conduct

namespace Verifier

def conducted (v : Verifier τ μ) (conduct : Mapping → Conduct τ μ) : Verifier τ μ :=
  { v with engine := { v.engine with analyze := fun s configuration => (conduct configuration).analysis v s } }

theorem conducted_analyze (v : Verifier τ μ) (conduct : Mapping → Conduct τ μ) {s : Session μ} (running : s.Running)
    (configuration : Mapping) :
    (v.conducted conduct).engine.analyze s configuration =
      (conduct configuration).analysis (v.conducted conduct) s := by
  change (conduct configuration).analysis v s = _
  unfold Conduct.analysis
  congr 1
  funext desk
  rw [Conduct.perform_congr v (v.conducted conduct) running]

structure Orderly (v : Verifier τ μ) (request : Request) (b : Bench τ μ) : Prop where
  settled : b.session.Settled
  answers : ∀ answer last, v.verify.ends b = (.ok answer, last) → answer = decide (last.session.state = .proved)
  keeps : ∀ context className method, ((v.counterexample context className method).ends b).2.session = b.session
  refuted : ∀ context className method t last, (v.counterexample context className method).ends b = (.ok t, last) →
    b.session.state = .refuted
  stored : ∀ t, b.session.trace = some t → (v.counterexample none none none).ends b = (.ok t, b)
  again : ∀ m t, lastModel b.session = some m → b.session.trace = some t → v.engine.Steady m →
    ∀ context ∈ [none, some request.dependencies], ∀ className ∈ [none, request.subject.map (·.className)],
      ∀ method ∈ [none, some request.method], ((v.counterexample context className method).ends b).1 = .ok t

structure Refuses (v : Verifier τ μ) (s : Session μ) : Prop where
  verify : ∀ desk, v.verify.ends ⟨s, desk⟩ = (.error (.ofUsage .inProgress), ⟨s, desk⟩)
  counterexample : ∀ context className method desk, (v.counterexample context className method).ends ⟨s, desk⟩ =
    (.error (.ofUsage (.notRefuted .running)), ⟨s, desk⟩)
  session : ∀ (c : Conduct τ μ) (desk : Desk τ), (c.perform v ⟨s, desk⟩).2.session = s

theorem Rests.orderly {v : Verifier τ μ} {request : Request} {b : Bench τ μ} (h : v.Rests request b.session) :
    v.Orderly request b where
  settled := h.settled
  answers _ _ returned := verify_answers returned
  keeps _ _ _ := v.counterexample_keeps _ _ _ b
  refuted _ _ _ _ _ returned := counterexample_refuted returned
  stored _ stored := v.counterexample_stored (h.settled.refuted_of_trace stored) stored
  again m t model stored steady context ownContext className ownClass method ownMethod := by
    obtain ⟨valid, remembered⟩ := h.remembered
    refine counterexample_own h.shows (h.settled.refuted_of_trace stored) model stored steady ?_ ?_ ?_
    · rw [remembered]
      simpa [Request.remembering] using ownContext
    · rw [remembered]
      simpa [Request.remembering, Function.comp_def] using ownClass
    · rw [remembered]
      simpa [Request.remembering] using ownMethod

theorem refuses (v : Verifier τ μ) {s : Session μ} (running : s.Running) : v.Refuses s where
  verify _ := v.verify_running running.1
  counterexample _ _ _ _ := v.counterexample_running _ _ _ running.1
  session c desk := c.perform_session v running desk

/-- Any sequence of calls leaves a verifier in order, whatever its engine, models and sinks do. Its engine is asked in
running sessions only, where it may call the verifier as it likes. -/
theorem sessions_stay_consistent (v : Verifier τ μ) (request : Request) (desk : Desk τ) (calls : List (Call τ)) :
    v.Orderly request (v.afterCalls ⟨{ request := request }, desk⟩ calls) ∧
      v.AsksWhileRunning ∧
      (∀ s : Session μ, s.Running → v.Refuses s) ∧
      ∀ (conduct : Mapping → Conduct τ μ) (s : Session μ) (configuration : Mapping), s.Running →
        (v.conducted conduct).engine.analyze s configuration =
          (conduct configuration).analysis (v.conducted conduct) s := by
  refine ⟨Rests.orderly ?_, v.asksWhileRunning, fun s running => v.refuses running, ?_⟩
  · exact (Rests.initial v request).afterCalls calls
  · intro conduct s configuration running
    exact v.conducted_analyze conduct running configuration

end Verifier

end Covenant
