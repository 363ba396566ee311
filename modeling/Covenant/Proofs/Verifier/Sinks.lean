import Covenant.Engine.Scripted
import Covenant.Proofs.Files.Writing
import Covenant.Proofs.Verifier.Relations

/-!
# Sinks that fail

A failing sink is noted and nothing else: the run answers as it would have, leaves the same session up to the notes, and
the other sinks are given the same report. Two sequences of runs are compared whose engines give the same answers and
whose sinks fail as they like. An engine may look at the desk, so it is said what it sees there, and the sinks leave
that alone.
-/

namespace Covenant

variable {τ μ ω : Type}

/-! ## Engines that leave something alone -/

namespace Engine

structure Spares (view : View τ ω) (e : Engine τ μ) : Prop where
  analyze : ∀ s configuration desk, view.look ((e.analyze s configuration).ends desk).2 = view.look desk
  snapshot : ∀ m context className methodId desk,
    view.look ((e.snapshot m context className methodId).ends desk).2 = view.look desk

theorem Spares.related [Terminal] {view : View τ ω} {e : Engine τ μ} (h : e.Spares view) (seen : ω) :
    Related (fun d d' => d = d' ∧ view.look d = seen) e e where
  analyze s configuration := by
    rintro d _ ⟨rfl, still⟩
    exact .inl ⟨rfl, rfl, (h.analyze _ _ _).trans still⟩
  snapshot m context className methodId := by
    rintro d _ ⟨rfl, still⟩
    exact .inl ⟨rfl, rfl, (h.snapshot _ _ _ _ _).trans still⟩

end Engine

/-! ## Two runs -/

def Request.Checked (r : Request) : Prop := ∃ subject, r.subject = some subject ∧ subject.valid.isSome = true

theorem Subject.validate_checked {s t : Subject} {valid : Bool} {desk desk' : Desk τ}
    (h : s.validate.ends desk = (.ok (valid, t), desk')) : t.valid = some valid := by
  unfold Subject.validate at h
  split at h
  · rename_i answer known
    cases h
    exact known
  · split at h
    · cases h
      rfl
    · simp only [ends_bind_eq_ok] at h
      obtain ⟨path, _, -, _, _, -, _, _, -, answer, _, -, _, _, -, returned⟩ := h
      cases returned
      rfl

namespace Bench

/-- The benches have the same session and look the same. Their desks are the same until the compile check is made, which
may look at more. -/
structure Alike (view : View τ ω) (b b' : Bench τ μ) : Prop where
  session : b.session = b'.session
  look : view.look b.desk = view.look b'.desk
  checked : b.desk = b'.desk ∨ b.session.request.Checked

end Bench

namespace Verifier

theorem validSubject_checked {b last : Bench τ μ} {subject : Subject}
    (h : validSubject.ends b = (.ok subject, last)) : last.session.request.Checked := by
  obtain ⟨_, _, got, h⟩ := ends_bind_eq_ok.mp h
  cases got
  cases asked : b.session.request.subject with
  | none => simp [asked] at h
  | some s =>
    simp only [asked] at h
    split at h
    · simp at h
    · obtain ⟨⟨valid, t⟩, _, validated, h⟩ := ends_bind_eq_ok.mp h
      rw [ends_onDesk, Prod.mk.injEq] at validated
      have known : t.valid = some valid := Subject.validate_checked (Prod.ext validated.1 rfl)
      rw [ends_bind_ok (ends_setSession _ _)] at h
      split at h
      · cases h
        exact ⟨t, rfl, by rw [known]; rfl⟩
      · cases h

theorem validSubject_of_checked {s : Session μ} (checked : s.request.Checked) :
    ∃ r, ∀ desk : Desk τ, validSubject.ends ⟨s, desk⟩ = (r, ⟨s, desk⟩) := by
  obtain ⟨⟨subject, method, options, dependencies⟩, state, outcome, trace⟩ := s
  obtain ⟨subject, rfl, known⟩ := checked
  obtain ⟨valid, known⟩ := Option.isSome_iff_exists.mp known
  have kept (desk : Desk τ) : subject.validate.ends desk = (.ok (valid, subject), desk) := by
    unfold Subject.validate
    rw [known]
    rfl
  unfold validSubject
  simp only [ends_bind, ends_get]
  by_cases named : (method == "") = true
  · simp only [named, if_true, ends_bind, ends_throw]
    exact ⟨_, fun _ => rfl⟩
  · simp only [named, Bool.false_eq_true, if_false, ends_bind, ends_onDesk, kept, ends_setSession]
    cases valid with
    | true => exact ⟨_, fun _ => rfl⟩
    | false => exact ⟨_, fun _ => rfl⟩

theorem validSubject_alike {view : View τ ω} {b b' : Bench τ μ} (alike : b.Alike view b') :
    (validSubject.ends b).1 = (validSubject.ends b').1 ∧
      (validSubject.ends b).2.Alike view (validSubject.ends b').2 := by
  obtain ⟨s, desk⟩ := b
  obtain ⟨s', desk'⟩ := b'
  obtain ⟨same, look, checked⟩ := alike
  obtain rfl : s = s' := same
  -- the check may read any file: unless its answer is known, the desks have to be the same
  rcases checked with same | checked
  · obtain rfl : desk = desk' := same
    exact ⟨rfl, rfl, rfl, .inl rfl⟩
  · obtain ⟨r, found⟩ := validSubject_of_checked (τ := τ) checked
    rw [found, found]
    exact ⟨rfl, rfl, look, .inr checked⟩

end Verifier

namespace Engine

open Verifier

variable [Terminal]

theorem conclude_of_invalid (e : Engine τ μ) {b last : Bench τ μ} {f : Fault}
    (invalid : validSubject.ends b = (.error f, last)) : e.conclude.ends b = (.error f, last) := by
  rw [conclude, ends_bind_error invalid]

theorem conclude_of_undecided {e : Engine τ μ} {b last : Bench τ μ} {subject : Subject} {f : Fault} {desk : Desk τ}
    (valid : validSubject.ends b = (.ok subject, last))
    (undecided : (e.ask last.session subject).ends last.desk = (.error f, desk)) :
    e.conclude.ends b = (.error f, ⟨last.session, desk⟩) := by
  rw [conclude, ends_bind_ok valid, ends_bind_ok (ends_get _), ends_bind_error (ends_onDesk_error undecided)]

theorem conclude_of_decided {e : Engine τ μ} {b last : Bench τ μ} {subject : Subject} {desk : Desk τ}
    {concluded : Outcome μ × Option Trace} (valid : validSubject.ends b = (.ok subject, last))
    (decided : (e.ask last.session subject).ends last.desk = (.ok concluded, desk)) :
    e.conclude.ends b = (.ok concluded, ⟨last.session.finish concluded.1 concluded.2, desk⟩) := by
  rw [conclude, ends_bind_ok valid, ends_bind_ok (ends_get _), ends_bind_ok (ends_onDesk_ok decided),
    ends_bind_ok (ends_setSession _ _), ends_pure]

theorem Alike.conclude {view : View τ ω} {e e' : Engine τ μ} (same : e.Alike view e') {b b' : Bench τ μ}
    (alike : b.Alike view b') : Run.Matches (Bench.Alike view) (e.conclude.ends b) (e'.conclude.ends b') := by
  obtain ⟨found, after⟩ := validSubject_alike alike
  cases valid : validSubject.ends b with
  | mk r last =>
    cases valid' : validSubject.ends b' with
    | mk r' last' =>
      rw [valid, valid'] at found after
      obtain rfl : r = r' := found
      cases r with
      | error f =>
        rw [conclude_of_invalid e valid, conclude_of_invalid e' valid']
        exact .inl ⟨rfl, after⟩
      | ok subject =>
        -- the check has its answer now, and the engines go by what they see
        have checked := validSubject_checked valid
        obtain ⟨session, look, -⟩ := after
        rcases same.ask view.keptBySaying last.session subject _ _ look with agree | stopped | stopped
        · obtain ⟨r, desk, desk', asked, asked', look⟩ := agree.split
          rw [session] at asked'
          cases r with
          | error f =>
            rw [conclude_of_undecided valid asked, conclude_of_undecided valid' asked']
            exact .inl ⟨rfl, session, look, .inr checked⟩
          | ok concluded =>
            rw [conclude_of_decided valid asked, conclude_of_decided valid' asked', session]
            exact .inl ⟨rfl, rfl, look, .inr (session ▸ checked)⟩
        · obtain ⟨f, desk, undecided, refused⟩ := stopped.split
          exact .inr (.inl ⟨f, by rw [conclude_of_undecided valid undecided], refused⟩)
        · obtain ⟨f, desk, undecided, refused⟩ := stopped.split
          rw [session] at undecided
          exact .inr (.inr ⟨f, by rw [conclude_of_undecided valid' undecided], refused⟩)

theorem conclude_ok {e : Engine τ μ} {request : Request} {desk : Desk τ} {concluded : Outcome μ × Option Trace}
    {last : Bench τ μ} (h : e.conclude.ends ⟨.asking request, desk⟩ = (.ok concluded, last)) :
    last.session = (Session.asking last.session.request).finish concluded.1 concluded.2 ∧
      last.session.request.Checked := by
  obtain ⟨valid, checkedDesk, r, checked, -⟩ := validSubject_ends (⟨.asking request, desk⟩ : Bench τ μ)
  obtain ⟨subject, middle, found, h⟩ := ends_bind_eq_ok.mp h
  rw [ends_bind_ok (ends_get _)] at h
  obtain ⟨answer, _, asked, h⟩ := ends_bind_eq_ok.mp h
  rw [ends_bind_ok (ends_setSession _ _), ends_pure] at h
  have known := validSubject_checked found
  rw [checked] at found
  cases found
  cases h
  exact ⟨rfl, known⟩

end Engine

def Session.unnoted (s : Session μ) : Session μ :=
  { s with outcome := s.outcome.map fun outcome => { outcome with diagnostics := [] } }

def Bench.unnoted (b : Bench τ μ) : Bench τ μ := { b with session := b.session.unnoted }

theorem Session.request_abandon (s : Session μ) : s.abandon.request = s.request := by
  unfold abandon
  split <;> rfl

namespace Verifier

def SinksSpare (v : Verifier τ μ) (view : View τ ω) : Prop := ∀ sink ∈ v.sinks, sink.Spares view

section

variable [Terminal]

def Tolerates (v : Verifier τ μ) (b : Bench τ μ) : Prop :=
  ∀ c, v.Concludes b c → Report.Tolerated (v.receipts c)

theorem tolerates {v : Verifier τ μ} {b : Bench τ μ} (h : ∀ sink ∈ v.sinks, sink.Tolerated) : v.Tolerates b :=
  fun _ _ => Report.tolerated_deliver h _ _

theorem concludes_of_conclude {v : Verifier τ μ} {b last : Bench τ μ} {concluded : Outcome μ × Option Trace}
    (idle : b.session.state ≠ .running)
    (h : v.engine.conclude.ends ⟨.asking b.session.request, b.desk⟩ = (.ok concluded, last)) :
    v.Concludes b ⟨last.session.request, concluded.1, concluded.2, last.desk⟩ := by
  refine ⟨idle, h.trans ?_⟩
  rw [← (Engine.conclude_ok h).1]

def afterRuns (v : Nat → Verifier τ μ) (b : Bench τ μ) : Nat → Bench τ μ
  | 0 => b
  | n + 1 => ((v n).verify.ends (afterRuns v b n)).2

def StopsBefore (v : Nat → Verifier τ μ) (b : Bench τ μ) (n : Nat) : Prop :=
  ∃ k < n, Terminal.Stops ((v k).verify.ends (afterRuns v b k)).1

section

variable {view : View τ ω} {v w : Nat → Verifier τ μ} {b : Bench τ μ}

theorem StopsBefore.mono {k n : Nat} (h : StopsBefore v b k) (le : k ≤ n) : StopsBefore v b n := by
  obtain ⟨j, before, stopped⟩ := h
  exact ⟨j, Nat.lt_of_lt_of_le before le, stopped⟩

end

end

end Verifier

/-! ## What is kept of the reports -/

def Request.Spares (view : View τ ω) (r : Request) : Prop :=
  ∀ valid subject, (r.remembering valid).subject = some subject →
    ∀ desk, view.look (subject.validate.ends desk).2 = view.look desk

theorem Request.Spares.remembering {view : View τ ω} {r : Request} (h : r.Spares view) (known : Option Bool) :
    (r.remembering known).Spares view := by
  intro valid subject
  rw [Request.remembering_remembering]
  exact h valid subject

theorem Request.Spares.subject {view : View τ ω} {r : Request} (h : r.Spares view) {subject : Subject}
    (asked : r.subject = some subject) (desk : Desk τ) : view.look (subject.validate.ends desk).2 = view.look desk := by
  refine h (r.subject.bind (·.valid)) subject ?_ desk
  rw [Request.remembering_self, asked]

namespace Verifier

section

variable [Terminal]

theorem conclude_spares_of_checked {view : View τ ω} {e : Engine τ μ} {b : Bench τ μ} (engine : e.Spares view)
    (checked : view.look (validSubject.ends b).2.desk = view.look b.desk)
    (unstopped : ¬ Terminal.Stops (e.conclude.ends b).1) :
    view.look (e.conclude.ends b).2.desk = view.look b.desk := by
  cases valid : validSubject.ends b with
  | mk r last =>
    rw [valid] at checked
    cases r with
    | error f => rwa [Engine.conclude_of_invalid e valid]
    | ok subject =>
      have stops {f : Fault} {desk : Desk τ}
          (undecided : (e.ask last.session subject).ends last.desk = (.error f, desk))
          (refused : Terminal.Refuses f) : Terminal.Stops (e.conclude.ends b).1 :=
        ⟨f, by rw [Engine.conclude_of_undecided valid undecided], refused⟩
      rcases (engine.related (view.look b.desk)).ask (view.keptBySaying_still _) last.session subject last.desk
        last.desk ⟨rfl, checked⟩ with still | stopped | stopped
      · cases asked : (e.ask last.session subject).ends last.desk with
        | mk r desk =>
          rw [asked] at still
          cases r with
          | error f =>
            rw [Engine.conclude_of_undecided valid asked]
            exact still.2.2
          | ok concluded =>
            rw [Engine.conclude_of_decided valid asked]
            exact still.2.2
      all_goals
        obtain ⟨f, desk, undecided, refused⟩ := stopped.split
        exact absurd (stops undecided refused) unstopped

def Stores (v : Verifier τ μ) (b : Bench τ μ) (sink : Sink τ) (text : String) : Prop :=
  ∃ c, v.Concludes b c ∧ c.text = text ∧ (sink, none) ∈ v.receipts c

structure Guards (v : Verifier τ μ) (view : View τ ω) (target : Sink τ) : Prop where
  engine : v.engine.Spares view
  sinks : ∀ sink ∈ v.sinks, sink = target ∨ sink.Spares view

section

variable {view : View τ ω} {target : Sink τ} {held : String → ω} {torn : Desk τ → String → ω → Prop}

def Tears (v : Verifier τ μ) (b : Bench τ μ) (target : Sink τ) (torn : Desk τ → String → ω → Prop) (seen : ω) : Prop :=
  ∃ c desk, v.Concludes b c ∧ Report.Given c.text v.sinks c.desk target desk ∧ torn desk c.text seen

theorem Stores.look {v : Verifier τ μ} {b : Bench τ μ} {text : String} (stores : v.Stores b target text)
    (replaces : target.Replaces view held torn) (guards : v.Guards view target) (tolerates : v.Tolerates b)
    (unstopped : ¬ Terminal.Stops (v.verify.ends b).1) :
    view.look (v.verify.ends b).2.desk = held text ∨ v.Tears b target torn (view.look (v.verify.ends b).2.desk) := by
  obtain ⟨c, concludes, rfl, worked⟩ := stores
  rw [(concludes.verify (tolerates c concludes)).resolve_right unstopped]
  rcases Report.look_deliver_target replaces guards.sinks c.text c.desk with
    ⟨-, absent⟩ | ⟨stored, -⟩ | ⟨desk, given, broken⟩
  · exact absurd worked absent
  · exact .inl stored
  · exact .inr ⟨c, desk, concludes, given, broken⟩

variable {v : Nat → Verifier τ μ} {b : Bench τ μ}

end

end

end Verifier

/-! ## Sinks and scripts -/

namespace View

def file (path : String) : View τ (Option String) where
  look desk := desk.files.textAt? path
  quiet _ _ := rfl

def rest : View τ τ where
  look desk := desk.rest
  quiet _ _ := rfl

end View

namespace Sink

theorem write_file {path text : String} {desk desk' : Desk τ} {r : Except Fault Unit}
    (h : ((file (.str path)).write text).ends desk = (r, desk')) :
    (∃ files breaks, (∀ b rest, desk.breaks ≠ some b :: rest) ∧ desk.files.write path text = .ok files ∧ r = .ok () ∧
        desk' = { desk with files := files, breaks := breaks }) ∨
      (∃ files b breaks, desk.breaks = some b :: breaks ∧ desk.files.write path (b.part text) = .ok files ∧
        r = .error b.fault ∧ desk' = { desk with files := files, breaks := breaks }) ∨
      ∃ f written, desk.files.write path written = .error f ∧ r = .error f ∧ desk' = desk := by
  change (writeFile (.str path) text).ends desk = _ at h
  rw [writeFile, ends_bind_ok (ends_get _)] at h
  split at h
  · rename_i b breaks next
    cases written : desk.files.write path (b.part text) with
    | ok files =>
      rw [written] at h
      cases h
      exact .inr (.inl ⟨files, b, breaks, next, written, rfl, rfl⟩)
    | error f =>
      rw [written] at h
      cases h
      exact .inr (.inr ⟨f, _, written, rfl, rfl⟩)
  · rename_i whole
    cases written : desk.files.write path text with
    | ok files =>
      rw [written] at h
      cases h
      exact .inl ⟨files, _, whole, rfl, rfl, rfl⟩
    | error f =>
      rw [written] at h
      cases h
      exact .inr (.inr ⟨f, _, written, rfl, rfl⟩)

theorem file_tolerated (path : String) : (file (.str path) : Sink τ).Tolerated := by
  intro text desk f desk' failed
  obtain ⟨_, _, _, _, impossible, _⟩ | ⟨_, b, _, _, _, same, _⟩ | ⟨g, _, written, same, _⟩ := write_file failed
  · cases impossible
  · cases same
    rw [Break.fault]
    cases b.encodes <;> rfl
  cases same
  unfold FileTree.write at written
  split at written
  · cases written
    rfl
  · split at written
    all_goals cases written
    · rfl
    · rfl
    · rename_i e found
      cases e <;> rfl

end Sink

namespace Verifier

variable [Terminal]

end Verifier

end Covenant
