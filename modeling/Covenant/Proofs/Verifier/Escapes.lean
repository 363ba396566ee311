import Covenant.Proofs.Verifier.Sessions
import Covenant.Proofs.Verifier.Sinks

/-!
# Faults that escape a run

A run that raises before its report is due leaves nothing of itself. The outcome is stored before the report is written,
so a sink whose fault is not of the kinds that are noted breaks the run off with its outcome kept: the session is then
that of a finished run, although the caller has been given no answer.
-/

namespace Covenant

variable {τ μ : Type}

/-! ## Reports that are stopped -/

namespace Report

/-- How a report is stopped: some sinks are given it in turn, and the next one raises a fault that is not only noted. -/
inductive Stops (text : String) (f : Fault) : List (Sink τ) → Desk τ → List (Receipt τ) → Desk τ → Prop
  | here {sink : Sink τ} {rest : List (Sink τ)} {desk last : Desk τ}
      (raised : (sink.write text).ends desk = (.error f, last)) (unnoted : isSinkFailure f = false) :
      Stops text f (sink :: rest) desk [] last
  | later {sink : Sink τ} {rest : List (Sink τ)} {desk last : Desk τ} {receipts : List (Receipt τ)}
      (noted : ∀ g, (sink.give text desk).1 = some g → isSinkFailure g = true)
      (others : Stops text f rest (sink.give text desk).2 receipts last) :
      Stops text f (sink :: rest) desk ((sink, (sink.give text desk).1) :: receipts) last

theorem writeAll_stops {text : String} {f : Fault} {sinks : List (Sink τ)} {desk last : Desk τ}
    {receipts : List (Receipt τ)} (h : Stops text f sinks desk receipts last) (diagnostics : List String) :
    (writeAll text sinks).ends ⟨diagnostics, desk⟩ = (.error f, ⟨diagnostics ++ notes receipts, last⟩) := by
  induction h generalizing diagnostics with
  | @here sink rest desk last raised unnoted =>
    have stopped : (writeTo sink text).ends ⟨diagnostics, desk⟩ = (.error f, ⟨diagnostics, last⟩) := by
      simp only [writeTo, ends_tryCatch, ends_bind, ends_onDesk, raised, unnoted, Bool.false_eq_true, if_false,
        ends_throw]
    rw [writeAll, ends_bind_error stopped, notes, List.filterMap_nil, List.append_nil]
  | @later sink rest desk last receipts noted others ih =>
    rw [writeAll, ends_bind_ok (writeTo_give noted).ends_eq, ends_bind_error (ih _), List.append_assoc, ← notes_cons]

theorem tolerated_or_stops (text : String) (sinks : List (Sink τ)) (desk : Desk τ) :
    Tolerated (deliver text sinks desk).1 ∨ ∃ f receipts last, Stops text f sinks desk receipts last := by
  induction sinks generalizing desk with
  | nil => exact .inl nofun
  | cons sink rest ih =>
    by_cases noted : ∀ g, (sink.give text desk).1 = some g → isSinkFailure g = true
    · rcases ih (sink.give text desk).2 with tolerated | ⟨f, receipts, last, stops⟩
      · left
        intro receipt member
        rw [deliver] at member
        rcases List.mem_cons.mp member with rfl | member
        · exact noted
        · exact tolerated receipt member
      · exact .inr ⟨f, _, last, .later noted stops⟩
    · -- this is the first sink whose fault is not only noted
      right
      push Not at noted
      obtain ⟨f, failed, unnoted⟩ := noted
      cases written : (sink.write text).ends desk with
      | mk r last =>
        simp only [Sink.give, written] at failed
        cases r with
        | ok _ => cases failed
        | error g =>
          cases failed
          exact ⟨f, [], last, .here written (Bool.eq_false_iff.mpr unnoted)⟩

theorem Stops.raised {text : String} {f : Fault} {sinks : List (Sink τ)} {desk last : Desk τ}
    {receipts : List (Receipt τ)} (h : Stops text f sinks desk receipts last) :
    isSinkFailure f = false ∧ ∃ sink ∈ sinks, ∃ before after, (sink.write text).ends before = (.error f, after) := by
  induction h with
  | @here sink rest desk last raised unnoted => exact ⟨unnoted, sink, List.mem_cons_self, desk, last, raised⟩
  | later noted others ih =>
    obtain ⟨unnoted, sink, member, raised⟩ := ih
    exact ⟨unnoted, sink, List.mem_cons_of_mem _ member, raised⟩

end Report

/-! ## What is left of a run -/

namespace Verifier

structure Reset (v : Verifier τ μ) (b : Bench τ μ) : Prop where
  state : b.session.state = .notStarted
  outcome : b.session.outcome = none
  trace : b.session.trace = none
  refuses : ∀ context className method,
    (v.counterexample context className method).ends b = (.error (.ofUsage .notPerformed), b)

theorem counterexample_notStarted (v : Verifier τ μ) {b : Bench τ μ} (state : b.session.state = .notStarted)
    (context : Option (List String)) (className method : Option String) :
    (v.counterexample context className method).ends b = (.error (.ofUsage .notPerformed), b) := by
  simp only [counterexample, ends_bind, ends_get, state, ends_throw]

theorem conclude_error {e : Engine τ μ} {request : Request} {desk : Desk τ} {f : Fault} {last : Bench τ μ}
    (h : e.conclude.ends ⟨.asking request, desk⟩ = (.error f, last)) :
    ∃ valid, last.session = .asking (request.remembering valid) := by
  obtain ⟨valid, checkedDesk, r, checked, -⟩ := validSubject_ends (⟨.asking request, desk⟩ : Bench τ μ)
  change validSubject.ends _ = (r, (⟨.asking (request.remembering valid), checkedDesk⟩ : Bench τ μ)) at checked
  cases r with
  | error g =>
    rw [Engine.conclude_of_invalid e checked] at h
    cases h
    exact ⟨valid, rfl⟩
  | ok subject =>
    cases asked : (e.ask (.asking (request.remembering valid)) subject).ends checkedDesk with
    | mk r later =>
      cases r with
      | error g =>
        rw [Engine.conclude_of_undecided checked asked] at h
        cases h
        exact ⟨valid, rfl⟩
      | ok concluded =>
        rw [Engine.conclude_of_decided checked asked] at h
        cases h

theorem reset_of_broken {v : Verifier τ μ} {b last : Bench τ μ} {f : Fault}
    (broken : v.engine.conclude.ends ⟨.asking b.session.request, b.desk⟩ = (.error f, last)) :
    v.Reset { last with session := last.session.abandon } := by
  obtain ⟨valid, session⟩ := conclude_error broken
  have abandoned : last.session.abandon = ⟨b.session.request.remembering valid, .notStarted, none, none⟩ := by
    rw [session]
    rfl
  rw [abandoned]
  exact ⟨rfl, rfl, rfl, v.counterexample_notStarted rfl⟩

theorem Concludes.verify_stops {v : Verifier τ μ} {b : Bench τ μ} {c : Conclusion τ μ} (h : v.Concludes b c)
    {f : Fault} {receipts : List (Report.Receipt τ)} {last : Desk τ}
    (stops : Report.Stops c.text f v.sinks c.desk receipts last) :
    v.verify.ends b = (.error f, ⟨c.session (Report.notes receipts), last⟩) := by
  have emitted : StateT.run (ExceptT.run (Report.emit v.sinks c.outcome c.trace)) ⟨c.outcome.diagnostics, c.desk⟩ =
      (.error f, ⟨c.outcome.diagnostics ++ Report.notes receipts, last⟩) :=
    Report.writeAll_stops stops c.outcome.diagnostics
  have reported : (v.report c.outcome c.trace).ends ⟨(Session.asking c.request).finish c.outcome c.trace, c.desk⟩ =
      (.error f, ⟨c.session (Report.notes receipts), last⟩) := by
    simp only [report, ends_bind, ends_get, emitted, ends_set, ends_throw]
    rfl
  have attempted : v.attempt.ends ⟨.asking b.session.request, b.desk⟩ =
      (.error f, ⟨c.session (Report.notes receipts), last⟩) := by
    rw [attempt_eq, ends_bind_ok h.concluded, ends_bind_error reported]
  have kept : (c.session (Report.notes receipts)).abandon = c.session (Report.notes receipts) :=
    Session.abandon_finish _ _ _
  rw [v.verify_idle h.idle, attempted]
  simp only [kept]

theorem Concludes.stops_of_error {v : Verifier τ μ} {b last : Bench τ μ} {c : Conclusion τ μ} {f : Fault}
    (h : v.Concludes b c) (raised : v.verify.ends b = (.error f, last)) :
    ∃ receipts, Report.Stops c.text f v.sinks c.desk receipts last.desk ∧
      last.session = c.session (Report.notes receipts) := by
  rcases Report.tolerated_or_stops c.text v.sinks c.desk with tolerated | ⟨g, receipts, desk, stops⟩
  · rw [(h.verify tolerated).ends_eq] at raised
    cases raised
  · rw [h.verify_stops stops] at raised
    cases raised
    exact ⟨receipts, stops, rfl⟩

theorem not_reset_session (v : Verifier τ μ) (c : Conclusion τ μ) (notes : List String) {last : Bench τ μ}
    (kept : last.session = c.session notes) : ¬ v.Reset last := by
  intro reset
  have stored := reset.outcome
  rw [kept] at stored
  cases stored

/-- A fault that escapes a run resets the verifier exactly if it is raised before the report is due. A run that raises
later has been stopped by a sink and keeps its outcome, with the notes on the sinks before that one. -/
theorem escaping_fault_resets_iff_unreported (v : Verifier τ μ) {b last : Bench τ μ} {f : Fault}
    (accepted : b.session.state ≠ .running) (raised : v.verify.ends b = (.error f, last)) :
    (v.Reset last ↔ ∀ c, ¬ v.Concludes b c) ∧
      (∀ c, v.Concludes b c → ∃ receipts, Report.Stops c.text f v.sinks c.desk receipts last.desk ∧
        last.session = c.session (Report.notes receipts)) ∧
      ((∀ sink ∈ v.sinks, sink.Tolerated) → v.Reset last) := by
  have reset_of_unreported : (∀ c, ¬ v.Concludes b c) → v.Reset last := by
    intro unreported
    cases concluded : v.engine.conclude.ends ⟨.asking b.session.request, b.desk⟩ with
    | mk r middle =>
      cases r with
      | ok answer => exact absurd (concludes_of_conclude accepted concluded) (unreported _)
      | error g =>
        rw [verify_broken accepted concluded] at raised
        cases raised
        exact reset_of_broken concluded
  refine ⟨⟨fun reset c concludes => ?_, reset_of_unreported⟩, fun c concludes => concludes.stops_of_error raised,
    fun tolerated => reset_of_unreported fun c concludes => ?_⟩
  · obtain ⟨receipts, -, kept⟩ := concludes.stops_of_error raised
    exact v.not_reset_session c _ kept reset
  · obtain ⟨receipts, stops, -⟩ := concludes.stops_of_error raised
    obtain ⟨unnoted, sink, member, before, after, raised⟩ := stops.raised
    have noted := tolerated sink member _ _ _ _ raised
    rw [unnoted] at noted
    cases noted

end Verifier

def valveRequest : Request :=
  ⟨some { sourceRoot := "src", className := "Valve", check := .answer true }, "shut", [], .null⟩

def valveShown : Snapshot := { entries := [(.str "turns_0", .leaf (.int 1))] }

def valveVerifier (sink : Sink Script) : Verifier Script ScriptModel := ⟨Script.player, [sink]⟩

def refutedValve : Bench Script ScriptModel where
  session := ⟨valveRequest, .refuted, some ⟨.refuted (some (.fixed 0 valveShown)), []⟩, some ⟨[("turns", "1")]⟩⟩
  desk := { rest := { lines := [.fault ⟨.runtime, "solver crashed", []⟩] } }

theorem valve_reset :
    ((valveVerifier .file).verify.ends refutedValve).1 = .error ⟨.runtime, "solver crashed", []⟩ ∧
      (valveVerifier .file).Reset ((valveVerifier .file).verify.ends refutedValve).2 := by
  have accepted : refutedValve.session.state ≠ .running := by decide
  have raised : (valveVerifier .file).verify.ends refutedValve =
      (.error ⟨.runtime, "solver crashed", []⟩, ((valveVerifier .file).verify.ends refutedValve).2) := rfl
  refine ⟨rfl, (Verifier.escaping_fault_resets_iff_unreported _ accepted raised).2.2 ?_⟩
  intro sink member
  obtain rfl := List.mem_singleton.mp member
  exact Sink.file_tolerated _

def printerFire : Fault := ⟨.runtime, "printer on fire", []⟩

def shownValve : Bench Script ScriptModel where
  session := { request := valveRequest }
  desk := { rest := { lines := [.fixed true valveShown] } }

theorem stopped_report_keeps_refutation :
    let v := valveVerifier (.broken "Printer()" printerFire)
    (v.verify.ends shownValve).1 = .error printerFire ∧
      (v.verify.ends shownValve).2.session.state = .refuted ∧
      ((v.counterexample none none none).ends (v.verify.ends shownValve).2).1 = .ok ⟨[("turns", "1")]⟩ := by
  decide +kernel

end Covenant
