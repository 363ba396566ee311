import Mathlib.Data.List.Basic
import Covenant.Proofs.Verifier.Runs

namespace Covenant

variable {σ τ μ ω α β : Type}

/-! ## Looking at a desk -/

/-- A look at the desk that does not show the log. -/
structure View (τ ω : Type) where
  look : Desk τ → ω
  quiet : ∀ desk log, look { desk with log := log } = look desk

/-! ## One report -/

namespace Sink

structure Records (view : View τ ω) (record : String → ω → ω) (sink : Sink τ) : Prop where
  written : ∀ text desk desk', (sink.write text).ends desk = (.ok (), desk') →
    view.look desk' = record text (view.look desk)
  failed : ∀ text desk f desk', (sink.write text).ends desk = (.error f, desk') → view.look desk' = view.look desk

def Spares (view : View τ ω) (sink : Sink τ) : Prop := sink.Records view fun _ seen => seen

/-- What a sink does with a text: its fault, if it has one, and the desk, where a fault is written to the log. -/
def give (sink : Sink τ) (text : String) (desk : Desk τ) : Option Fault × Desk τ :=
  match (sink.write text).ends desk with
  | (.ok _, desk) => (none, desk)
  | (.error f, desk) =>
    (some f, { desk with log := desk.log.heard [.entry .warning desk.log.indent (Report.failureNote sink f)] })

theorem Records.give {view : View τ ω} {record : String → ω → ω} {sink : Sink τ} (h : sink.Records view record)
    (text : String) (desk : Desk τ) :
    view.look (sink.give text desk).2 =
      if (sink.give text desk).1 = none then record text (view.look desk) else view.look desk := by
  unfold Sink.give
  cases written : (sink.write text).ends desk with
  | mk r desk' =>
    cases r with
    | ok _ => exact h.written text desk desk' written
    | error f =>
      rw [if_neg (Option.some_ne_none f)]
      exact (view.quiet _ _).trans (h.failed text desk f desk' written)

/-- A write that works replaces what is looked at. One that fails leaves it as it was, or breaks off and leaves what
`torn` says. -/
structure Replaces (view : View τ ω) (held : String → ω) (torn : Desk τ → String → ω → Prop)
    (sink : Sink τ) : Prop where
  written : ∀ text desk desk', (sink.write text).ends desk = (.ok (), desk') → view.look desk' = held text
  failed : ∀ text desk f desk', (sink.write text).ends desk = (.error f, desk') →
    view.look desk' = view.look desk ∨ torn desk text (view.look desk')

theorem Replaces.give {view : View τ ω} {held : String → ω} {torn : Desk τ → String → ω → Prop} {sink : Sink τ}
    (h : sink.Replaces view held torn) (text : String) (desk : Desk τ) :
    ((sink.give text desk).1 = none → view.look (sink.give text desk).2 = held text) ∧
      ∀ f, (sink.give text desk).1 = some f →
        view.look (sink.give text desk).2 = view.look desk ∨ torn desk text (view.look (sink.give text desk).2) := by
  unfold Sink.give
  cases written : (sink.write text).ends desk with
  | mk r desk' =>
    cases r with
    | ok _ => exact ⟨fun _ => h.written text desk desk' written, nofun⟩
    | error f =>
      refine ⟨nofun, fun g _ => ?_⟩
      rw [view.quiet]
      exact h.failed text desk f desk' written

def Tolerated (sink : Sink τ) : Prop :=
  ∀ text desk f desk', (sink.write text).ends desk = (.error f, desk') → Report.isSinkFailure f = true

theorem Tolerated.give {sink : Sink τ} (h : sink.Tolerated) (text : String) (desk : Desk τ) {f : Fault}
    (failed : (sink.give text desk).1 = some f) : Report.isSinkFailure f = true := by
  unfold Sink.give at failed
  cases written : (sink.write text).ends desk with
  | mk r desk' =>
    rw [written] at failed
    cases r with
    | ok _ => cases failed
    | error f =>
      cases failed
      exact h text desk f desk' written

end Sink

namespace Report

abbrev Receipt (τ : Type) := Sink τ × Option Fault

def deliver (text : String) : List (Sink τ) → Desk τ → List (Receipt τ) × Desk τ
  | [], desk => ([], desk)
  | sink :: rest, desk =>
    let given := sink.give text desk
    let others := deliver text rest given.2
    ((sink, given.1) :: others.1, others.2)

def notes (receipts : List (Receipt τ)) : List String :=
  receipts.filterMap fun receipt => receipt.2.map (failureNote receipt.1)

def received (receipts : List (Receipt τ)) : List (Sink τ) :=
  (receipts.filter (·.2.isNone)).map (·.1)

theorem notes_cons (receipt : Receipt τ) (rest : List (Receipt τ)) :
    notes (receipt :: rest) = notes [receipt] ++ notes rest :=
  List.filterMap_append (l := [receipt])

def Tolerated (receipts : List (Receipt τ)) : Prop :=
  ∀ receipt ∈ receipts, ∀ f, receipt.2 = some f → isSinkFailure f = true

theorem tolerated_deliver {sinks : List (Sink τ)} (h : ∀ sink ∈ sinks, sink.Tolerated) (text : String) (desk : Desk τ) :
    Tolerated (deliver text sinks desk).1 := by
  induction sinks generalizing desk with
  | nil => exact nofun
  | cons sink rest ih =>
    intro receipt member f failed
    rw [deliver] at member
    rcases List.mem_cons.mp member with rfl | member
    · exact (h sink List.mem_cons_self).give text desk failed
    · exact ih (fun other mem => h other (List.mem_cons_of_mem _ mem)) _ receipt member f failed

@[simp] theorem ends_onDesk (act : Run (Desk τ) α) (n : Notes τ) :
    (Notes.onDesk act).ends n = ((act.ends n.desk).1, { n with desk := (act.ends n.desk).2 }) := by
  have ran : StateT.run (ExceptT.run act) n.desk = act.ends n.desk := rfl
  simp only [Notes.onDesk, ends_bind, ends_get, ran]
  cases act.ends n.desk with
  | mk r desk => cases r <;> rfl

section

variable [Terminal]

theorem writeTo_give {sink : Sink τ} {text : String} {n : Notes τ}
    (tolerated : ∀ f, (sink.give text n.desk).1 = some f → isSinkFailure f = true) :
    (writeTo sink text).Gives (sink.give text n.desk).1.isNone n
      ⟨n.diagnostics ++ notes [(sink, (sink.give text n.desk).1)], (sink.give text n.desk).2⟩ := by
  unfold Sink.give at tolerated ⊢
  rw [Run.Gives, writeTo, ends_tryCatch, ends_bind, ends_onDesk]
  cases written : (sink.write text).ends n.desk with
  | mk r desk =>
    rw [written] at tolerated
    cases r with
    | ok _ => exact .inl (by simp [notes])
    | error f =>
      -- the fault is noted, unless the terminal refuses the note
      simp only [tolerated f rfl, if_true]
      have said : (Desk.onLog (Log.say .warning (failureNote sink f))).Gives () desk _ :=
        (Log.say_gives .warning (failureNote sink f) desk.log).onLog
      have noted : (Notes.onDesk (Desk.say .warning (failureNote sink f))).Gives () ⟨n.diagnostics, desk⟩
          ⟨n.diagnostics, { desk with
            log := desk.log.heard [.entry .warning desk.log.indent (failureNote sink f)] }⟩ := by
        rcases said with said | stopped
        · exact .inl (by rw [ends_onDesk, Desk.say, said])
        · exact .inr (by rwa [ends_onDesk, Desk.say])
      exact noted.bind (.of_ends rfl)

theorem writeAll_deliver {text : String} {sinks : List (Sink τ)} {n : Notes τ}
    (tolerated : Tolerated (deliver text sinks n.desk).1) :
    (writeAll text sinks).Gives ((deliver text sinks n.desk).1.all (·.2.isNone)) n
      ⟨n.diagnostics ++ notes (deliver text sinks n.desk).1, (deliver text sinks n.desk).2⟩ := by
  induction sinks generalizing n with
  | nil => exact .of_ends (by simp [writeAll, deliver, notes])
  | cons sink rest ih =>
    rw [deliver] at tolerated
    have here : ∀ f, (sink.give text n.desk).1 = some f → isSinkFailure f = true :=
      tolerated _ List.mem_cons_self
    have others := ih (n := ⟨n.diagnostics ++ notes [(sink, (sink.give text n.desk).1)], (sink.give text n.desk).2⟩)
      fun receipt member => tolerated receipt (List.mem_cons_of_mem _ member)
    refine .bind (writeTo_give here) (.bind others (.of_ends ?_))
    rw [ends_pure, deliver, List.append_assoc, ← notes_cons]
    rfl

end

theorem look_deliver {view : View τ ω} {record : Sink τ → String → ω → ω} {sinks : List (Sink τ)}
    (records : ∀ sink ∈ sinks, sink.Records view (record sink)) (text : String) (desk : Desk τ) :
    view.look (deliver text sinks desk).2 =
      (received (deliver text sinks desk).1).foldl (fun seen sink => record sink text seen) (view.look desk) := by
  induction sinks generalizing desk with
  | nil => rfl
  | cons sink rest ih =>
    have here := (records sink List.mem_cons_self).give text desk
    rw [deliver, ih fun other member => records other (List.mem_cons_of_mem _ member), here]
    cases fault : (sink.give text desk).1 with
    | none => simp [received]
    | some f => simp [received]

theorem look_deliver_spared {view : View τ ω} {sinks : List (Sink τ)} (spared : ∀ sink ∈ sinks, sink.Spares view)
    (text : String) (desk : Desk τ) : view.look (deliver text sinks desk).2 = view.look desk := by
  rw [@look_deliver _ _ view (fun _ _ seen => seen) sinks spared]
  exact List.foldl_fixed _

inductive Given (text : String) : List (Sink τ) → Desk τ → Sink τ → Desk τ → Prop
  | here (sink : Sink τ) (rest : List (Sink τ)) (desk : Desk τ) : Given text (sink :: rest) desk sink desk
  | later {sink other : Sink τ} {rest : List (Sink τ)} {desk desk' : Desk τ}
      (given : Given text rest (sink.give text desk).2 other desk') : Given text (sink :: rest) desk other desk'

theorem look_deliver_target {view : View τ ω} {target : Sink τ} {held : String → ω} {torn : Desk τ → String → ω → Prop}
    {sinks : List (Sink τ)} (replaces : target.Replaces view held torn)
    (others : ∀ sink ∈ sinks, sink = target ∨ sink.Spares view) (text : String) (desk : Desk τ) :
    (view.look (deliver text sinks desk).2 = view.look desk ∧ (target, none) ∉ (deliver text sinks desk).1) ∨
      (view.look (deliver text sinks desk).2 = held text ∧ (target, none) ∈ (deliver text sinks desk).1) ∨
      ∃ desk', Given text sinks desk target desk' ∧ torn desk' text (view.look (deliver text sinks desk).2) := by
  induction sinks generalizing desk with
  | nil => exact .inl ⟨rfl, nofun⟩
  | cons sink rest ih =>
    rw [deliver, List.mem_cons]
    -- the same sink may stand in the list again, and then its last write counts
    rcases ih (fun other member => others other (List.mem_cons_of_mem _ member)) (sink.give text desk).2 with
      ⟨unchanged, absent⟩ | ⟨stored, member⟩ | ⟨desk', given, broken⟩
    · rw [unchanged]
      rcases others sink List.mem_cons_self with rfl | spares
      · cases fault : (sink.give text desk).1 with
        | none => exact .inr (.inl ⟨(replaces.give text desk).1 fault, .inl rfl⟩)
        | some f =>
          have failed : (sink, none) ≠ (sink, some f) := fun same => nomatch congrArg Prod.snd same
          rcases (replaces.give text desk).2 f fault with kept | broken
          · exact .inl ⟨kept, not_or.mpr ⟨failed, absent⟩⟩
          · exact .inr (.inr ⟨desk, .here sink rest desk, broken⟩)
      · have kept : view.look (sink.give text desk).2 = view.look desk := by rw [Sink.Records.give spares, ite_self]
        by_cases own : (target, none) = (sink, (sink.give text desk).1)
        · rw [Prod.mk.injEq] at own
          obtain ⟨rfl, worked⟩ := own
          exact .inr (.inl ⟨(replaces.give text desk).1 worked.symm, .inl (by rw [← worked])⟩)
        · exact .inl ⟨kept, not_or.mpr ⟨own, absent⟩⟩
    · exact .inr (.inl ⟨stored, .inr member⟩)
    · exact .inr (.inr ⟨desk', .later given, broken⟩)

end Report

/-! ## One run -/

namespace Engine

open Verifier Bench

variable [Terminal]

/-- What is done on the desk once the subject is known to be valid: the run is announced, the engine is asked and its
answer traced. -/
def ask (e : Engine τ μ) (s : Session μ) (subject : Subject) : Run (Desk τ) (Outcome μ × Option Trace) := do
  announce subject s.request
  let outcome ← e.interpret s (Configuration.build subject s.request)
  let trace ← Verifier.traceOf ⟨e, []⟩ s subject outcome
  return (outcome, trace)

def conclude (e : Engine τ μ) : Run (Bench τ μ) (Outcome μ × Option Trace) := do
  let subject ← validSubject
  let s := (← get).session
  let concluded ← onDesk (e.ask s subject)
  setSession (s.finish concluded.1 concluded.2)
  return concluded

end Engine

theorem Run.ext {x y : Run σ α} (h : ∀ s, x.ends s = y.ends s) : x = y := funext h

theorem onDesk_bind (x : Run (Desk τ) α) (f : α → Run (Desk τ) β) :
    (Bench.onDesk (x >>= f) : Run (Bench τ μ) β) = Bench.onDesk x >>= fun a => Bench.onDesk (f a) := by
  apply Run.ext
  intro b
  rw [ends_onDesk, ends_bind, ends_bind, ends_onDesk]
  cases x.ends b.desk with
  | mk r desk =>
    cases r with
    | error f => rfl
    | ok a => simp only [ends_onDesk]

theorem Verifier.attempt_eq [Terminal] (v : Verifier τ μ) :
    v.attempt = do
      let concluded ← v.engine.conclude
      v.report concluded.1 concluded.2
      return isProved concluded.1.verdict := by
  unfold attempt Engine.conclude Engine.ask
  simp only [onDesk_bind, bind_assoc, pure_bind]
  rfl

/-- What a run has come to when its report is due: the request that knows what the compile check said, the outcome with
its trace, and the desk. -/
structure Conclusion (τ μ : Type) where
  request : Request
  outcome : Outcome μ
  trace : Option Trace
  desk : Desk τ

namespace Conclusion

def text (c : Conclusion τ μ) : String := Report.render c.outcome c.trace

def session (c : Conclusion τ μ) (notes : List String) : Session μ :=
  (Session.asking c.request).finish { c.outcome with diagnostics := c.outcome.diagnostics ++ notes } c.trace

end Conclusion

namespace Verifier

variable [Terminal]

structure Concludes (v : Verifier τ μ) (b : Bench τ μ) (c : Conclusion τ μ) : Prop where
  idle : b.session.state ≠ .running
  concluded : v.engine.conclude.ends ⟨.asking b.session.request, b.desk⟩ =
    (.ok (c.outcome, c.trace), ⟨(Session.asking c.request).finish c.outcome c.trace, c.desk⟩)

def receipts (v : Verifier τ μ) (c : Conclusion τ μ) : List (Report.Receipt τ) :=
  (Report.deliver c.text v.sinks c.desk).1

def leaves (v : Verifier τ μ) (c : Conclusion τ μ) : Desk τ := (Report.deliver c.text v.sinks c.desk).2

theorem emit_gives {v : Verifier τ μ} {c : Conclusion τ μ} (tolerated : Report.Tolerated (v.receipts c)) :
    (Report.emit v.sinks c.outcome c.trace).Gives ((v.receipts c).all (·.2.isNone)) ⟨c.outcome.diagnostics, c.desk⟩
      ⟨c.outcome.diagnostics ++ Report.notes (v.receipts c), v.leaves c⟩ :=
  Report.writeAll_deliver tolerated

theorem Concludes.verify {v : Verifier τ μ} {b : Bench τ μ} {c : Conclusion τ μ} (h : v.Concludes b c)
    (tolerated : Report.Tolerated (v.receipts c)) :
    v.verify.Gives (isProved c.outcome.verdict) b ⟨c.session (Report.notes (v.receipts c)), v.leaves c⟩ := by
  have ran (n : Notes τ) : StateT.run (ExceptT.run (Report.emit v.sinks c.outcome c.trace)) n =
      (Report.emit v.sinks c.outcome c.trace).ends n := rfl
  have reported : (v.report c.outcome c.trace).Gives () ⟨(Session.asking c.request).finish c.outcome c.trace, c.desk⟩
      ⟨c.session (Report.notes (v.receipts c)), v.leaves c⟩ := by
    rcases emit_gives tolerated with emitted | stopped
    · refine .inl ?_
      simp only [report, ends_bind, ends_get, ran, emitted, ends_set, ends_pure]
      rfl
    · obtain ⟨f, notes, stopped, refused⟩ := stopped.split
      refine .inr ⟨f, ?_, refused⟩
      simp only [report, ends_bind, ends_get, ran, stopped]
      rfl
  have attempted : v.attempt.Gives (isProved c.outcome.verdict) ⟨.asking b.session.request, b.desk⟩
      ⟨c.session (Report.notes (v.receipts c)), v.leaves c⟩ := by
    rw [attempt_eq]
    exact .bind (.of_ends h.concluded) (.bind reported (.of_ends (ends_pure _ _)))
  rw [Run.Gives, v.verify_idle h.idle]
  rcases attempted with attempted | stopped
  · exact .inl (by rw [attempted])
  · obtain ⟨f, last, stopped, refused⟩ := stopped.split
    exact .inr ⟨f, by rw [stopped], refused⟩

theorem verify_broken {v : Verifier τ μ} {b last : Bench τ μ} {f : Fault} (idle : b.session.state ≠ .running)
    (broken : v.engine.conclude.ends ⟨.asking b.session.request, b.desk⟩ = (.error f, last)) :
    v.verify.ends b = (.error f, { last with session := last.session.abandon }) := by
  rw [v.verify_idle idle, attempt_eq, ends_bind_error broken]

end Verifier

end Covenant
