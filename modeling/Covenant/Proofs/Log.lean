import Mathlib.Data.List.Basic
import Covenant.Proofs.Run

/-!
# What is printed of a conversation

What is said at all levels is a conversation, and a log keeps what its logger prints of it. A louder logger prints all
that a quieter one does and further lines between; what both print is the same text, with the same indentation.
Warnings, errors and the texts that go to the standard output as they are do not depend on the logger.
-/

namespace Covenant

/-! ## Lines of a text -/

namespace Text

def EndsLine (s : String) : Prop := ∃ start, s.toList = start ++ ['\n']

theorem EndsLine.append (s : String) {t : String} (h : EndsLine t) : EndsLine (s ++ t) := by
  obtain ⟨start, ends⟩ := h
  exact ⟨s.toList ++ start, by rw [String.toList_append, ends, List.append_assoc]⟩

end Text

open Text

/-! ## Saying -/

namespace Output

def isAlarm : Output → Bool
  | entry level _ _ => Level.warning.rank ≤ level.rank
  | _ => false

def isText : Output → Bool
  | text _ => true
  | _ => false

end Output

def Logger.prints (l : Logger) : Output → Bool
  | .entry level _ _ => l.shows level
  | .line _ => l.shows .info
  | .text _ => true

namespace Log

def heard (log : Log) (talk : List Output) : Log :=
  { log with outputs := log.outputs ++ talk.filter log.logger.prints }

theorem heard_heard (log : Log) (talk more : List Output) : (log.heard talk).heard more = log.heard (talk ++ more) := by
  simp [heard]

def rule : String := String.join (List.replicate 70 "=")

def optionTalk (indent : Nat) (options : List (String × String)) : List Output :=
  options.map fun option => .entry .debug indent (option.1 ++ " = " ++ option.2)

def listTalk (indent : Nat) (title : String) (options : List (String × String)) : List Output :=
  .entry .debug indent title :: optionTalk (indent + 1) options

theorem said_listTalk (indent : Nat) (title : String) (options : List (String × String)) :
    ∀ o ∈ listTalk indent title options, o.isText = false := by
  intro o member
  rcases List.mem_cons.mp member with rfl | member
  · rfl
  · obtain ⟨option, -, rfl⟩ := List.mem_map.mp member
    rfl

section

variable [Terminal]

theorem print_gives {log : Log} {o : Output} (printed : log.logger.prints o = true)
    (channel : Channel) (text : String) :
    (print channel text o).Gives () log (log.heard [o]) := by
  unfold print
  cases refused : Terminal.fault? channel text with
  | some f => exact .inr ⟨f, rfl, channel, text, refused⟩
  | none =>
    refine .inl ?_
    simp [heard, put, printed]

theorem say_gives (level : Level) (message : String) (log : Log) :
    (say level message).Gives () log (log.heard [.entry level log.indent message]) := by
  refine .bind (.of_ends (ends_get log)) ?_
  by_cases shown : log.logger.shows level = true
  · rw [if_pos shown]
    exact print_gives (o := .entry level log.indent message) shown _ _
  · rw [if_neg shown]
    refine .of_ends ?_
    simp [heard, Logger.prints, shown]

theorem sayOptions_gives (options : List (String × String)) (log : Log) :
    (sayOptions options).Gives () log (log.heard (optionTalk log.indent options)) := by
  induction options generalizing log with
  | nil => exact .of_ends (by simp [sayOptions, heard, optionTalk])
  | cons option rest ih =>
    refine .bind (say_gives _ _ log) ?_
    have others := ih (log.heard [.entry .debug log.indent (option.1 ++ " = " ++ option.2)])
    rwa [heard_heard] at others

theorem options_gives {entries sorted : Mapping} (order : entries.sorted? = some sorted) (title : String) (log : Log) :
    (options (.map entries) title).Gives () log (log.heard (listTalk log.indent title sorted.texts)) := by
  refine .bind (.of_ends (ends_get log)) ?_
  by_cases shown : log.logger.shows .debug = true
  · rw [if_pos shown]
    refine .bind (say_gives _ _ log) (.bind (.of_ends (ends_modify _ _)) ?_)
    simp only [order]
    refine .bind (sayOptions_gives _ _) (.of_ends ?_)
    simp [heard, deeper, shallower, listTalk, optionTalk, Logger.prints, shown]
  · rw [if_neg shown]
    have unheard : (listTalk log.indent title sorted.texts).filter log.logger.prints = [] := by
      refine List.filter_eq_nil_iff.mpr fun o member => ?_
      rcases List.mem_cons.mp member with rfl | member
      · exact shown
      · obtain ⟨option, -, rfl⟩ := List.mem_map.mp member
        exact shown
    refine .of_ends ?_
    rw [heard, unheard, List.append_nil, ends_pure]

end

end Log

@[simp] theorem ends_say {τ : Type} (level : Level) (message : String) (desk : Desk τ) :
    (Desk.say level message).ends desk =
      (.ok (), { desk with log := desk.log.heard [.entry level desk.log.indent message] }) :=
  (Log.say_gives level message desk.log).onLog.ends_eq

namespace Log

/-! ## Two logs of one conversation -/

def WholeLines (outputs : List Output) : Prop := ∀ s, Output.text s ∈ outputs → EndsLine s

theorem wholeLines_of_said {talk : List Output} (said : ∀ o ∈ talk, o.isText = false) : WholeLines talk :=
  fun _ member => nomatch said _ member

/-- The logs hold what their loggers print of one conversation. What was put out before it may be anything. -/
structure InStep (l l' : Logger) (log log' : Log) : Prop where
  logger : log.logger = l
  logger' : log'.logger = l'
  indent : log.indent = log'.indent
  outputs : ∃ start talk, WholeLines (start ++ talk) ∧ log.outputs = start ++ talk.filter l.prints ∧
    log'.outputs = start ++ talk.filter l'.prints

namespace InStep

variable {l l' : Logger} {log log' : Log}

theorem start {log : Log} (whole : WholeLines log.outputs) (l l' : Logger) :
    InStep l l' { log with logger := l } { log with logger := l' } where
  logger := rfl
  logger' := rfl
  indent := rfl
  outputs := ⟨log.outputs, [], by simpa using whole, by simp, by simp⟩

theorem heard (step : InStep l l' log log') {talk : List Output} (whole : WholeLines talk) :
    InStep l l' (log.heard talk) (log'.heard talk) := by
  obtain ⟨start, before, wholeBefore, outputs, outputs'⟩ := step.outputs
  refine ⟨step.logger, step.logger', step.indent, start, before ++ talk, ?_, ?_, ?_⟩
  · intro s member
    rw [← List.append_assoc] at member
    rcases List.mem_append.mp member with member | member
    · exact wholeBefore s member
    · exact whole s member
  · rw [Log.heard, outputs, step.logger, List.filter_append, List.append_assoc]
  · rw [Log.heard, outputs', step.logger', List.filter_append, List.append_assoc]

end InStep

end Log

/-! ## Loggers -/

namespace Logger

structure Quieter (l l' : Logger) : Prop where
  name : l.name = l'.name
  rank : l'.threshold.rank ≤ l.threshold.rank

theorem Quieter.shows {l l' : Logger} (h : l.Quieter l') {level : Level} (shown : l.shows level = true) :
    l'.shows level = true :=
  decide_eq_true (Nat.le_trans h.rank (of_decide_eq_true shown))

theorem Quieter.prints {l l' : Logger} (h : l.Quieter l') {o : Output} (printed : l.prints o = true) :
    l'.prints o = true := by
  cases o with
  | entry level indent message => exact h.shows printed
  | line text => exact h.shows printed
  | text s => rfl

def Warns (l : Logger) : Prop := l.threshold.rank ≤ Level.warning.rank

theorem Warns.prints {l : Logger} (h : l.Warns) {o : Output} (alarm : o.isAlarm = true) : l.prints o = true := by
  cases o with
  | entry level indent message => exact decide_eq_true (Nat.le_trans h (of_decide_eq_true alarm))
  | line text => cases alarm
  | text s => cases alarm

end Logger

namespace Log

namespace InStep

variable {l l' : Logger} {log log' : Log}

theorem symm (step : InStep l l' log log') : InStep l' l log' log := by
  obtain ⟨start, talk, whole, outputs, outputs'⟩ := step.outputs
  exact ⟨step.logger', step.logger, step.indent.symm, start, talk, whole, outputs', outputs⟩

end InStep

end Log

end Covenant
