import Covenant.Proofs.Files.Alike
import Covenant.Proofs.Log
import Covenant.Proofs.Settings.Sections
import Covenant.Proofs.Verifier.Lockstep

namespace Covenant

variable {τ μ α β : Type}

structure Desk.InStep (S : FileTree → FileTree → Prop) (l l' : Logger) (d d' : Desk τ) : Prop where
  files : S d.files d'.files
  log : Log.InStep l l' d.log d'.log
  rest : d' = { d with files := d'.files, log := d'.log }

/-- Related trees look the same to those who check sources, load models and write reports. -/
structure FileTree.Transparent (S : FileTree → FileTree → Prop) : Prop where
  isFile : ∀ t t' path, S t t' → t.isFile path = t'.isFile path
  load : ∀ t t' root className suffix, S t t' →
    ClassModel.load t root className suffix = ClassModel.load t' root className suffix
  write : ∀ t t' path text, S t t' →
    (∃ f, t.write path text = .error f ∧ t'.write path text = .error f) ∨
      ∃ s s', t.write path text = .ok s ∧ t'.write path text = .ok s' ∧ S s s'

theorem FileTree.transparent_eq : Transparent Eq where
  isFile _ _ _ same := by rw [same]
  load _ _ _ _ _ same := by rw [same]
  write t _ path text same := by
    subst same
    cases t.write path text with
    | error f => exact .inl ⟨f, rfl, rfl⟩
    | ok s => exact .inr ⟨s, s, rfl, rfl, rfl⟩

theorem Yaml.load_renamed {name text : String} {v : Value} (h : Yaml.load name text = .ok v) (name' : String) :
    Yaml.load name' text = .ok v := by
  unfold Yaml.load at h ⊢
  cases rest : text.toList.drop (text.toList.takeWhile isAcceptable).length with
  | nil =>
    simp only [rest] at h ⊢
    exact h
  | cons c tail =>
    simp only [rest] at h
    cases h

namespace Settings

def loggingName : String := "logging"

def SameOffLogging (u u' : String) : Prop :=
  ∃ name m m', Yaml.load name (FileTree.Alike.normalized u) = .ok (.map m) ∧
    Yaml.load name (FileTree.Alike.normalized u') = .ok (.map m') ∧ AgreeOff loggingName m m'

theorem AgreeOff.parseEntries {m m' : Mapping} (h : AgreeOff loggingName m m') (className : String) :
    ClassModel.parseEntries m className = ClassModel.parseEntries m' className := by
  unfold ClassModel.parseEntries
  rw [h.get? (by decide), h.get (by decide : "fields" ≠ _), h.get (by decide : "static_fields" ≠ _),
    h.get (by decide : "methods" ≠ _), h.get (by decide : "invariant" ≠ _)]

theorem transparent_alike {parts : List String} {u u' : String} (same : SameOffLogging u u') :
    FileTree.Transparent (FileTree.Alike parts u u') where
  isFile t t' path alike := alike.isFile_eq path
  write t t' path text alike := alike.write path text
  load t t' root className suffix alike := by
    obtain ⟨name, m, m', read, read', agree⟩ := same
    unfold ClassModel.load
    simp only [alike.isFile_eq]
    rcases alike.read (classFile root className suffix).text with text | ⟨text, text'⟩
    · rw [text]
    · -- the settings may be taken for a model, in which the logging section is not looked at
      rw [text, text']
      simp only [ok_bind]
      rw [Yaml.load_renamed read, Yaml.load_renamed read']
      simp only [Except.mapError, ok_bind, ClassModel.parse, agree.parseEntries]

end Settings

namespace Desk.InStep

variable {S : FileTree → FileTree → Prop} {l l' : Logger} {d d' : Desk τ}

theorem heard (step : InStep S l l' d d') {talk : List Output} (whole : Log.WholeLines talk) :
    InStep S l l' { d with log := d.log.heard talk } { d' with log := d'.log.heard talk } := by
  refine ⟨step.files, step.log.heard whole, ?_⟩
  rw [step.rest]

theorem keptBySaying : KeptBySaying (InStep S l l' : Desk τ → Desk τ → Prop) := by
  intro talk said d d' step
  rw [← step.log.indent]
  exact step.heard (Log.wholeLines_of_said (said d.log.indent))

section

variable [Terminal]

end

end Desk.InStep

/-! ## The bounded engine -/

namespace BoundedEngine

open Desk.InStep

variable {S : FileTree → FileTree → Prop} {l l' : Logger}

end BoundedEngine

/-! ## Sinks -/

namespace Sink

variable {S : FileTree → FileTree → Prop} {l l' : Logger}

end Sink

end Covenant
