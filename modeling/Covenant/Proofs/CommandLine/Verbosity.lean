import Covenant.Proofs.CommandLine.InStep
import Covenant.Proofs.Verifier.Chains

/-!
# Verbosity

How much the command shows is decided by its flags and by the logging section of its settings. Two runs that differ in
this alone do the same: they end with the same exit code, write the same files and say the same, of which the quieter
one shows a part.
-/

namespace Covenant

variable {τ α β : Type}

/-! ## What depends on the other sections -/

def Modules.Steady [Terminal] (S : FileTree → FileTree → Prop) (modules : Modules τ SolvedModel) : Prop :=
  ∀ text options e, modules.make text options = .ok e → ∀ l l', e.Related (Desk.InStep S l l') e

namespace CommandLine

open Settings

def Options.quieted (o : Options) : Options := { o with verbose := none, debug := none }

theorem Options.of_quieted {o o' : Options} (h : o.quieted = o'.quieted) :
    ∃ verbose debug, o' = { o with verbose := verbose, debug := debug } := by
  refine ⟨o'.verbose, o'.debug, ?_⟩
  obtain ⟨_, _, _, _, _, _, _, _, _, _⟩ := o
  obtain ⟨_, _, _, _, _, _, _, _, _, _⟩ := o'
  simpa [quieted] using h.symm

structure SameBut (o o' : Options) (m m' : Mapping) : Prop where
  options : o.quieted = o'.quieted
  settings : AgreeOff loggingName m m'

namespace SameBut

variable {o o' : Options} {m m' : Mapping}

theorem sectionOf (h : SameBut o o' m m') {name : String} (other : name ≠ loggingName) :
    CommandLine.sectionOf m name = CommandLine.sectionOf m' name := by
  rw [CommandLine.sectionOf, CommandLine.sectionOf, h.settings.get other]

theorem subjectOf (h : SameBut o o' m m') : CommandLine.subjectOf o m = CommandLine.subjectOf o' m' := by
  obtain ⟨verbose, debug, rfl⟩ := Options.of_quieted h.options
  unfold CommandLine.subjectOf
  rw [h.sectionOf (by decide)]
  rfl

theorem sinksOf [Terminal] (h : SameBut o o' m m') :
    (CommandLine.sinksOf o m : Except Fault (List (Sink τ))) = CommandLine.sinksOf o' m' := by
  have report := h.settings.get (by decide : "report" ≠ loggingName)
  have options := h.sectionOf (by decide : "report" ≠ loggingName)
  obtain ⟨verbose, debug, rfl⟩ := Options.of_quieted h.options
  unfold CommandLine.sinksOf reportPath
  rw [report, options]

theorem choice (h : SameBut o o' m m') {μ : Type} (modules : Modules τ μ) :
    Choice.ofSettings modules m = Choice.ofSettings modules m' := by
  unfold Choice.ofSettings Choice.options
  rw [h.settings.get (by decide)]

end SameBut

def HasLogging (m : Mapping) : Prop := ∃ options, m.get loggingName = .map options

inductive Verbosity where
  | quiet
  | verbose
  | debug
deriving Repr, DecidableEq

namespace Verbosity

def rank : Verbosity → Nat
  | quiet => 0
  | verbose => 1
  | debug => 2

def chosen (o : Options) (m : Mapping) : Verbosity :=
  match flagOf o.verbose m "verbose" true, flagOf o.debug m "debug" false with
  | .ok _, .ok true => debug
  | .ok false, .ok false => quiet
  | _, _ => verbose

def asked (words : List String) (files : FileTree) : Verbosity :=
  match read words with
  | .error _ => verbose
  | .ok o => match Settings.load files (some o.config) with
    | .error _ => verbose
    | .ok m => chosen o m

def threshold : Verbosity → Level
  | quiet => .warning
  | verbose => .info
  | debug => .debug

def logger (v : Verbosity) : Logger := { threshold := v.threshold }

end Verbosity

section

variable {S : FileTree → FileTree → Prop} {o : Options} {d d' : Desk τ}

def ChecksAlike (S : FileTree → FileTree → Prop) (x y : Except Fault (Bool × FileTree)) : Prop :=
  (∃ f, x = .error f ∧ y = .error f) ∨ ∃ valid t t', x = .ok (valid, t) ∧ y = .ok (valid, t') ∧ S t t'

theorem ChecksAlike.refl (x : Except Fault (Bool × FileTree)) : ChecksAlike Eq x x := by
  cases x with
  | error f => exact .inl ⟨f, rfl, rfl⟩
  | ok answer => exact .inr ⟨answer.1, answer.2, answer.2, rfl, rfl, rfl⟩

/-- How two runs begin: their settings agree off the logging section, and the compile check comes to the same. -/
structure Begins (S : FileTree → FileTree → Prop) (o : Options) (d d' : Desk τ) : Prop where
  files : S d.files d'.files
  rest : d' = { d with files := d'.files }
  settings :
    (∃ f, Settings.load d.files (some o.config) = .error f ∧ Settings.load d'.files (some o.config) = .error f) ∨
    ∃ m m', Settings.load d.files (some o.config) = .ok m ∧ Settings.load d'.files (some o.config) = .ok m' ∧
      AgreeOff loggingName m m' ∧ HasLogging m ∧ HasLogging m'
  compiles : ∀ m subject path, Settings.load d.files (some o.config) = .ok m → subjectOf o m = .ok subject →
    subject.sourceFile = .ok path →
    ChecksAlike S (subject.check.run d.files path.text) (subject.check.run d'.files path.text)

theorem Begins.step (begins : Begins S o d d') (whole : Log.WholeLines d.log.outputs) (l l' : Logger) :
    (d.logsWith l).InStep S l l' (d'.logsWith l') := by
  rw [begins.rest]
  exact ⟨begins.files, .start whole l l', rfl⟩

/-- How two runs end: nothing was logged yet, or both have logged one conversation, each at its own level. -/
def Ended (S : FileTree → FileTree → Prop) (v v' : Verbosity) (d d' : Desk τ) : Prop :=
  S d.files d'.files ∧ (d.log = d'.log ∨ Log.InStep v.logger v'.logger d.log d'.log)

theorem Begins.ended (begins : Begins S o d d') (v v' : Verbosity) : Ended S v v' d d' := by
  refine ⟨begins.files, .inl ?_⟩
  rw [begins.rest]

end

/-! ## Two runs of the command -/

section

variable [Terminal] {S : FileTree → FileTree → Prop} {modules : Modules τ SolvedModel} {o o' : Options}
  {m m' : Mapping} {d d' : Desk τ} {l l' : Logger}

end

/-! ## How the verbosity is set -/

def HasCompiler (m : Mapping) : Prop :=
  ∃ options, sectionOf m "subject" = .ok options ∧ (options.get "compile_command").truthy = true

theorem check_of_subjectOf {o : Options} {m : Mapping} {subject : Subject} (made : subjectOf o m = .ok subject) :
    HasCompiler m ∨ subject.check = .readable := by
  obtain ⟨options, found, made⟩ := bind_eq_ok.mp made
  obtain ⟨check, checked, made⟩ := bind_eq_ok.mp made
  cases command : (options.get "compile_command").truthy with
  | true => exact .inl ⟨options, found, command⟩
  | false =>
    simp only [checkOf, command] at checked
    cases checked
    cases made
    exact .inr rfl

/-- How two runs of the command may differ: in their flags alone, or also in the text of one file, whose documents are
mappings that agree off the logging section. The settings have a logging section that is a mapping. A compile command
has to say the same on both trees; what is in the logging section is not its business. -/
inductive Varies : (FileTree → FileTree → Prop) → Except Refusal Options → Desk τ → Desk τ → Prop
  | flags {line : Except Refusal Options} {d : Desk τ}
      (logging : ∀ o m, line = .ok o → Settings.load d.files (some o.config) = .ok m → HasLogging m) :
      Varies Eq line d d
  | settings {o : Options} {d d' : Desk τ} {parts : List String} {u u' : String}
      (here : d.files.entry? (some parts) = some (.file u)) (here' : d'.files.entry? (some parts) = some (.file u'))
      (elsewhere : ∀ place, place ≠ some parts → d.files.entry? place = d'.files.entry? place)
      (rest : d' = { d with files := d'.files }) (same : SameOffLogging u u')
      (logging : ∀ m, Settings.load d.files (some o.config) = .ok m → HasLogging m)
      (logging' : ∀ m, Settings.load d'.files (some o.config) = .ok m → HasLogging m)
      (compiles : ∀ m subject path, Settings.load d.files (some o.config) = .ok m → HasCompiler m →
        subjectOf o m = .ok subject → subject.sourceFile = .ok path →
        ChecksAlike (FileTree.Alike parts u u') (subject.check.run d.files path.text)
          (subject.check.run d'.files path.text)) :
      Varies (FileTree.Alike parts u u') (.ok o) d d'

namespace Varies

variable {S : FileTree → FileTree → Prop} {line : Except Refusal Options} {d d' : Desk τ}

theorem transparent (varies : Varies S line d d') : FileTree.Transparent S := by
  cases varies with
  | flags => exact FileTree.transparent_eq
  | settings _ _ _ _ same => exact transparent_alike same

theorem files (varies : Varies S line d d') : S d.files d'.files := by
  cases varies with
  | flags => rfl
  | @settings _ _ _ parts u u' here here' elsewhere =>
    intro place
    by_cases there : place = some parts
    · rw [there]
      exact .inr ⟨rfl, here, here'⟩
    · exact .inl (elsewhere place there)

theorem load_alike {parts : List String} {u u' : String} (same : SameOffLogging u u') {t t' : FileTree}
    (alike : FileTree.Alike parts u u' t t') (path : String) :
    (∃ f, Settings.load t (some path) = .error f ∧ Settings.load t' (some path) = .error f) ∨
      ∃ m m', Settings.load t (some path) = .ok m ∧ Settings.load t' (some path) = .ok m' ∧
        AgreeOff loggingName m m' := by
  have either (x : Except Fault Mapping) :
      (∃ f, x = .error f ∧ x = .error f) ∨ ∃ m m', x = .ok m ∧ x = .ok m' ∧ AgreeOff loggingName m m' := by
    cases x with
    | error f => exact .inl ⟨f, rfl, rfl⟩
    | ok m => exact .inr ⟨m, m, rfl, rfl, rfl⟩
  unfold Settings.load
  simp only
  rw [alike.contains_eq]
  split
  · rcases alike.read path with text | ⟨text, text'⟩
    · rw [text]
      exact either _
    · obtain ⟨name, m, m', read, read', agree⟩ := same
      rw [text, text']
      simp only [ok_bind, Yaml.load_renamed read, Yaml.load_renamed read', overlay]
      exact .inr ⟨_, _, rfl, rfl, agree.merge defaults⟩
  · exact either _

theorem rest (varies : Varies S line d d') : d' = { d with files := d'.files } := by
  cases varies with
  | flags => rfl
  | settings _ _ _ rest => exact rest

theorem begins (varies : Varies S line d d') {o : Options} (read : line = .ok o) : Begins S o d d' := by
  have files := varies.files
  have rest := varies.rest
  have transparent := varies.transparent
  cases varies with
  | flags logging =>
    refine ⟨files, rest, ?_, fun m subject path _ _ _ => .refl _⟩
    cases loaded : Settings.load d.files (some o.config) with
    | error f => exact .inl ⟨f, rfl, rfl⟩
    | ok m => exact .inr ⟨m, m, rfl, rfl, rfl, logging o m read loaded, logging o m read loaded⟩
  | settings here here' elsewhere _ same logging logging' compiles =>
    cases read
    refine ⟨files, rest, ?_, fun m subject path loaded made found => ?_⟩
    · rcases load_alike same files o.config with failed | ⟨m, m', loaded, loaded', agree⟩
      · exact .inl failed
      · exact .inr ⟨m, m', loaded, loaded', agree, logging m loaded, logging' m' loaded'⟩
    · rcases check_of_subjectOf made with compiler | check
      · exact compiles m subject path loaded compiler made found
      · simp only [check, CompileCheck.readable, transparent.isFile _ _ _ files]
        cases d'.files.isFile path.text with
        | error f => exact .inl ⟨f, rfl, rfl⟩
        | ok valid => exact .inr ⟨valid, _, _, rfl, rfl, files⟩

end Varies

/-! ## What can be observed -/

section

variable {S : FileTree → FileTree → Prop} {d d' : Desk τ}

variable [Terminal]

end

/-! ## A run with two settings -/

end CommandLine

end Covenant
