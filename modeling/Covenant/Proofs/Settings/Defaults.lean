import Covenant.Proofs.Basic
import Covenant.Proofs.Settings.Merging

namespace Covenant

open Value Mapping

/-! ## Mappings of documents -/

namespace Yaml

variable {v : Value}

theorem throughout_of_not_isMap (h : v.isMap = false) {p : Mapping → Bool} : v.throughout p = true := by
  cases v <;> first | rfl | cases h

theorem scalarValue_not_isMap {tag : Tag} {text : String} (h : scalarValue tag text = .ok v) : v.isMap = false := by
  unfold scalarValue at h
  split at h
  · cases h; rfl
  · rw [boolValue] at h
    split at h <;> cases h
    rfl
  · obtain ⟨n, -, made⟩ := bind_eq_ok.mp h
    cases made
    rfl
  · rw [floatValue] at h
    split at h
    · cases h
    · obtain ⟨x, -, made⟩ := bind_eq_ok.mp h
      cases made
      rfl
  · cases h; rfl
  · rw [timestampValue] at h
    split at h
    · cases h
    · obtain ⟨-, -, made⟩ := bind_eq_ok.mp h
      cases made
      rfl
  · rw [binaryValue] at h
    split at h
    · cases h
    · split at h <;> cases h
      rfl
  · cases h

theorem leaf_not_isMap (d : Document) (i : Nat) : ((d.leafValue i).toOption.getD .null).isMap = false := by
  cases made : d.leafValue i with
  | error => rfl
  | ok v =>
    rw [Document.leafValue] at made
    split at made
    · cases made
    · obtain ⟨text, -, made⟩ := bind_eq_ok.mp made
      split at made
      · cases made
      · exact scalarValue_not_isMap made

theorem throughout_valueAt (d : Document) (fuel : Nat) (path : List Nat) (i : Nat) :
    (d.valueAt fuel path i).throughout distinct = true := by
  induction fuel generalizing path i with
  | zero => rfl
  | succ fuel ih =>
    rw [Document.valueAt]
    split
    · split <;> rfl
    · split
      · split <;> rfl
      · rfl
    · split
      · rfl
      · refine throughout_ofList fun entry member => ?_
        obtain ⟨place, -, rfl⟩ := List.mem_map.mp member
        exact ih _ _
    · rfl
    · exact throughout_of_not_isMap (leaf_not_isMap d i)

theorem throughout_load {name text : String} (h : load name text = .ok v) : v.throughout distinct = true := by
  unfold load at h
  dsimp only at h
  split at h
  · cases h
  · obtain ⟨found, -, h⟩ := bind_eq_ok.mp h
    cases found with
    | none =>
      cases h
      rfl
    | some document =>
      obtain ⟨⟨⟨⟩, checked⟩, -, h⟩ := bind_eq_ok.mp h
      cases h
      exact throughout_valueAt checked _ _ _

end Yaml

/-! ## Laying a file over the defaults -/

namespace Settings

variable {files : FileTree} {path text name : String} {file : Value} {entries : Mapping}

theorem contains_of_read (h : files.read path = .ok text) : (path != "" && files.contains path) = true := by
  unfold FileTree.read at h
  split at h
  · cases h
  · rename_i whole
    split at h
    case h_1 found =>
      have named : path ≠ "" := by
        rintro rfl
        cases found
      rw [FileTree.contains, found]
      simp [named, whole]
    all_goals cases h

theorem load_of_read (read : files.read path = .ok text) (loaded : Yaml.load path text = .ok file)
    (shape : file.isMap = true ∨ file.truthy = false) :
    ∃ entries : Mapping, load files (some path) = .ok (defaults.merge entries) ∧
      (Value.map entries).throughout distinct = true ∧
      ∀ key rest, file.at? (key :: rest) = (Value.map entries).at? (key :: rest) := by
  have laid (entries : Mapping) (given : overlay path file = .ok entries) :
      load files (some path) = .ok (defaults.merge entries) := by
    rw [load, if_pos (contains_of_read read), read, ok_bind, loaded, ok_bind, given, ok_bind]
    rfl
  by_cases mapping : file.isMap = true
  · cases file with
    | map entries => exact ⟨entries, laid entries rfl, Yaml.throughout_load loaded, fun _ _ => rfl⟩
    | _ => cases mapping
  · have nothing : overlay path file = .ok [] := by
      have falsy := shape.resolve_left mapping
      cases file with
      | map entries => exact absurd rfl mapping
      | _ => rw [overlay, if_neg (by simpa using falsy)]; nofun
    refine ⟨[], laid [] nothing, rfl, fun key rest => ?_⟩
    cases file with
    | map entries => exact absurd rfl mapping
    | _ => rfl

/-! ## Sections -/

def sectionNames : List String := ["engine", "subject", "report", "logging"]

def givesMapping (file : Value) (name : String) : Bool := (file.at? [.str name]).all Value.isMap

/-- A section can be asked for options if it is a mapping. The engine alone takes a value that counts as false for an
empty one. -/
def hasOptions (name : String) (v : Value) : Bool := v.isMap || name == "engine" && !v.truthy

def KeepsDefaults (file : Value) (settings : Mapping) (name : String) : Prop :=
  ∃ options : Mapping, settings.get? name = some (.map options) ∧
    ∀ key default, (Value.map defaults).at? [.str name, .str key] = some default →
      options.get? key = some ((file.at? [.str name, .str key]).getD default)

theorem default_section (member : name ∈ sectionNames) :
    ∃ options : Mapping, defaults.get? name = some (.map options) ∧ ∀ option ∈ options, option.2.isMap = false := by
  simp only [sectionNames, List.mem_cons, List.not_mem_nil, or_false] at member
  rcases member with rfl | rfl | rfl | rfl
  all_goals
    simp only [defaults, block, Mapping.get?, find?_cons, same_str, String.reduceBEq, if_true,
      Bool.false_eq_true, if_false, Option.some.injEq, Value.map.injEq, exists_eq_left']
    decide

theorem at?_section (m : Mapping) (name : String) : (Value.map m).at? [.str name] = m.get? name :=
  Option.bind_fun_some _

theorem at?_option_bind (m : Mapping) (name key : String) :
    (Value.map m).at? [.str name, .str key] = (m.get? name).bind (at? · [.str key]) := rfl

theorem at?_option {m options : Mapping} (found : m.get? name = some (.map options)) (key : String) :
    (Value.map m).at? [.str name, .str key] = options.get? key := by
  rw [at?_option_bind, found, Option.bind_some, at?_section]

theorem get?_merge (ordered : (Value.map entries).throughout distinct = true) (m : Mapping) (name : String) :
    (m.merge entries).get? name =
      match entries.get? name with
      | none => m.get? name
      | some v => some (mergeValue v (m.get? name)) :=
  find?_merge m (throughout_map.mp ordered).1 _

theorem section_cases (ordered : (Value.map entries).throughout distinct = true) (member : name ∈ sectionNames) :
    (givesMapping (.map entries) name = true ∧ KeepsDefaults (.map entries) (defaults.merge entries) name) ∨
      ∃ w, entries.get? name = some w ∧ w.isMap = false ∧ (defaults.merge entries).get? name = some w := by
  obtain ⟨options, present, plain⟩ := default_section member
  rw [givesMapping, at?_section]
  cases found : entries.get? name with
  | none =>
    have merged : (defaults.merge entries).get? name = some (.map options) := by
      rw [get?_merge ordered, found, present]
    refine .inl ⟨rfl, options, merged, fun key default held => ?_⟩
    have absent : (Value.map entries).at? [.str name, .str key] = none := by
      rw [at?_option_bind, found, Option.bind_none]
    rw [← at?_option present, held, absent, Option.getD_none]
  | some w =>
    have merged : (defaults.merge entries).get? name = some (mergeValue w (some (.map options))) := by
      rw [get?_merge ordered, found, present]
    rcases mergeValue_cases w (some (.map options)) with ⟨upper, base, rfl, same, both⟩ | ⟨other, kept⟩
    · cases same
      refine .inl ⟨rfl, options.merge upper, by rw [merged, both], fun key default held => ?_⟩
      rw [at?_option present] at held
      rw [get?_merge (throughout_of_find? ordered found), at?_option found, held]
      cases get? upper key with
      | none => rfl
      | some v =>
        -- a default option is no mapping, so that what is given takes its place
        obtain ⟨option, there, rfl⟩ := Option.map_eq_some_iff.mp held
        have leaf := plain option (List.mem_of_find?_eq_some there)
        rcases mergeValue_cases v (some option.2) with ⟨_, base, -, same, -⟩ | ⟨-, kept⟩
        · rw [Option.some.inj same] at leaf
          cases leaf
        · exact congrArg some kept
    · exact .inr ⟨w, rfl, other.resolve_right fun none => none options rfl, by rw [merged, kept]⟩

theorem keepsDefaults_iff (ordered : (Value.map entries).throughout distinct = true) (member : name ∈ sectionNames) :
    KeepsDefaults (.map entries) (defaults.merge entries) name ↔ givesMapping (.map entries) name = true := by
  rcases section_cases ordered member with ⟨given, keeps⟩ | ⟨w, found, other, got⟩
  · exact ⟨fun _ => given, fun _ => keeps⟩
  · rw [givesMapping, at?_section, found]
    refine ⟨fun ⟨options, held, _⟩ => ?_, fun mapping => ?_⟩
    · rw [got] at held
      rw [Option.some.inj held] at other
      cases other
    · rw [Option.all_some, other] at mapping
      cases mapping

theorem hasOptions_get (ordered : (Value.map entries).throughout distinct = true) (member : name ∈ sectionNames) :
    hasOptions name ((defaults.merge entries).get name) =
      ((Value.map entries).at? [.str name]).all (hasOptions name) := by
  rcases section_cases ordered member with ⟨given, options, got, -⟩ | ⟨w, found, -, got⟩
  · have mapping : ((Value.map entries).at? [.str name]).all (hasOptions name) = true := by
      rw [givesMapping, Option.all_eq_true] at given
      exact Option.all_eq_true _ _ |>.mpr fun v there => by rw [hasOptions, given v there, Bool.true_or]
    rw [mapping, Mapping.get, got]
    rfl
  · rw [at?_section, found, Mapping.get, got]
    rfl

theorem load_sections (read : files.read path = .ok text) (loaded : Yaml.load path text = .ok file)
    (shape : file.isMap = true ∨ file.truthy = false) :
    ∃ settings, load files (some path) = .ok settings ∧ ∀ name ∈ sectionNames,
      (KeepsDefaults file settings name ↔ givesMapping file name = true) ∧
        hasOptions name (settings.get name) = (file.at? [.str name]).all (hasOptions name) := by
  obtain ⟨entries, laid, ordered, along⟩ := load_of_read read loaded shape
  refine ⟨defaults.merge entries, laid, fun name member => ⟨?_, ?_⟩⟩
  · simpa only [KeepsDefaults, givesMapping, along] using keepsDefaults_iff ordered member
  · rw [hasOptions_get ordered member, along]

end Settings

/-! ## Lookups of the command -/

namespace CommandLine

open Settings

variable {τ : Type} {settings : Mapping}

structure LookupsSucceed (τ : Type) (settings : Mapping) : Prop where
  flags : ∀ o, (loggerOf o settings).isOk = true
  subject : (sectionOf settings "subject").isOk = true
  engine : (Choice.options settings).isOk = true
  sinks : ∀ o, (sinksOf o settings : Except Fault (List (Sink τ))).isOk = true

theorem sectionOf_isOk (settings : Mapping) (name : String) :
    (sectionOf settings name).isOk = (settings.get name).isMap := by
  unfold sectionOf
  cases settings.get name <;> rfl

theorem options_isOk (settings : Mapping) :
    (Choice.options settings).isOk = ((settings.get "engine").isMap || !(settings.get "engine").truthy) := by
  unfold Choice.options
  split
  · rename_i found
    rw [found]
    rfl
  · rename_i other
    have leaf : (settings.get "engine").isMap = false := by
      cases got : settings.get "engine" with
      | map options => exact absurd got (other options)
      | _ => rfl
    rw [leaf]
    cases (settings.get "engine").truthy <;> rfl

def bareOptions : Options where
  path := ""
  className := ""
  method := ""
  needed := []
  scope := none
  config := ""
  report := none
  console := false
  verbose := none
  debug := none

theorem flags_iff : (∀ o, (loggerOf o settings).isOk = true) ↔ (settings.get "logging").isMap = true := by
  rw [← sectionOf_isOk]
  cases found : sectionOf settings "logging" with
  | error fault =>
    refine ⟨fun each => ?_, nofun⟩
    have bare := each bareOptions
    simp only [loggerOf, flagOf, bareOptions, found] at bare
    exact bare
  | ok options =>
    refine ⟨fun _ => rfl, fun _ o => ?_⟩
    simp only [loggerOf, flagOf, found]
    cases o.verbose <;> cases o.debug <;> rfl

theorem sinks_iff : (∀ o, (sinksOf o settings : Except Fault (List (Sink τ))).isOk = true) ↔
    (settings.get "report").isMap = true := by
  cases found : settings.get "report" with
  | map options =>
    refine ⟨fun _ => rfl, fun _ o => ?_⟩
    have named : ∃ path, reportPath o settings = .ok path := by
      rw [reportPath, found]
      split
      case h_3 other => exact absurd rfl (other options)
      case h_4 other => exact absurd rfl (other options)
      all_goals exact ⟨_, rfl⟩
    obtain ⟨path, named⟩ := named
    simp only [sinksOf, sectionOf, named, found]
    cases o.console <;> rfl
  | _ =>
    refine ⟨fun each => ?_, nofun⟩
    have bare := each bareOptions
    simp only [sinksOf, reportPath, bareOptions, found] at bare
    exact bare

theorem lookupsSucceed_iff :
    LookupsSucceed τ settings ↔ ∀ name ∈ sectionNames, hasOptions name (settings.get name) = true := by
  have each : (∀ name ∈ sectionNames, hasOptions name (settings.get name) = true) ↔
      (Choice.options settings).isOk = true ∧ (sectionOf settings "subject").isOk = true ∧
        (settings.get "report").isMap = true ∧ (settings.get "logging").isMap = true := by
    simp [sectionNames, hasOptions, options_isOk, sectionOf_isOk]
  rw [each, ← flags_iff, ← sinks_iff (τ := τ)]
  exact ⟨fun h => ⟨h.engine, h.subject, h.sinks, h.flags⟩, fun ⟨engine, subject, sinks, flags⟩ =>
    ⟨flags, subject, engine, sinks⟩⟩

end CommandLine

/-! ## All together -/

open Settings CommandLine

/-- A settings file whose document is a mapping or counts as false is laid over the defaults. Exactly the sections for
which it gives nothing but mappings keep their defaults, and the command finds all its sections if these are the only
ones it gives, apart from an engine that counts as false. -/
theorem section_keeps_defaults_iff_gives_mapping (τ : Type) {files : FileTree} {path text : String} {file : Value}
    (read : files.read path = .ok text) (loaded : Yaml.load path text = .ok file)
    (shape : file.isMap = true ∨ file.truthy = false) :
    ∃ settings, Settings.load files (some path) = .ok settings ∧
      (∀ name ∈ sectionNames, KeepsDefaults file settings name ↔ givesMapping file name = true) ∧
      (LookupsSucceed τ settings ↔
        ∀ name ∈ sectionNames, (file.at? [.str name]).all (hasOptions name) = true) := by
  obtain ⟨settings, laid, sections⟩ := load_sections read loaded shape
  refine ⟨settings, laid, fun name member => (sections name member).1, ?_⟩
  rw [lookupsSucceed_iff]
  refine forall₂_congr fun name member => ?_
  rw [(sections name member).2]

def nightText : String := "engine: {}\nreport: {path: night.txt}\nlogging: {debug: always}\n"

def nightTree : FileTree := ⟨[(["night.yaml"], .file nightText)]⟩

theorem night_settings_keep_defaults :
    ∃ file settings, Yaml.load "night.yaml" nightText = .ok file ∧ file.isMap = true ∧
      Settings.load nightTree (some "night.yaml") = .ok settings ∧
      (∀ name ∈ sectionNames, KeepsDefaults file settings name) ∧ LookupsSucceed Unit settings := by
  have known : (nightTree.read "night.yaml").toOption = some nightText ∧
      (Yaml.load "night.yaml" nightText).toOption.any (fun file => file.isMap && sectionNames.all fun name =>
        givesMapping file name && (file.at? [.str name]).all (hasOptions name)) = true := by decide +kernel
  obtain ⟨file, loaded, holds⟩ := (Option.any_eq_true _ _).mp known.2
  simp only [Bool.and_eq_true, List.all_eq_true] at holds
  have loaded := toOption_eq_some.mp loaded
  obtain ⟨settings, laid, keeps, lookups⟩ :=
    section_keeps_defaults_iff_gives_mapping Unit (toOption_eq_some.mp known.1) loaded (.inl holds.1)
  exact ⟨file, settings, loaded, holds.1, laid, fun name member => (keeps name member).mpr (holds.2 name member).1,
    lookups.mpr fun name member => (holds.2 name member).2⟩

def bareText : String := "logging:\n"

def bareTree : FileTree := ⟨[(["verifier.yaml"], .file bareText)]⟩

theorem bare_section_loses_defaults :
    ∃ file settings, Yaml.load "verifier.yaml" bareText = .ok file ∧ file.isMap = true ∧
      Settings.load bareTree (some "verifier.yaml") = .ok settings ∧
      ¬ KeepsDefaults file settings "logging" ∧ ¬ LookupsSucceed Unit settings := by
  have known : (bareTree.read "verifier.yaml").toOption = some bareText ∧
      (Yaml.load "verifier.yaml" bareText).toOption.any (fun file => file.isMap && !givesMapping file "logging" &&
        !(file.at? [.str "logging"]).all (hasOptions "logging")) = true := by decide +kernel
  obtain ⟨file, loaded, holds⟩ := (Option.any_eq_true _ _).mp known.2
  simp only [Bool.and_eq_true, Bool.not_eq_true'] at holds
  have loaded := toOption_eq_some.mp loaded
  obtain ⟨settings, laid, sections⟩ := load_sections (toOption_eq_some.mp known.1) loaded (.inl holds.1.1)
  obtain ⟨keeps, asked⟩ := sections "logging" (by decide)
  refine ⟨file, settings, loaded, holds.1.1, laid, ?_, fun lookups => ?_⟩
  · rw [keeps, holds.1.2]
    exact Bool.false_ne_true
  · rw [lookupsSucceed_iff.mp lookups "logging" (by decide), holds.2] at asked
    cases asked

end Covenant
