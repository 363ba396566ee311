import Covenant.Files.Tree
import Covenant.Settings.Merge
import Covenant.Yaml.Value

namespace Covenant.Settings

def block (entries : List (String × Value)) : Value :=
  .map (entries.map fun (k, v) => (.str k, v))

def defaults : Mapping :=
  [(.str "engine", block [
      ("backend", .str "z3"),
      ("factory", .null),
      ("model_suffix", .str ".model.yaml"),
      ("timeout_ms", .null)]),
   (.str "subject", block [
      ("source_suffix", .str ".java"),
      ("compile_command", .null)]),
   (.str "report", block [
      ("path", .str "verification-result.txt"),
      ("console", .bool false)]),
   (.str "logging", block [
      ("verbose", .bool true),
      ("debug", .bool false)])]

def overlay (path : String) : Value → Except Fault Mapping
  | .map entries => .ok entries
  | v => if v.truthy then .error ⟨.value, path ++ ": top level must be a mapping", []⟩ else .ok []

/-- The settings with the file at `path` laid over the defaults. Where no file is, the defaults hold. -/
def load (files : FileTree) (path : Option String) : Except Fault Mapping := do
  match path with
  | none => return defaults
  | some path =>
    if path != "" && files.contains path then
      return defaults.merge (← overlay path (← Yaml.load path (← files.read path)))
    else return defaults

end Covenant.Settings
