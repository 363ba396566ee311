import Covenant.Files.Path
import Covenant.Files.Tree
import Covenant.Model.Class
import Covenant.Yaml.Value

namespace Covenant.ClassModel

def defaultSuffix : String := ".model.yaml"

/-- A document that cannot be read is semantically invalid; other faults of its values stay what they are. -/
def unreadable (path : String) (f : Fault) : Fault :=
  match f.kind with
  | .markup => ⟨.semantic, s!"unreadable method model {path}: {f.message}", []⟩
  | _ => f

def load (files : FileTree) (sourceRoot className suffix : String) : Except Fault (Option ClassModel) := do
  let path := (classFile sourceRoot className suffix).text
  if ← files.isFile path then
    let raw ← (Yaml.load path (← files.read path)).mapError (unreadable path)
    return some (← (parse raw className).mapError .ofModel)
  else return none

end Covenant.ClassModel
