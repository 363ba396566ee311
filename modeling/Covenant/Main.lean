import Std.Time.Zoned
import Covenant.CommandLine.Paths

namespace Covenant.Program

def entryAt? (path : String) : IO (Option FileEntry) := do
  try
    let real ← IO.FS.realPath path
    if ← real.isDir then return some .directory
    return some (.file (← IO.FS.readFile path))
  catch _ => return none

def addPath (files : FileTree) (path : String) : IO FileTree := do
  match ← entryAt? path with
  | some entry => return files.add path entry
  | none => return files

def gather (o : CommandLine.Options) : IO FileTree := do
  let files ← addPath {} o.config
  match Settings.load files (some o.config) with
  | .error _ => return files
  | .ok settings => (CommandLine.paths o settings).foldlM addPath files

def stamp : IO String := do
  let now ← Std.Time.PlainTime.now
  let two (n : Int) : String := (if n < 10 then "0" else "") ++ toString n
  return two now.hour.val ++ ":" ++ two now.minute.val ++ ":" ++ two now.second.val

def store (before after : FileTree) : IO Unit := do
  for (path, text) in after.files do
    if !before.files.contains (path, text) then IO.FS.writeFile path text

def runWith (o : CommandLine.Options) : IO UInt32 := do
  let files ← gather o
  let act : Run (Desk Unit) Nat := CommandLine.runWith [] BoundedEngine.engine o
  let (result, desk) := (ExceptT.run act).run { files := files, rest := () }
  let now ← stamp
  IO.print (desk.log.shown now [.standard, .report])
  IO.eprint (desk.log.shown now [.errors])
  store files desk.files
  match result with
  | .ok code => return code.toUInt32
  | .error f =>
    IO.eprintln f.message
    return 1

def usage : String := "Usage: verify -p PATH -c CLASS -m METHOD [-n CLASSES] [-s SCOPE] [--config FILE]"
  ++ " [--report FILE] [--console] [-v | -q] [--debug | --no-debug]"

end Covenant.Program

open Covenant in
def main (args : List String) : IO UInt32 := do
  match CommandLine.read args with
  | .ok o => Program.runWith o
  | .error _ =>
    IO.eprintln Program.usage
    return 2
