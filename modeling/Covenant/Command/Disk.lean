import Covenant.Files.Tree

namespace Covenant.Command

inductive DiskEntry where
  | file (text : String)
  | directory
  | device
  | program
deriving Repr, DecidableEq

structure Disk where
  entries : List (List String × DiskEntry)
deriving Repr, DecidableEq

namespace Disk

def home : List String := ["work"]

def programs : List String :=
  ["[", "basename", "cat", "dash", "dirname", "echo", "env", "false", "grep", "head", "ls", "mkdir", "printf", "pwd",
   "rm", "rmdir", "sh", "sleep", "test", "touch", "true", "wc"]

def programPlaces : List (List String) := [["usr", "bin"], ["bin"]]

def systemDirectories : List (List String) :=
  [["bin"], ["dev"], ["etc"], ["home"], ["lib"], ["opt"], ["proc"], ["root"], ["sbin"], ["tmp"],
   ["usr"], ["usr", "bin"], ["usr", "lib"], ["usr", "local"], ["var"], home]

def devices : List (List String) := [["dev", "null"], ["dev", "zero"], ["dev", "tty"]]

def system : List (List String × DiskEntry) :=
  systemDirectories.map (·, .directory) ++ devices.map (·, .device) ++
    programPlaces.flatMap fun place => programs.map fun name => (place ++ [name], .program)

def splitPath (path : String) : List String := Text.splitText '/' path

def partsOf (path : String) : List String := (splitPath path).filter (· != "")

def pathText (place : List String) : String := "/" ++ Text.joined "/" place

def ofTree (files : FileTree) (scratch : String) : Disk where
  entries := system ++ [(partsOf scratch, .directory)] ++ files.entries.map fun (parts, entry) =>
    (home ++ parts, match entry with
      | .file text => .file text
      | .directory => .directory)

def below? : (place : List String) → Option (List String)
  | first :: rest => if [first] == home && !rest.isEmpty then some rest else none
  | [] => none

def tree (d : Disk) : FileTree where
  entries := d.entries.filterMap fun (place, entry) => do
    let parts ← below? place
    match entry with
    | .file text => some (parts, .file text)
    | .directory => some (parts, .directory)
    | _ => none

def entry? (d : Disk) : (place : List String) → Option DiskEntry
  | [] => some .directory
  | place => d.entries.lookup place

def isDirectory (d : Disk) (place : List String) : Bool := d.entry? place == some .directory

def walk (d : Disk) : (place parts : List String) → Option (List String)
  | place, [] => some place
  | place, part :: rest =>
    if !d.isDirectory place then none
    else if part == "" || part == "." then walk d place rest
    else if part == ".." then walk d place.dropLast rest
    else walk d (place ++ [part]) rest

def resolve (d : Disk) (directory : List String) (path : String) : Option (List String) :=
  if path == "" then none
  else d.walk (if path.toList.head? == some '/' then [] else directory) (splitPath path)

def find? (d : Disk) (directory : List String) (path : String) : Option DiskEntry :=
  (d.resolve directory path).bind d.entry?

def put (d : Disk) (place : List String) (entry : DiskEntry) : Disk :=
  if (d.entries.lookup place).isSome then
    ⟨d.entries.map fun (p, e) => (p, if p == place then entry else e)⟩
  else ⟨d.entries ++ [(place, entry)]⟩

def remove (d : Disk) (place : List String) : Disk := ⟨d.entries.filter fun (p, _) => !place.isPrefixOf p⟩

def names (d : Disk) (place : List String) : List String :=
  (d.entries.filterMap fun (p, _) =>
    if p.length == place.length + 1 && place.isPrefixOf p then p.getLast? else none).mergeSort (· ≤ ·)

end Disk

end Covenant.Command
