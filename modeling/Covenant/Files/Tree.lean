import Covenant.Fault

namespace Covenant

inductive FileEntry where
  | file (text : String)
  | directory
deriving Repr, DecidableEq

structure FileTree where
  entries : List (List String × FileEntry) := []
deriving Repr, DecidableEq

namespace FileTree

/-- A place is given by its parts; it is `none` outside the tree. -/
abbrev Place := Option (List String)

def entry? (t : FileTree) : Place → Option FileEntry
  | none => some .directory
  | some [] => some .directory
  | some parts => t.entries.lookup parts

def parent : Place → Place
  | none => none
  | some [] => none
  | some parts => some parts.dropLast

def child? : Place → String → Place
  | none, _ => none
  | some parts, name => some (parts ++ [name])

inductive Found where
  | file (place : Place) (text : String)
  | directory
  | missing (place : Place)
  | missingDirectory
deriving Repr, DecidableEq

inductive WalkError where
  | noEntry
  | notDirectory
  | nameTooLong
deriving Repr, DecidableEq

def nameLimit : Nat := 255
def pathLimit : Nat := 4095

def walk (t : FileTree) (place : Place) (parts : List String) : Except WalkError Found :=
  match t.entry? place, parts with
  | none, _ => .error .noEntry
  | some (.file text), [] => .ok (.file place text)
  | some (.file _), _ :: _ => .error .notDirectory
  | some .directory, [] => .ok .directory
  | some .directory, part :: rest =>
    if part == "" || part == "." then walk t place rest
    else if part == ".." then walk t (parent place) rest
    else if part.utf8ByteSize > nameLimit then .error .nameTooLong
    else if place.isSome && (t.entry? (child? place part)).isSome then walk t (child? place part) rest
    else if rest.isEmpty then .ok (.missing (child? place part))
    else if rest.all (· == "") then .ok .missingDirectory
    else .error .noEntry
termination_by parts.length

def find (t : FileTree) (path : String) : Except WalkError Found :=
  if path == "" then .error .noEntry
  else if path.utf8ByteSize > pathLimit then .error .nameTooLong
  else t.walk (if path.toList.head? == some '/' then none else some []) (Text.splitText '/' path)

def hasNull (path : String) : Bool := path.toList.contains '\x00'

def WalkError.fault (path : String) : WalkError → Fault
  | .noEntry => .noSuchFile path
  | .notDirectory => .notADirectory path
  | .nameTooLong => .nameTooLong path

def contains (t : FileTree) (path : String) : Bool :=
  !hasNull path && match t.find path with
    | .ok (.file ..) => true
    | .ok .directory => true
    | _ => false

def isFile (t : FileTree) (path : String) : Except Fault Bool :=
  if hasNull path then .ok false
  else match t.find path with
    | .ok (.file ..) => .ok true
    | .error .nameTooLong => .error (.nameTooLong path)
    | _ => .ok false

def nullByte : Fault := ⟨.value, "embedded null byte", []⟩

def newlines : List Char → List Char
  | '\r' :: '\n' :: rest => '\n' :: newlines rest
  | '\r' :: rest => '\n' :: newlines rest
  | c :: rest => c :: newlines rest
  | [] => []

def read (t : FileTree) (path : String) : Except Fault String :=
  if hasNull path then .error nullByte
  else match t.find path with
    | .ok (.file _ text) => .ok (String.ofList (newlines text.toList))
    | .ok .directory => .error (.isADirectory path)
    | .ok (.missing _) => .error (.noSuchFile path)
    | .ok .missingDirectory => .error (.noSuchFile path)
    | .error e => .error (e.fault path)

def set (entries : List (List String × FileEntry)) (parts : List String) (entry : FileEntry) :
    List (List String × FileEntry) :=
  match entries with
  | [] => [(parts, entry)]
  | (p, e) :: rest => if p == parts then (p, entry) :: rest else (p, e) :: set rest parts entry

def put (t : FileTree) (parts : List String) (entry : FileEntry) : FileTree := ⟨set t.entries parts entry⟩

/-- The tree once a file that was opened for writing holds the text. It is created if it is not there; what lies outside
the tree is not kept. The faults are those of opening, after which nothing is changed. A write that breaks off has
opened the file too, so it leaves what it has written and not what was there. -/
def write (t : FileTree) (path text : String) : Except Fault FileTree :=
  if hasNull path then .error nullByte
  else match t.find path with
    | .ok (.file (some parts) _) => .ok (t.put parts (.file text))
    | .ok (.missing (some parts)) => .ok (t.put parts (.file text))
    | .ok (.file none _) => .ok t
    | .ok (.missing none) => .ok t
    | .ok .directory => .error (.isADirectory path)
    | .ok .missingDirectory => .error (.isADirectory path)
    | .error e => .error (e.fault path)

def add (t : FileTree) (path : String) (entry : FileEntry) : FileTree :=
  let parts := (Text.splitText '/' path).filter fun part => part != "" && part != "."
  let above := (List.range parts.length).map parts.take |>.filter (· != [])
  (above.foldl (fun t dir => if (t.entry? (some dir)).isSome then t else t.put dir .directory) t).put parts entry

def files (t : FileTree) : List (String × String) :=
  t.entries.filterMap fun (parts, entry) =>
    match entry with
    | .file text => some (Text.joined "/" parts, text)
    | .directory => none

end FileTree

end Covenant
