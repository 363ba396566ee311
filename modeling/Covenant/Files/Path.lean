import Covenant.Text.Pieces

namespace Covenant

inductive PathRoot where
  | current
  | top
  | doubleTop
deriving Repr, DecidableEq

structure Path where
  root : PathRoot := .current
  parts : List String := []
deriving Repr, DecidableEq

namespace Path

def rootText : PathRoot → String
  | .current => ""
  | .top => "/"
  | .doubleTop => "//"

def rootOf : List Char → PathRoot
  | '/' :: '/' :: '/' :: _ => .top
  | '/' :: '/' :: _ => .doubleTop
  | '/' :: _ => .top
  | _ => .current

def parse (text : String) : Path where
  root := rootOf text.toList
  parts := (Text.splitText '/' text).filter fun part => part != "" && part != "."

def join (p q : Path) : Path :=
  match q.root with
  | .current => ⟨p.root, p.parts ++ q.parts⟩
  | _ => q

def text (p : Path) : String :=
  let shown := rootText p.root ++ Text.joined "/" p.parts
  if shown == "" then "." else shown

end Path

def classPath (className : String) : String := Text.replaceChar '.' '/' className

def classFile (sourceRoot className suffix : String) : Path :=
  (Path.parse sourceRoot).join (Path.parse (classPath className ++ suffix))

end Covenant
