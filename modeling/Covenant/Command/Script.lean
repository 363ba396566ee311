namespace Covenant.Command

inductive RedirectMode where
  | read
  | write
  | append
  | readWrite
  | copy
deriving Repr, DecidableEq

mutual
/-- A part of a word. What a parameter, an output or a calculation stands for is split at blanks unless quoted. -/
inductive Piece where
  | plain (s : String)
  | quoted (s : String)
  | parameter (name : String) (form : Form) (isQuoted : Bool)
  | output (body : List Statement) (isQuoted : Bool)
  | arithmetic (expression : List Piece) (isQuoted : Bool)
inductive Form where
  | value
  | length
  | orElse (emptyToo : Bool) (word : List Piece)
  | orAssign (emptyToo : Bool) (word : List Piece)
  | orFail (emptyToo : Bool) (word : List Piece)
  | ifPresent (emptyToo : Bool) (word : List Piece)
  | trimmed (atEnd longest : Bool) (pattern : List Piece)
  | bad
inductive Redirection where
  | file (descriptor : Nat) (mode : RedirectMode) (target : List Piece)
  | text (descriptor : Nat) (body : List Piece)
inductive Statement where
  | simple (assignments : List (String × List Piece)) (words : List (List Piece)) (redirections : List Redirection)
  | redirected (body : Statement) (redirections : List Redirection)
  | group (body : List Statement)
  | subshell (body : List Statement)
  | background (body : Statement)
  | negated (body : Statement)
  | both (first second : Statement)
  | either (first second : Statement)
  | pipeline (stages : List Statement)
  | choice (condition yes no : List Statement)
  /-- Repeats the body as long as the success of the condition is `wanted`. -/
  | loop (wanted : Bool) (condition body : List Statement)
  | each (name : String) (words : Option (List (List Piece))) (body : List Statement)
  | select (word : List Piece) (branches : List (List (List Piece) × List Statement))
  | function (name : String) (body : Statement)
end

instance : Inhabited Statement := ⟨.group []⟩

abbrev Word := List Piece

end Covenant.Command
