import Covenant.Command.Glob
import Covenant.Text.Pattern

namespace Covenant.Command.Regular

open Covenant.Text (Pattern)

inductive Symbol where
  | char (c : Char)
  | mark (c : Char)
  | among (negated : Bool) (ranges : List (Char × Char)) (classes : List String)
deriving Repr, DecidableEq

def isSwitched (c : Char) : Bool := ['(', ')', '|', '+', '?'].contains c

def symbolsWithin (extended : Bool) : Nat → List Char → Option (List Symbol)
  | 0, _ => none
  | _, [] => some []
  | _, ['\\'] => none
  | fuel + 1, '\\' :: c :: rest =>
    (symbolsWithin extended fuel rest).map ((if isSwitched c && !extended then .mark c else .char c) :: ·)
  | fuel + 1, '[' :: rest =>
    let (negated, inside) := match rest with
      | '^' :: inside => (true, inside)
      | inside => (false, inside)
    match Glob.bracket? (inside.length + 1) true (inside.map (⟨·, false⟩)) [] [] with
    | some (ranges, classes, after) =>
      (symbolsWithin extended fuel (after.map (·.char))).map (.among negated ranges classes :: ·)
    | none => none
  | fuel + 1, c :: rest =>
    let isMark := c == '.' || c == '*' || c == '^' || c == '$' || (isSwitched c && extended)
    (symbolsWithin extended fuel rest).map ((if isMark then .mark c else .char c) :: ·)

def anyChar : Pattern := .one fun _ => true

def anyText : Pattern := .star anyChar

def repeated : List Symbol → Pattern → Pattern × List Symbol
  | .mark '*' :: rest, p => repeated rest (.star p)
  | .mark '+' :: rest, p => repeated rest (.many p)
  | .mark '?' :: rest, p => repeated rest (.maybe p)
  | rest, p => (p, rest)

mutual
/-- Branches up to a closing mark or the end. Outside groups a branch is found anywhere in a line unless it is tied to
an end of the line. -/
def branches : Nat → (inGroup : Bool) → List Symbol → Option (Pattern × List Symbol)
  | 0, _, _ => none
  | fuel + 1, inGroup, symbols => do
    let (tied, symbols) := match symbols with
      | .mark '^' :: rest => (true, rest)
      | symbols => (false, symbols)
    let (p, endTied, rest) ← sequence fuel inGroup symbols .empty
    let p := if inGroup || tied then p else Pattern.chain anyText p
    let p := if inGroup || endTied then p else Pattern.chain p anyText
    match rest with
    | .mark '|' :: rest =>
      let (q, rest) ← branches fuel inGroup rest
      return (p.either q, rest)
    | rest => return (p, rest)
def sequence : Nat → (inGroup : Bool) → List Symbol → Pattern → Option (Pattern × Bool × List Symbol)
  | 0, _, _, _ => none
  | _, _, [], done => some (done, false, [])
  | fuel + 1, inGroup, s :: rest, done =>
    let next (p : Pattern) (rest : List Symbol) : Option (Pattern × Bool × List Symbol) :=
      let (p, rest) := repeated rest p
      sequence fuel inGroup rest (Pattern.chain done p)
    match s with
    | .mark '|' => some (done, false, s :: rest)
    | .mark ')' => if inGroup then some (done, false, s :: rest) else next (.char ')') rest
    | .mark '(' => do
      let (p, rest) ← branches fuel true rest
      match rest with
      | .mark ')' :: rest => next p rest
      | _ => none
    | .mark '$' =>
      if rest.isEmpty || rest.head? == some (.mark '|') then some (done, true, rest) else next (.char '$') rest
    | .mark '.' => next anyChar rest
    | .mark c => next (.char c) rest
    | .char c => next (.char c) rest
    | .among negated ranges classes =>
      next (.one (Glob.itemMatches (.among negated ranges classes))) rest
end

def linePattern? (extended : Bool) (expression : String) : Option Pattern := do
  let symbols ← symbolsWithin extended (expression.length + 1) expression.toList
  match ← branches (2 * symbols.length + 2) false symbols with
  | (p, []) => some p
  | _ => none

def textPattern (s : String) : Pattern := Pattern.inOrder [anyText, .text s, anyText]

end Covenant.Command.Regular
