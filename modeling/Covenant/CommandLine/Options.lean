import Covenant.Fault
import Covenant.Text.Pieces

namespace Covenant.CommandLine

inductive ValueOption where
  | path
  | className
  | method
  | needed
  | scope
  | config
  | report
deriving Repr, DecidableEq

inductive Flag where
  | console
  | verbose (on : Bool)
  | debug (on : Bool)
deriving Repr, DecidableEq

inductive Switch where
  | value (o : ValueOption)
  | flag (f : Flag)
deriving Repr, DecidableEq

def longSwitches : List (String × Switch) :=
  [("--path", .value .path), ("--class-name", .value .className), ("--method", .value .method),
   ("--needed-classes", .value .needed), ("--scope", .value .scope), ("--config", .value .config),
   ("--report", .value .report), ("--console", .flag .console), ("--verbose", .flag (.verbose true)),
   ("--quiet", .flag (.verbose false)), ("--debug", .flag (.debug true)), ("--no-debug", .flag (.debug false))]

def shortSwitches : List (Char × Switch) :=
  [('p', .value .path), ('c', .value .className), ('m', .value .method), ('n', .value .needed), ('s', .value .scope),
   ('v', .flag (.verbose true)), ('q', .flag (.verbose false))]

structure Given where
  path : Option String := none
  className : Option String := none
  method : Option String := none
  needed : List String := []
  scope : Option String := none
  config : Option String := none
  report : Option String := none
  console : Bool := false
  verbose : Option Bool := none
  debug : Option Bool := none
deriving Repr, DecidableEq

namespace Given

def put (g : Given) (o : ValueOption) (text : String) : Given :=
  match o with
  | .path => { g with path := some text }
  | .className => { g with className := some text }
  | .method => { g with method := some text }
  | .needed => { g with needed := g.needed ++ [text] }
  | .scope => { g with scope := some text }
  | .config => { g with config := some text }
  | .report => { g with report := some text }

def raise (g : Given) : Flag → Given
  | .console => { g with console := true }
  | .verbose on => { g with verbose := some on }
  | .debug on => { g with debug := some on }

end Given

/-! ## Reading words -/

inductive Refusal where
  | usage
  | unknownOption
  | optionValue
  | missingOption
deriving Repr, DecidableEq

def Refusal.kind : Refusal → FaultKind
  | usage => .commandUsage
  | unknownOption => .unknownOption
  | optionValue => .optionValue
  | missingOption => .missingOption

def Refusal.fault (r : Refusal) : Fault := { kind := r.kind }

def isOption (word : String) : Bool :=
  match word.toList with
  | '-' :: _ :: _ => true
  | _ => false

abbrev Progress := Given × Option ValueOption

def readLetters (g : Given) : List Char → Except Refusal Progress
  | [] => .ok (g, none)
  | c :: rest => match shortSwitches.lookup c with
    | none => .error .unknownOption
    | some (.flag f) => readLetters (g.raise f) rest
    | some (.value o) => .ok (if rest.isEmpty then (g, some o) else (g.put o (String.ofList rest), none))

def readLong (g : Given) (s : Switch) (value : Option String) : Except Refusal Progress :=
  match s, value with
  | .value o, some text => .ok (g.put o text, none)
  | .value o, none => .ok (g, some o)
  | .flag f, none => .ok (g.raise f, none)
  | .flag _, some _ => .error .optionValue

def cutValue (word : List Char) : String × Option String :=
  match Text.cutFirst? '=' word with
  | some (name, value) => (String.ofList name, some (String.ofList value))
  | none => (String.ofList word, none)

def helpFlag : String := "--help"

def unknown (name : String) (value : Option String) : Refusal :=
  if name = helpFlag ∧ value.isSome then .optionValue else .unknownOption

def readOption (g : Given) (word : String) : Except Refusal Progress :=
  let (name, value) := cutValue word.toList
  match longSwitches.lookup name, word.toList with
  | some s, _ => readLong g s value
  | none, '-' :: '-' :: _ => .error (unknown name value)
  | none, letters => readLetters g (letters.drop 1)

/-- Reads words; `pending` is the option whose value comes next. Returns the words that are no options. -/
def readWords (g : Given) (pending : Option ValueOption) : List String → Except Refusal (Given × List String)
  | [] => match pending with
    | some _ => .error .optionValue
    | none => .ok (g, [])
  | word :: rest => match pending with
    | some o => readWords (g.put o word) none rest
    | none =>
      if word = "--" then .ok (g, rest)
      else if isOption word then do
        let (g, pending) ← readOption g word
        readWords g pending rest
      else do
        let (g, others) ← readWords g none rest
        return (g, word :: others)

/-! ## Requests on the command line -/

structure Options where
  path : String
  className : String
  method : String
  needed : List String
  scope : Option String
  config : String
  report : Option String
  console : Bool
  verbose : Option Bool
  debug : Option Bool
deriving Repr, DecidableEq

def defaultConfig : String := "config/verifier.yaml"

def Options.read (words : List String) : Except Refusal Options := do
  let (g, others) ← readWords {} none words
  match g.path, g.className, g.method with
  | some path, some className, some method =>
    if others.isEmpty then
      return ⟨path, className, method, g.needed, g.scope, g.config.getD defaultConfig, g.report, g.console, g.verbose,
        g.debug⟩
    else throw .usage
  | _, _, _ => throw .missingOption

def commandName : String := "verify"

def read (words : List String) : Except Refusal Options :=
  match words with
  | "--" :: rest => command rest
  | word :: rest =>
    if isOption word then
      let (name, value) := cutValue word.toList
      .error (unknown name value)
    else command (word :: rest)
  | [] => .error .usage
where
  command : List String → Except Refusal Options
    | [] => .error .usage
    | name :: words => if name = commandName then Options.read words else .error .usage

end Covenant.CommandLine
