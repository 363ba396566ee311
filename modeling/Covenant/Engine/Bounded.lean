import Covenant.Engine.SolvedModel
import Covenant.Model.Load
import Covenant.Model.Scope
import Covenant.Term.Search

/-!
# The bounded engine

The engine that checks a method against its contract by its class model. It reads the models of the class and of the
classes that the configuration names, encodes the method, and looks for a pre-state within the integer bit width that
breaks the contract.
-/

namespace Covenant

inductive Decision where
  | unsatisfiable
  | satisfiable (values : List (String × Value))
  | unknown (reason : String)

abbrev Solver := Encoding → Decision

/-- The whole numbers of the bit width. Where these cannot be written there are no whole variables. -/
def Encoding.range (e : Encoding) : Search.Range :=
  if tooWide e.bits then ⟨0, 0⟩ else ⟨lowest e.bits, highest e.bits⟩

def Solver.exhaustive : Solver := fun e =>
  match solve e.range e.unknowns e.constraints with
  | none => .unsatisfiable
  | some values => .satisfiable (values.map fun (name, v) => (name, v.toValue))

def Solver.givingUp (reason : String) : Solver := fun _ => .unknown reason

structure BoundedEngine where
  modelSuffix : Value := .str ClassModel.defaultSuffix
  timeout : Value := .null
  solver : Solver := .exhaustive

/-! ## The site of an analysis -/

structure Site where
  root : Value
  className : String
  methodId : String
  relevant : List String

namespace Site

def required (configuration : Mapping) (key : String) : Except Fault Value :=
  match configuration.get? key with
  | some v => .ok v
  | none => .error (.missingKey key)

def textOption : Value → Except Fault String
  | .str s => .ok s
  | .bytes _ => .error { kind := .type }
  | .foreign .date _ _ => .error { kind := .type }
  | _ => .error { kind := .attribute }

def methodOption : Value → Except Fault String
  | .str s => .ok s
  | .bytes _ => .error { kind := .type }
  | _ => .error { kind := .attribute }

def splitRelevant (text : String) : List String :=
  (Text.splitText ',' text).filter (· != "")

def ofConfiguration (configuration : Mapping) : Except Fault Site := do
  let root ← required configuration Configuration.rootKey
  let path ← textOption (← required configuration Configuration.classKey)
  let methodId ← methodOption (← required configuration Configuration.methodKey)
  let relevant := match configuration.get? Configuration.relevantKey with
    | some v => v.text
    | none => ""
  return ⟨root, Text.replaceChar '/' '.' path, methodId, splitRelevant relevant⟩

def methodName (s : Site) : String :=
  let suffix := siteSuffix.toList.reverse
  match Text.dropStart? suffix s.methodId.toList.reverse with
  | some rest => String.ofList rest.reverse
  | none => s.methodId

end Site

namespace BoundedEngine

variable {τ : Type} [Terminal]

def loadModel (e : BoundedEngine) (files : FileTree) (root : Value) (className : String) :
    Except Fault (Option ClassModel) :=
  match root, e.modelSuffix with
  | .str root, .str suffix => ClassModel.load files root className suffix
  | _, _ => .error { kind := .type }

def loadDependencies (e : BoundedEngine) (root : Value) : (seen names : List String) →
    Run (Desk τ) (List ClassModel)
  | _, [] => return []
  | seen, name :: rest => do
    if seen.contains name then e.loadDependencies root seen rest
    else
      match ← Desk.check (e.loadModel (← get).files root name) with
      | none =>
        Desk.say .debug ("no method model for dependency " ++ name ++ ", skipping")
        e.loadDependencies root (name :: seen) rest
      | some m => return m :: (← e.loadDependencies root (name :: seen) rest)

def asciiText (bytes : List Nat) : String :=
  String.ofList (bytes.map fun (b : Nat) => if b < 128 then Char.ofNat b else '?')

def checkNumberText (text quoted : String) : Except Fault Unit :=
  match Text.readInt? text, Text.excessDigits? text with
  | some _, _ => .ok ()
  | none, some count => .error (.tooManyDigits count)
  | none, none => .error (.invalidQuoted 10 quoted)

def checkTimeout (timeout : Value) : Except Fault Unit :=
  if !timeout.truthy then .ok ()
  else match timeout with
    | .bool _ => .ok ()
    | .int _ => .ok ()
    | .float x => match Decimal.parts x with
      | .undefined => .error ⟨.value, "cannot convert float NaN to integer", []⟩
      | .infinite _ => .error ⟨.overflow, "cannot convert float infinity to integer", []⟩
      | _ => .ok ()
    | .str s => checkNumberText s (Text.quoted s)
    | .bytes bs => checkNumberText (asciiText bs) (Text.quoteBytes bs)
    | .foreign .fraction _ _ => .ok ()
    | _ => .error { kind := .type }

def modelOf (site : Site) (subject : ClassModel) (method : MethodModel) (encoding : Encoding)
    (values : List (String × Value)) : SolvedModel where
  className := site.className
  methodId := site.methodId
  isStatic := method.isStatic
  receiverFields := if method.isStatic then [] else subject.fields.map (·.1)
  params := method.params.map (·.1)
  statics := encoding.statics
  values := values

def answerOf (site : Site) (subject : ClassModel) (method : MethodModel) (encoding : Encoding) :
    Decision → Except Fault (Answer SolvedModel)
  | .unsatisfiable => .ok { satisfiable := false }
  | .satisfiable values => .ok ⟨true, some (modelOf site subject method encoding values)⟩
  | .unknown reason => .error ⟨.unsupported, "solver gave up: " ++ reason, []⟩

def analyze (e : BoundedEngine) (configuration : Mapping) : Run (Desk τ) (Answer SolvedModel) := do
  let site ← Desk.check (Site.ofConfiguration configuration)
  match ← Desk.check (e.loadModel (← get).files site.root site.className) with
  | none => throw ⟨.unsupported, "no method model for " ++ site.className, []⟩
  | some subject =>
    match subject.method? site.methodName with
    | none => throw ⟨.semantic, s!"{site.className} has no method '{site.methodName}'", []⟩
    | some method =>
      let dependencies ← e.loadDependencies site.root [site.className] site.relevant
      let scopes ← Desk.check ((TypeScopes.ofValue (configuration.get Configuration.scopeKey)).mapError .ofScope)
      Desk.say .debug s!"checking {site.className}.{site.methodId} with int bit width {scopes.bits}"
      Desk.check (checkTimeout e.timeout)
      let encoding ← Desk.check ((Encoding.ofMethod subject method dependencies scopes.bits).mapError .ofEncoding)
      Desk.check (answerOf site subject method encoding (e.solver encoding))

def engine (e : BoundedEngine) : Engine τ SolvedModel where
  analyze _ configuration := e.analyze configuration
  snapshot m context className methodId := Desk.check (m.snapshot context className methodId)

end BoundedEngine

end Covenant
