import Covenant.Engine.Bounded

namespace Covenant

inductive Member (τ μ : Type) where
  | factory (make : Mapping → Except Fault (Option (Engine τ μ)))
  | constant

/-- The modules that there are, each with its members. None of them has parts that are modules. -/
abbrev Modules (τ μ : Type) := List (String × List (String × Member τ μ))

inductive Choice (τ μ : Type) where
  | bounded (e : BoundedEngine)
  | made (e : Engine τ μ)

inductive ChoiceError where
  | malformed (factory : String)
  | missing (moduleName part : String)
  | missingPart (moduleName part whole : String)
  | noMember (moduleName member : String)
  | notAnEngine (factory : String)
  | unknownBackend (name : String)
deriving Repr, DecidableEq

def ChoiceError.message : ChoiceError → String
  | malformed factory => "engine factory must look like 'module:callable', got '" ++ factory ++ "'"
  | missing name part => "cannot import engine module '" ++ name ++ "': No module named " ++ Text.quoted part
  | missingPart name part whole =>
    "cannot import engine module '" ++ name ++ "': No module named " ++ Text.quoted part ++ "; " ++ Text.quoted whole ++
      " is not a package"
  | noMember name member => "'" ++ name ++ "' has no attribute '" ++ member ++ "'"
  | notAnEngine factory => "'" ++ factory ++ "' did not return a BoundedVerificationEngine"
  | unknownBackend name => "unknown engine backend '" ++ name ++ "'"

def Fault.ofChoice (e : ChoiceError) : Fault := ⟨.engineSetup, e.message, []⟩

namespace Modules

variable {τ μ : Type}

/-- The members of the module with a dotted name. Its first part must be a module, and it must be the only part. -/
def find (modules : Modules τ μ) (name : String) : Except Fault (List (String × Member τ μ)) :=
  match Text.splitText '.' name with
  | [] => .error (.ofChoice (.missing name name))
  | first :: rest =>
    if first = "" then .error { kind := .type }
    else match modules.lookup first, rest with
      | none, _ => .error (.ofChoice (.missing name first))
      | some members, [] => .ok members
      | some _, second :: _ => .error (.ofChoice (.missingPart name (first ++ "." ++ second) first))

def member (modules : Modules τ μ) (text : String) : Except Fault (Member τ μ) :=
  match Text.cutFirst? ':' text.toList with
  | none => .error (.ofChoice (.malformed text))
  | some ([], _) => .error (.ofChoice (.malformed text))
  | some (_, []) => .error (.ofChoice (.malformed text))
  | some (name, member) => do
    let name := String.ofList name
    let member := String.ofList member
    match (← modules.find name).lookup member with
    | some m => .ok m
    | none => .error (.ofChoice (.noMember name member))

def make (modules : Modules τ μ) (text : String) (options : Mapping) : Except Fault (Engine τ μ) := do
  match ← modules.member text with
  | .constant => .error { kind := .type }
  | .factory make => match ← make options with
    | some e => .ok e
    | none => .error (.ofChoice (.notAnEngine text))

end Modules

namespace Choice

variable {τ μ : Type}

def options (settings : Mapping) : Except Fault Mapping :=
  match settings.get "engine" with
  | .map options => .ok options
  | v => if v.truthy then .error { kind := .attribute } else .ok []

def boundedOf (options : Mapping) : BoundedEngine where
  modelSuffix :=
    let suffix := options.get "model_suffix"
    if suffix.truthy then suffix else .str ClassModel.defaultSuffix
  timeout := options.get "timeout_ms"

def defaultBackend : Value := .str "z3"

def ofSettings (modules : Modules τ μ) (settings : Mapping) : Except Fault (Choice τ μ) := do
  let options ← options settings
  match options.get "factory" with
  | .str "" => backend options
  | .str text => return .made (← modules.make text options)
  | .bytes (_ :: _) => .error { kind := .type }
  | v => if v.truthy then .error { kind := .attribute } else backend options
where
  backend (options : Mapping) : Except Fault (Choice τ μ) :=
    let name := (options.get? "backend").getD defaultBackend
    if name.same defaultBackend then .ok (.bounded (boundedOf options))
    else match name.text? with
      | some text => .error (.ofChoice (.unknownBackend text))
      | none => .error .longNumber

def engine (c : Choice τ μ) (bounded : BoundedEngine → Engine τ μ) : Engine τ μ :=
  match c with
  | .bounded e => bounded e
  | .made e => e

end Choice

end Covenant
