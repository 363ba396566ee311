import Covenant.Fault

namespace Covenant

abbrev Declarations := List (String × String)

namespace Declarations

def put (ds : Declarations) (name text : String) : Declarations :=
  match ds with
  | [] => [(name, text)]
  | (n, t) :: rest => if n = name then (n, text) :: rest else (n, t) :: put rest name text

end Declarations

structure MethodModel where
  name : String
  params : Declarations := []
  isStatic : Bool := false
  returns : Value := .null
  requires : String := "True"
  ensures : String := "True"
  effects : Declarations := []
deriving Inhabited

structure ClassModel where
  className : String
  fields : Declarations := []
  staticFields : Declarations := []
  invariant : Value := .null
  methods : List (String × MethodModel) := []
deriving Inhabited

inductive ModelError where
  | notAMapping (what : String)
  | declares (found expected : String)
  | methodsShape
  | longNumber
deriving Repr, DecidableEq

def ModelError.message : ModelError → String
  | notAMapping what => s!"{what} must be a mapping"
  | declares found expected => s!"method model declares class {found}, expected {expected}"
  | methodsShape => ""
  | longNumber => Text.tooLongToWrite

def Fault.ofModel : ModelError → Fault
  | .methodsShape => { kind := .attribute }
  | .longNumber => .longNumber
  | e => ⟨.semantic, e.message, []⟩

namespace ClassModel

def simpleName (m : ClassModel) : String := Text.afterLastDot m.className

def method? (m : ClassModel) (name : String) : Option MethodModel := m.methods.lookup name

def putMethod (methods : List (String × MethodModel)) (m : MethodModel) : List (String × MethodModel) :=
  match methods with
  | [] => [(m.name, m)]
  | (n, old) :: rest => if n = m.name then (n, m) :: rest else (n, old) :: putMethod rest m

def textOf (v : Value) : Except ModelError String :=
  match v.text? with
  | some s => .ok s
  | none => .error .longNumber

def entryTexts (entries : Mapping) : Except ModelError Declarations :=
  entries.foldlM (fun ds (k, v) => do return ds.put (← textOf k) (← textOf v)) []

def declarations (v : Value) (what : String) : Except ModelError Declarations :=
  match v with
  | .null => .ok []
  | .map entries => entryTexts entries
  | _ => .error (.notAMapping what)

def clauseText (body : Mapping) (key : String) : Except ModelError String :=
  match body.get? key with
  | some v => textOf v
  | none => .ok "True"

def parseMethod (name : String) (body : Mapping) : Except ModelError MethodModel := do
  let params ← declarations (body.get "params") (name ++ ".params")
  let requires ← clauseText body "requires"
  let ensures ← clauseText body "ensures"
  let effects ← declarations (body.get "effects") (name ++ ".effects")
  return {
    name := name
    params := params
    isStatic := (body.get "static").truthy
    returns := body.get "returns"
    requires := requires
    ensures := ensures
    effects := effects }

def mappingOrEmpty? (v : Value) : Option Mapping :=
  match v with
  | .map entries => some entries
  | v => if v.truthy then none else some []

def parseMethods (entries : Mapping) : Except ModelError (List (String × MethodModel)) :=
  entries.foldlM (fun methods (k, v) => do
    let name ← textOf k
    match mappingOrEmpty? v with
    | none => .error (.notAMapping ("method " ++ name))
    | some body => return putMethod methods (← parseMethod name body)) []

def parseEntries (entries : Mapping) (className : String) : Except ModelError ClassModel := do
  let declared := (entries.get? "class").getD (.str className)
  if !declared.same (.str className) then .error (.declares (← textOf declared) className)
  let fields ← declarations (entries.get "fields") "fields"
  let staticFields ← declarations (entries.get "static_fields") "static_fields"
  match mappingOrEmpty? (entries.get "methods") with
  | none => .error .methodsShape
  | some methods => return {
      className := className
      fields := fields
      staticFields := staticFields
      invariant := entries.get "invariant"
      methods := ← parseMethods methods }

def parse (raw : Value) (className : String) : Except ModelError ClassModel :=
  match raw with
  | .map entries => parseEntries entries className
  | _ => .error (.notAMapping ("method model for " ++ className))

end ClassModel

end Covenant
