import Covenant.Field
import Covenant.Subject

namespace Covenant

structure Request where
  subject : Option Subject
  method : String
  dependencies : List String
  /-- The bounds of the types, `null` if the engine is to infer them. -/
  scope : Value := .null

inductive RequestError where
  | noSubject
  | invalidSubject
  | noMethod
  | emptyMethod
deriving Repr, DecidableEq

def RequestError.message : RequestError → String
  | noSubject => "program is null"
  | invalidSubject => "program does not compile"
  | noMethod => "method is null"
  | emptyMethod => "method is empty"

def Fault.ofRequest (e : RequestError) : Fault := ⟨.request, e.message, []⟩

def scopeField : Value → Except Problem Value
  | .null => .ok .null
  | v => (textField ["scope"] v).map .str

namespace Request

def checkSubject {τ : Type} (subject : Option Subject) : Run (Desk τ) Subject := do
  match subject with
  | none => throw (.ofRequest .noSubject)
  | some s =>
    let (valid, s) ← s.validate
    if valid then return s else throw (.ofRequest .invalidSubject)

def blankBytes : List Nat := [9, 10, 11, 12, 13, 32]

def checkMethod : Value → Except Fault Unit
  | .null => .error (.ofRequest .noMethod)
  | .str s => if Text.allBlank s then .error (.ofRequest .emptyMethod) else .ok ()
  | .bytes bs => if bs.all blankBytes.contains then .error (.ofRequest .emptyMethod) else .ok ()
  | _ => .error { kind := .attribute }

def ofFields (subject : Subject) (method : Value) (dependencies : List Value) (scope : Value) :
    Except Fault Request :=
  let method := textField ["method"] method
  let dependencies := textFields ["dependencies"] dependencies
  let scope := scopeField scope
  match method, problemsOf dependencies, scope with
  | .ok method, [], .ok scope => .ok ⟨some subject, method, textsOf dependencies, scope⟩
  | method, problems, scope =>
    .error (.ofProblems (problemsOf [method] ++ problems ++ problemsOf [scope]))

/-- Builds a request. The subject is checked first, then the method, then the form of every field. -/
def create {τ : Type} (subject : Option Subject) (method : Value) (extra : Value := .list [])
    (scope : Value := .null) : Run (Desk τ) Request := do
  let subject ← checkSubject subject
  Desk.check (checkMethod method)
  match extra.items? with
  | none => throw { kind := .type }
  | some items => Desk.check (ofFields subject method (.str subject.className :: items) scope)

def withSubject {τ : Type} (r : Request) (subject : Option Subject) : Run (Desk τ) Request := do
  let subject ← checkSubject subject
  return { r with subject := some subject, dependencies := subject.className :: r.dependencies.drop 1 }

def withScope (r : Request) (scope : Value) : Request := { r with scope := scope }

def mergedDependencies (r : Request) : String := Text.joined "," r.dependencies

def sameSubject : Option Subject → Option Subject → Bool
  | some s, some t => s.same t
  | none, none => true
  | _, _ => false

def same (r s : Request) : Bool :=
  sameSubject r.subject s.subject && r.method == s.method && r.dependencies == s.dependencies &&
    r.scope.same s.scope

end Request

/-! ## Class lists -/

def splitClasses (text : String) : List String :=
  ((Text.splitText ',' text).map Text.trim).filter (· != "")

def classNames (v : Value) : Except Fault (List String) :=
  if !v.truthy then .ok []
  else match v.items? with
    | none => .error { kind := .type }
    | some items => do
      let names ← items.mapM fun
        | .str s => Except.ok (splitClasses s)
        | .bytes _ => .error { kind := .type }
        | _ => .error { kind := .attribute }
      return names.flatten

end Covenant
