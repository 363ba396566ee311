import Covenant.Clause.Typed
import Covenant.Model.Class
import Covenant.Term.Assign

/-!
# The verification condition of a method

A method is encoded as constraints on its pre-state: every whole number lies within the bit width, the
precondition holds, for an instance method also the invariant, and in the post-state the postcondition or the
invariant is broken. In the post-state a location that an effect assigns holds the value of its expression in the
pre-state, and every other location is unchanged. A result without an effect may be anything.
-/

namespace Covenant

inductive Place where
  | precondition
  | postcondition
  | invariant
  | effect (target : String)
deriving Repr, DecidableEq

def Place.text : Place → String
  | precondition => "precondition"
  | postcondition => "postcondition"
  | invariant => "invariant"
  | effect target => s!"effect on '{target}'"

inductive EncodingError where
  | declaredTwice (name : String)
  | unknownType (typeName : String)
  | clause (place : Place) (text : String) (e : Clause.Error)
  | wrongSort (place : Place) (found expected : Ty)
  | noLocation (place : Place)
  | longNumber

def wrongSortMessage (place : String) (found expected : Ty) : String :=
  s!"{place} has sort {found.name}, expected {expected.name}"

def Fault.ofEncoding : EncodingError → Fault
  | .declaredTwice name => ⟨.semantic, s!"'{name}' is declared twice", []⟩
  | .unknownType typeName => .ofClause "" "" (.unknownType typeName)
  | .clause place text e => .ofClause place.text text e
  | .wrongSort place found expected => ⟨.semantic, wrongSortMessage place.text found expected, []⟩
  | .noLocation place => ⟨.semantic, s!"{place.text}: no such assignable location", []⟩
  | .longNumber => .longNumber

structure StaticVariable where
  owner : String
  display : String
  variableName : String
deriving Repr, DecidableEq

abbrev Terms := List (String × SomeTerm)

structure Frame where
  params : Terms
  fields : Terms
  statics : Terms
  owners : List (String × Terms)

namespace Frame

/-- The scope of a state: parameters hide fields, and fields hide static fields. -/
def scope (f : Frame) (isStatic : Bool) (simpleName : String) : Clause.Scope :=
  let bare := ((Clause.Scope.empty.bindValues f.statics).bindValues f.fields).bindValues f.params
  let this := if isStatic then bare else bare.bind "this" (.owner f.fields)
  let own := this.bind simpleName (.owner f.statics)
  f.owners.foldl (fun s (name, members) => s.bindNew name (.owner members)) own

end Frame

def putOwner (owners : List (String × Terms)) (name : String) (members : Terms) : List (String × Terms) :=
  match owners with
  | [] => [(name, members)]
  | (n, old) :: rest => if n = name then (n, members) :: rest else (n, old) :: putOwner rest name members

/-! ## Variables -/

abbrev Declaring := StateT (List Variable) (Except EncodingError)

def declareVariable (name typeName : String) : Declaring SomeTerm := do
  if (← get).any (·.name = name) then throw (.declaredTwice name)
  match Clause.sortOf? typeName with
  | none => throw (.unknownType typeName)
  | some ty =>
    modify (· ++ [⟨name, ty⟩])
    return ⟨ty, .var name ty⟩

def declareAll (variableName : String → String) : Declarations → Declaring Terms
  | [] => return []
  | (name, typeName) :: rest => do
    let t ← declareVariable (variableName name) typeName
    return (name, t) :: (← declareAll variableName rest)

def dotted (owner name : String) : String := owner ++ "." ++ name

def declareStatics (m : ClassModel) : Declaring Terms :=
  declareAll (dotted m.simpleName) m.staticFields

def declareOwners : List ClassModel → Declaring (List (String × Terms))
  | [] => return []
  | m :: rest => do
    let members ← declareStatics m
    return (m.simpleName, members) :: (← declareOwners rest)

def declareFrame (subject : ClassModel) (method : MethodModel) (dependencies : List ClassModel) : Declaring Frame := do
  let params ← declareAll id method.params
  let fields ← if method.isStatic then pure [] else declareAll (dotted "this") subject.fields
  let statics ← declareStatics subject
  let owners ← declareOwners dependencies
  return ⟨params, fields, statics, owners.foldl (fun os (name, members) => putOwner os name members) []⟩

/-- A static field that a parameter hides is shown with its class. -/
def ownStatic (subject : ClassModel) (method : MethodModel) (field : String) : StaticVariable :=
  let name := dotted subject.simpleName field
  ⟨subject.className, if (method.params.lookup field).isSome then name else field, name⟩

def dependencyStatics (m : ClassModel) : List StaticVariable :=
  m.staticFields.map fun (field, _) =>
    let name := dotted m.simpleName field
    ⟨m.className, name, name⟩

def staticVariables (subject : ClassModel) (method : MethodModel) (dependencies : List ClassModel) :
    List StaticVariable :=
  (subject.staticFields.map fun (field, _) => ownStatic subject method field) ++
    dependencies.flatMap dependencyStatics

/-! ## Effects -/

structure PostState where
  fields : Terms
  statics : Terms
  result : Option SomeTerm := none

def setTerm (ts : Terms) (name : String) (t : SomeTerm) : Terms :=
  ts.map fun (n, old) => (n, if n = name then t else old)

def fitTo (place : Place) (t : SomeTerm) (ty : Ty) : Except EncodingError SomeTerm :=
  match t.fit? ty with
  | some fitted => .ok ⟨ty, fitted⟩
  | none => .error (.wrongSort place t.ty ty)

def returnSort (returns : Value) : Except EncodingError Ty :=
  match returns.text? with
  | none => .error .longNumber
  | some typeName =>
    match Clause.sortOf? typeName with
    | some ty => .ok ty
    | none => .error (.unknownType typeName)

def fitResult (place : Place) (returns : Value) (t : SomeTerm) : Except EncodingError SomeTerm :=
  if returns.isNull then .ok t
  else do fitTo place t (← returnSort returns)

def applyEffect (context : Clause.Context) (pre : Frame) (returns : Value) (post : PostState)
    (target text : String) : Except EncodingError PostState := do
  let place := Place.effect target
  let t ← (context.term text).mapError (.clause place text)
  if target = "result" then return { post with result := some (← fitResult place returns t) }
  else match pre.fields.lookup target with
    | some location => return { post with fields := setTerm post.fields target (← fitTo place t location.ty) }
    | none =>
      match pre.statics.lookup target with
      | some location => return { post with statics := setTerm post.statics target (← fitTo place t location.ty) }
      | none => throw (.noLocation place)

def applyEffects (context : Clause.Context) (pre : Frame) (returns : Value) (post : PostState) :
    Declarations → Except EncodingError PostState
  | [] => .ok post
  | (target, text) :: rest => do
    applyEffects context pre returns (← applyEffect context pre returns post target text) rest

/-- The result in the post-state: what an effect assigned, or anything of the declared type. -/
def resultTerm (returns : Value) (post : PostState) : Except EncodingError (Option SomeTerm) :=
  match post.result with
  | some t => .ok (some t)
  | none =>
    if returns.isNull then .ok none
    else do
      let ty ← returnSort returns
      return some ⟨ty, .var "result" ty⟩

/-! ## The condition -/

structure Encoding where
  unknowns : List Variable
  statics : List StaticVariable
  bits : Nat
  assumptions : List (Term .bool)
  obligations : List (Term .bool)

namespace Encoding

def lowest (bits : Nat) : Int := -Int.pow 2 (bits - 1)
def highest (bits : Nat) : Int := Int.pow 2 (bits - 1) - 1

def tooWide (bits : Nat) : Bool := 4 * Text.digitLimit < bits || Text.exceedsDigits (lowest bits)

def bounds (e : Encoding) : List (Term .bool) :=
  e.unknowns.filterMap fun x =>
    match x with
    | ⟨name, .num .int⟩ => some (.and [
        .le (.int (lowest e.bits)) (.var name .int),
        .le (.var name .int) (.int (highest e.bits))])
    | _ => none

def constraints (e : Encoding) : List (Term .bool) :=
  e.bounds ++ e.assumptions ++ [.not (.and e.obligations)]

def clauseAt (place : Place) (context : Clause.Context) (text : String) : Except EncodingError (Term .bool) :=
  (context.boolTerm text).mapError (.clause place text)

def ofMethod (subject : ClassModel) (method : MethodModel) (dependencies : List ClassModel) (bits : Nat) :
    Except EncodingError Encoding := do
  let (pre, unknowns) ← (declareFrame subject method dependencies).run []
  let preScope := pre.scope method.isStatic subject.simpleName
  let post ← applyEffects ⟨preScope, some preScope⟩ pre method.returns ⟨pre.fields, pre.statics, none⟩ method.effects
  let result ← resultTerm method.returns post
  let postFrame : Frame := { pre with fields := post.fields, statics := post.statics }
  let postScope := postFrame.scope method.isStatic subject.simpleName
  let postScope := match result with
    | some t => postScope.bind "result" (.value t)
    | none => postScope
  let before : Clause.Context := ⟨preScope, none⟩
  let after : Clause.Context := ⟨postScope, some preScope⟩
  let requires ← clauseAt .precondition before method.requires
  let ensures ← clauseAt .postcondition after method.ensures
  let invariants ← if subject.invariant.truthy && !method.isStatic then do
      let text ← subject.invariant.text?.elim (.error .longNumber) .ok
      pure [(← clauseAt .invariant before text, ← clauseAt .invariant after text)]
    else pure []
  if tooWide bits && unknowns.any (·.ty = .int) then throw .longNumber
  return {
    unknowns := unknowns
    statics := staticVariables subject method dependencies
    bits := bits
    assumptions := requires :: invariants.map (·.1)
    obligations := ensures :: invariants.map (·.2) }

end Encoding

end Covenant
