import Covenant.Model.Encoding
import Covenant.Proofs.Clause.Value

namespace Covenant

open Clause (Entity Environment)

structure State where
  params : String → Option SomeVal
  fields : String → Option SomeVal
  statics : String → Option SomeVal
  owners : String → Option (String → Option SomeVal)
  result : Option SomeVal

namespace State

/-- What a name stands for, the result aside. The owners `this` and the class itself come first. A parameter hides a
field, a field hides a static field, and all of them hide another class. -/
def locations (s : State) (isStatic : Bool) (simpleName : String) : Environment := fun name =>
  if name = simpleName then some (.owner s.statics)
  else if name = "this" ∧ isStatic = false then some (.owner s.fields)
  else match (s.params name).or ((s.fields name).or (s.statics name)) with
    | some v => some (.value v)
    | none => (s.owners name).map .owner

def environment (s : State) (isStatic : Bool) (simpleName : String) : Environment := fun name =>
  if name = "result" ∧ s.result.isSome then s.result.map .value else s.locations isStatic simpleName name

end State

def clauseValue (z : ZeroReading) (old : Option Environment) (env : Environment) (text : String) : Option SomeVal :=
  (Clause.parse text).bind (·.value z old env)

/-- A value as a location of a sort holds it: only a whole number is widened. -/
def SomeVal.assigned (v : SomeVal) (ty : Ty) : Option SomeVal :=
  if v.ty = ty then some v
  else match v, ty with
    | ⟨.num .int, n⟩, .num .real => some (.real (Rat.ofInt n))
    | _, _ => none

def Interpretation.read (i : Interpretation) (name typeName : String) : Option SomeVal :=
  (Clause.sortOf? typeName).map fun ty => ⟨ty, i.var name ty⟩

namespace MethodModel

def effect? (m : MethodModel) (target : String) : Option String := m.effects.reverse.lookup target

def resultSort? (m : MethodModel) : Option Ty :=
  if m.returns.isNull then none else m.returns.text?.bind Clause.sortOf?

def fitted (m : MethodModel) (v : SomeVal) : Option SomeVal :=
  if m.returns.isNull then some v else m.resultSort?.bind v.assigned

end MethodModel

section

variable (subject : ClassModel) (method : MethodModel) (dependencies : List ClassModel)

def receiverFields : Declarations := if method.isStatic then [] else subject.fields

def preState (i : Interpretation) : State where
  params p := (method.params.lookup p).bind (i.read p)
  fields f := ((receiverFields subject method).lookup f).bind (i.read (dotted "this" f))
  statics f := (subject.staticFields.lookup f).bind (i.read (dotted subject.simpleName f))
  owners c := (dependencies.reverse.find? (·.simpleName = c)).map fun m f =>
    (m.staticFields.lookup f).bind (i.read (dotted m.simpleName f))
  result := none

abbrev State.view (s : State) : Environment := s.environment method.isStatic subject.simpleName

def State.effectValue (s : State) (z : ZeroReading) (target : String) : Option (Option SomeVal) :=
  (method.effect? target).map (clauseValue z (some (s.view subject method)) (s.view subject method))

def State.updated (s : State) (z : ZeroReading) (target : String) (v : SomeVal) : Option SomeVal :=
  match s.effectValue subject method z target with
  | some assigned => assigned.bind (·.assigned v.ty)
  | none => some v

/-- The state after the call. An effect on `result` never means a field, and one on a name that is both a field and
a static field means the field. A declared result that no effect assigns is `free`. -/
def State.after (s : State) (z : ZeroReading) (free : (ty : Ty) → ty.Val) : State where
  params := s.params
  fields f := (s.fields f).bind fun v =>
    if f = "result" then some v else s.updated subject method z f v
  statics f := (s.statics f).bind fun v =>
    if f = "result" ∨ (s.fields f).isSome then some v else s.updated subject method z f v
  owners := s.owners
  result := match s.effectValue subject method z "result" with
    | some assigned => assigned.bind method.fitted
    | none => method.resultSort?.map fun ty => ⟨ty, free ty⟩

def checkedInvariant : Option String :=
  if subject.invariant.truthy && !method.isStatic then subject.invariant.text? else none

def declaredVariables (variableName : String → String) (ds : Declarations) : List Variable :=
  ds.filterMap fun (name, typeName) => (Clause.sortOf? typeName).map (⟨variableName name, ·⟩)

def staticsOf (m : ClassModel) : List Variable := declaredVariables (dotted m.simpleName) m.staticFields

/-- The variables of a method: parameters, fields of the receiver, own static fields, those of other classes. -/
def methodVariables : List Variable :=
  declaredVariables id method.params ++
    declaredVariables (dotted "this") (receiverFields subject method) ++ staticsOf subject ++
    dependencies.flatMap staticsOf

/-- A clause is true, or false, where names stand for what `env` says; `old` is for names below `old(...)`. -/
def Decided (b : Bool) (z : ZeroReading) (old : Option Environment) (env : Environment) (text : String) : Prop :=
  clauseValue z old env text = some (.bool b)

def before (i : Interpretation) : Environment :=
  (preState subject method dependencies i).view subject method

def postState (i : Interpretation) : State :=
  (preState subject method dependencies i).after subject method i.atZero (i.var "result")

def after (i : Interpretation) : Environment :=
  (postState subject method dependencies i).view subject method

def Within (bits : Nat) (xs : List Variable) (i : Interpretation) : Prop :=
  ∀ x ∈ xs, x.ty = .int → -(2 ^ (bits - 1)) ≤ i.var x.name .int ∧ i.var x.name .int ≤ 2 ^ (bits - 1) - 1

structure Counterexample (bits : Nat) (i : Interpretation) : Prop where
  bounded : Within bits (methodVariables subject method dependencies) i
  requires : Decided true i.atZero none (before subject method dependencies i) method.requires
  invariant : ∀ text ∈ checkedInvariant subject method,
    Decided true i.atZero none (before subject method dependencies i) text
  broken : Decided false i.atZero (some (before subject method dependencies i))
      (after subject method dependencies i) method.ensures ∨
    ∃ text ∈ checkedInvariant subject method,
      Decided false i.atZero (some (before subject method dependencies i))
        (after subject method dependencies i) text

end

end Covenant
