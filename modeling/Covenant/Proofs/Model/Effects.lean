import Covenant.Proofs.Clause.Scope
import Covenant.Proofs.Clause.Terms
import Covenant.Proofs.Model.Declared

namespace Covenant

open Clause (Binding Environment Scope)

variable {i : Interpretation}

/-! ## Clauses -/

theorem term_ok {context : Clause.Context} {text : String} {t : SomeTerm} (h : context.term text = .ok t) :
    ∃ e, Clause.parse text = some e ∧ e.toTerm context.old context.current = .ok t := by
  unfold Clause.Context.term at h
  split at h
  · cases h
  · split at h
    · cases h
    · rename_i e parsed
      split at h
      · cases h
      · exact ⟨e, parsed, h⟩

theorem boolTerm_ok {context : Clause.Context} {text : String} {x : Term .bool} (h : context.boolTerm text = .ok x) :
    context.term text = .ok (.bool x) := by
  obtain ⟨⟨_ | _, t⟩, term, made⟩ := bind_eq_ok.mp h <;> cases made
  exact term

theorem clauseValue_of_term {context : Clause.Context} {text : String} {t : SomeTerm}
    (h : context.term text = .ok t) :
    clauseValue i.atZero (context.old.map (·.environment i)) (context.current.environment i) text =
      some (t.eval i) := by
  obtain ⟨e, parsed, h⟩ := term_ok h
  simp only [clauseValue, parsed, Option.bind_some]
  exact Clause.Expr.value_of_toTerm i _ _ e t h

theorem decided_iff {context : Clause.Context} {text : String} {x : Term .bool} (h : context.boolTerm text = .ok x)
    (b : Bool) :
    Decided b i.atZero (context.old.map (·.environment i)) (context.current.environment i) text ↔ x.eval i = b := by
  rw [Decided, clauseValue_of_term (boolTerm_ok h)]
  simp [SomeTerm.eval]

/-! ## Frames -/

def Terms.values (i : Interpretation) (ts : Terms) (name : String) : Option SomeVal :=
  (ts.lookup name).map (·.eval i)

def Frame.state (f : Frame) (i : Interpretation) (result : Option SomeTerm) : State where
  params := Terms.values i f.params
  fields := Terms.values i f.fields
  statics := Terms.values i f.statics
  owners c := (f.owners.lookup c).map (Terms.values i)
  result := result.map (·.eval i)

structure Frame.Distinct (f : Frame) : Prop where
  params : (f.params.map (·.1)).Nodup
  fields : (f.fields.map (·.1)).Nodup
  statics : (f.statics.map (·.1)).Nodup

theorem Frame.find?_scope {f : Frame} (distinct : f.Distinct) (isStatic : Bool) (simpleName name : String) :
    (f.scope isStatic simpleName).find? name =
      if name = simpleName then some (.owner f.statics)
      else if name = "this" ∧ isStatic = false then some (.owner f.fields)
      else (((f.params.lookup name).or ((f.fields.lookup name).or (f.statics.lookup name))).map Binding.value).or
        ((f.owners.lookup name).map .owner) := by
  simp only [Frame.scope, Scope.find?_owners, Scope.find?_bind]
  split
  · rfl
  · have bare : (((Scope.empty.bindValues f.statics).bindValues f.fields).bindValues f.params).find? name =
        ((f.params.lookup name).or ((f.fields.lookup name).or (f.statics.lookup name))).map Binding.value := by
      simp only [Scope.find?_bindValues, lookup_reverse distinct.params, lookup_reverse distinct.fields,
        lookup_reverse distinct.statics, Scope.empty]
      cases f.params.lookup name <;> cases f.fields.lookup name <;> cases f.statics.lookup name <;> rfl
    cases isStatic with
    | true => simp [bare]
    | false =>
      simp only [Bool.false_eq_true, if_false, Scope.find?_bind, and_true]
      split
      · rfl
      · rw [bare]

def withResult (scope : Scope) : Option SomeTerm → Scope
  | some t => scope.bind "result" (.value t)
  | none => scope

theorem Frame.environment_scope {f : Frame} (distinct : f.Distinct) (isStatic : Bool) (simpleName : String)
    (result : Option SomeTerm) :
    (withResult (f.scope isStatic simpleName) result).environment i =
      (f.state i result).environment isStatic simpleName := by
  funext name
  have inner : (f.scope isStatic simpleName).environment i name =
      (f.state i result).locations isStatic simpleName name := by
    rw [Scope.environment, Frame.find?_scope distinct]
    unfold State.locations
    split
    · rfl
    · split
      · rfl
      · simp only [Frame.state, Terms.values]
        cases f.params.lookup name <;> cases f.fields.lookup name <;> cases f.statics.lookup name <;>
          cases f.owners.lookup name <;> rfl
  cases result with
  | none =>
    rw [withResult, inner]
    simp [State.environment, Frame.state]
  | some t =>
    by_cases here : name = "result"
    · simp [here, withResult, Scope.environment, Scope.find?_bind, State.environment, Frame.state, Binding.entity]
    · have outer : (withResult (f.scope isStatic simpleName) (some t)).environment i name =
          (f.scope isStatic simpleName).environment i name := by
        simp [withResult, Scope.environment, Scope.find?_bind, here]
      rw [outer, inner]
      simp [State.environment, here]

/-! ## The pre-state -/

theorem values_declaredTerms {variableName : String → String} {ds : Declarations} (known : KnownTypes ds)
    (name : String) :
    Terms.values i (declaredTerms variableName ds) name = (ds.lookup name).bind (i.read (variableName name)) := by
  rw [Terms.values, lookup_declaredTerms known]
  cases ds.lookup name with
  | none => rfl
  | some typeName =>
    simp only [Option.bind_some, Interpretation.read]
    cases Clause.sortOf? typeName <;> rfl

variable {subject : ClassModel} {method : MethodModel} {dependencies : List ClassModel} {frame : Frame}
  {unknowns : List Variable}

theorem Declares.distinctFrame (d : Declares subject method dependencies frame unknowns) : frame.Distinct := by
  have distinct := d.distinct
  rw [d.unknown, methodVariables, names, List.map_append, List.map_append, List.map_append] at distinct
  have front := (List.nodup_append.mp distinct).1
  have receiver := (List.nodup_append.mp front).1
  refine ⟨?_, ?_, ?_⟩
  · rw [d.params]
    exact nodup_keys d.knownParams (List.nodup_append.mp receiver).1
  · rw [d.fields]
    exact nodup_keys d.knownFields (List.nodup_append.mp receiver).2.1
  · rw [d.statics]
    exact nodup_keys d.knownStatics (List.nodup_append.mp front).2.1

theorem Declares.state (d : Declares subject method dependencies frame unknowns) :
    frame.state i none = preState subject method dependencies i := by
  simp only [Frame.state, preState, State.mk.injEq]
  refine ⟨?_, ?_, ?_, ?_, rfl⟩
  · funext p
    rw [d.params, values_declaredTerms d.knownParams]
    rfl
  · funext f
    rw [d.fields, values_declaredTerms d.knownFields]
  · funext f
    rw [d.statics, values_declaredTerms d.knownStatics]
  · funext c
    rw [d.owners, lookup_putOwners, lookup_reverse_ownersOf]
    cases found : dependencies.reverse.find? (·.simpleName = c) with
    | none => rfl
    | some m =>
      have member : m ∈ dependencies := List.mem_reverse.mp (List.mem_of_find?_eq_some found)
      simp only [Option.map_some, Option.some_or, Option.some.injEq]
      funext f
      rw [values_declaredTerms (d.knownOwners m member)]

theorem Declares.environment_scope (d : Declares subject method dependencies frame unknowns) :
    (frame.scope method.isStatic subject.simpleName).environment i = before subject method dependencies i := by
  have whole := Frame.environment_scope (i := i) d.distinctFrame method.isStatic subject.simpleName none
  rw [d.state] at whole
  exact whole

/-! ## Effects -/

theorem lookup_setTerm (ts : Terms) (target : String) (t : SomeTerm) (name : String) :
    (setTerm ts target t).lookup name = (ts.lookup name).map fun old => if name = target then t else old := by
  induction ts with
  | nil => rfl
  | cons entry rest ih =>
    obtain ⟨key, old⟩ := entry
    rw [setTerm, List.map_cons, ← setTerm, lookup_cons_eq, lookup_cons_eq, ih]
    by_cases here : name = key
    · simp [here]
    · simp [here]

theorem assigned_of_fitTo {place : Place} {t u : SomeTerm} {ty : Ty} (h : fitTo place t ty = .ok u) :
    (t.eval i).assigned ty = some (u.eval i) := by
  unfold fitTo at h
  split at h
  · rename_i x fits
    cases h
    obtain ⟨_ | _ | _, t⟩ := t <;> obtain _ | _ | _ := ty <;> cases fits <;> rfl
  · cases h

theorem resultSort?_of_returnSort {ty : Ty} (declared : method.returns.isNull = false)
    (h : returnSort method.returns = .ok ty) : method.resultSort? = some ty := by
  unfold returnSort at h
  split at h
  · cases h
  · rename_i typeName text
    split at h
    · rename_i sort known
      cases h
      simp [MethodModel.resultSort?, declared, text, known]
    · cases h

theorem fitted_of_fitResult {place : Place} {t u : SomeTerm} (h : fitResult place method.returns t = .ok u) :
    method.fitted (t.eval i) = some (u.eval i) := by
  unfold fitResult at h
  split at h
  · rename_i undeclared
    cases h
    simp [MethodModel.fitted, undeclared]
  · rename_i declared
    obtain ⟨ty, sort, h⟩ := bind_eq_ok.mp h
    rw [Bool.not_eq_true] at declared
    simp only [MethodModel.fitted, declared, resultSort?_of_returnSort declared sort, Option.bind_some]
    exact assigned_of_fitTo h

/-- What one effect does: it sets the result, a field, or a static field that no field hides. -/
theorem applyEffect_ok {context : Clause.Context} {returns : Value} {post next : PostState} {target text : String}
    (h : applyEffect context frame returns post target text = .ok next) :
    ∃ t u, context.term text = .ok t ∧
      ((target = "result" ∧ fitResult (.effect target) returns t = .ok u ∧ next = { post with result := some u }) ∨
        (target ≠ "result" ∧ ∃ location, frame.fields.lookup target = some location ∧
          fitTo (.effect target) t location.ty = .ok u ∧
          next = { post with fields := setTerm post.fields target u }) ∨
        (target ≠ "result" ∧ frame.fields.lookup target = none ∧
          ∃ location, frame.statics.lookup target = some location ∧
            fitTo (.effect target) t location.ty = .ok u ∧
            next = { post with statics := setTerm post.statics target u })) := by
  obtain ⟨t, term, h⟩ := bind_eq_ok.mp h
  rw [mapError_eq_ok] at term
  split at h
  · rename_i isResult
    obtain ⟨u, fits, made⟩ := bind_eq_ok.mp h
    cases made
    exact ⟨t, u, term, .inl ⟨isResult, fits, rfl⟩⟩
  · rename_i notResult
    split at h
    · rename_i location found
      obtain ⟨u, fits, made⟩ := bind_eq_ok.mp h
      cases made
      exact ⟨t, u, term, .inr (.inl ⟨notResult, location, found, fits, rfl⟩)⟩
    · rename_i hidden
      split at h
      · rename_i location found
        obtain ⟨u, fits, made⟩ := bind_eq_ok.mp h
        cases made
        exact ⟨t, u, term, .inr (.inr ⟨notResult, hidden, location, found, fits, rfl⟩)⟩
      · cases h

/-- A run of effects on one table of locations. The effects on the other tables leave it alone. -/
inductive Assigned (i : Interpretation) (value : String → Option SomeVal) (sort? : String → Option Ty) :
    Declarations → Terms → Terms → Prop
  | done (ts : Terms) : Assigned i value sort? [] ts ts
  | skip {target text : String} {rest : Declarations} {ts final : Terms} (elsewhere : sort? target = none)
      (run : Assigned i value sort? rest ts final) : Assigned i value sort? ((target, text) :: rest) ts final
  | set {target text : String} {rest : Declarations} {ts final : Terms} {ty : Ty} {u : SomeTerm}
      (here : sort? target = some ty) (assigned : (value text).bind (·.assigned ty) = some (u.eval i))
      (run : Assigned i value sort? rest (setTerm ts target u) final) :
      Assigned i value sort? ((target, text) :: rest) ts final

namespace Assigned

variable {value : String → Option SomeVal} {sort? : String → Option Ty} {es : Declarations} {ts final : Terms}

def outcome (value : String → Option SomeVal) (sort : Option Ty) (effect : Option String) (v : SomeVal) :
    Option SomeVal :=
  match sort, effect with
  | some ty, some text => (value text).bind (·.assigned ty)
  | _, _ => some v

theorem keys_eq (run : Assigned i value sort? es ts final) : final.map (·.1) = ts.map (·.1) := by
  induction run with
  | done => rfl
  | skip _ _ ih => exact ih
  | set _ _ _ ih =>
    rw [ih, setTerm, List.map_map]
    rfl

theorem values_eq (run : Assigned i value sort? es ts final) (name : String) :
    Terms.values i final name =
      (Terms.values i ts name).bind (outcome value (sort? name) (es.reverse.lookup name)) := by
  induction run with
  | done ts =>
    have kept : outcome value (sort? name) none = some := by
      funext v
      cases sort? name <;> rfl
    simp [kept]
  | @skip target text rest ts final elsewhere _ ih =>
    rw [ih, List.reverse_cons, List.lookup_append]
    congr 1
    funext v
    cases rest.reverse.lookup name with
    | some _ => rfl
    | none =>
      by_cases same : name = target
      · rw [same, elsewhere]
        simp [outcome]
      · simp [same]
  | @set target text rest ts final ty u here assigned _ ih =>
    rw [ih, List.reverse_cons, List.lookup_append, Terms.values, lookup_setTerm, Terms.values]
    cases ts.lookup name with
    | none => rfl
    | some t =>
      simp only [Option.map_some, Option.bind_some]
      by_cases same : name = target
      · -- a later effect on the same location hides this one
        subst same
        simp only [if_true, here]
        cases rest.reverse.lookup name with
        | some _ => rfl
        | none =>
          simp only [Option.none_or, lookup_cons_eq, if_true]
          exact assigned.symm
      · simp only [same, if_false, lookup_cons_eq, List.lookup_nil, Option.or_none]

end Assigned

def Frame.fieldSort? (f : Frame) (target : String) : Option Ty :=
  if target = "result" then none else (f.fields.lookup target).map (·.ty)

-- an effect on a name that is both a field and a static field means the field
def Frame.staticSort? (f : Frame) (target : String) : Option Ty :=
  if target = "result" ∨ (f.fields.lookup target).isSome then none else (f.statics.lookup target).map (·.ty)

def assignedResult (value : String → Option SomeVal) (method : MethodModel) (es : Declarations)
    (held : Option SomeVal) : Option SomeVal :=
  match es.reverse.lookup "result" with
  | some text => (value text).bind method.fitted
  | none => held

theorem lookup_effects_cons {target text name : String} {rest : Declarations} (other : target ≠ name) :
    List.lookup name ((target, text) :: rest).reverse = List.lookup name rest.reverse := by
  rw [List.reverse_cons, List.lookup_append]
  simp [Ne.symm other]

theorem applyEffects_ok {scope : Scope} {es : Declarations} {post next : PostState}
    (h : applyEffects ⟨scope, some scope⟩ frame method.returns post es = .ok next) :
    let value := clauseValue i.atZero (some (scope.environment i)) (scope.environment i)
    Assigned i value frame.fieldSort? es post.fields next.fields ∧
      Assigned i value frame.staticSort? es post.statics next.statics ∧
      next.result.map (·.eval i) = assignedResult value method es (post.result.map (·.eval i)) ∧
      (next.result = none → post.result = none ∧ es.reverse.lookup "result" = none) := by
  intro value
  induction es generalizing post with
  | nil =>
    cases h
    exact ⟨.done _, .done _, rfl, fun none => ⟨none, rfl⟩⟩
  | cons effect rest ih =>
    obtain ⟨target, text⟩ := effect
    obtain ⟨mid, step, h⟩ := bind_eq_ok.mp h
    obtain ⟨fields, statics, result, unset⟩ := ih h
    obtain ⟨t, u, term, step⟩ := applyEffect_ok step
    have read : value text = some (t.eval i) := clauseValue_of_term term
    rcases step with ⟨rfl, fits, rfl⟩ | ⟨notResult, location, found, fits, rfl⟩ |
      ⟨notResult, hidden, location, found, fits, rfl⟩
    · refine ⟨.skip (by simp [Frame.fieldSort?]) fields, .skip (by simp [Frame.staticSort?]) statics, ?_, ?_⟩
      · rw [result, assignedResult, assignedResult, List.reverse_cons, List.lookup_append]
        cases rest.reverse.lookup "result" with
        | some _ => rfl
        | none => simp [read, fitted_of_fitResult fits]
      · intro none
        cases (unset none).1
    · have sort : frame.fieldSort? target = some location.ty := by simp [Frame.fieldSort?, notResult, found]
      refine ⟨.set sort ?_ fields, .skip (by simp [Frame.staticSort?, found]) statics, ?_, ?_⟩
      · simp [read, assigned_of_fitTo fits]
      · rw [result, assignedResult, assignedResult, lookup_effects_cons notResult]
      · rw [lookup_effects_cons notResult]
        exact unset
    · have sort : frame.staticSort? target = some location.ty := by
        simp [Frame.staticSort?, notResult, hidden, found]
      refine ⟨.skip (by simp [Frame.fieldSort?, hidden]) fields, .set sort ?_ statics, ?_, ?_⟩
      · simp [read, assigned_of_fitTo fits]
      · rw [result, assignedResult, assignedResult, lookup_effects_cons notResult]
      · rw [lookup_effects_cons notResult]
        exact unset

/-! ## The post-state -/

theorem resultTerm_ok {post : PostState} {result : Option SomeTerm}
    (h : resultTerm method.returns post = .ok result) :
    result.map (·.eval i) =
      (post.result.map (·.eval i)).or (method.resultSort?.map fun ty => ⟨ty, i.var "result" ty⟩) := by
  unfold resultTerm at h
  split at h
  · rename_i t assigned
    cases h
    simp [assigned]
  · rename_i unassigned
    rw [unassigned, Option.map_none, Option.none_or]
    split at h
    · rename_i undeclared
      cases h
      simp [MethodModel.resultSort?, undeclared]
    · rename_i declared
      obtain ⟨ty, sort, made⟩ := bind_eq_ok.mp h
      cases made
      rw [resultSort?_of_returnSort (Bool.not_eq_true _ ▸ declared) sort]
      rfl

def Frame.withPost (f : Frame) (post : PostState) : Frame := { f with fields := post.fields, statics := post.statics }

structure Effects (subject : ClassModel) (method : MethodModel) (frame : Frame) (post : PostState)
    (result : Option SomeTerm) : Prop where
  applied :
    let scope := frame.scope method.isStatic subject.simpleName
    applyEffects ⟨scope, some scope⟩ frame method.returns ⟨frame.fields, frame.statics, none⟩ method.effects = .ok post
  result : resultTerm method.returns post = .ok result

variable {post : PostState} {result : Option SomeTerm}

theorem ty_eval (i : Interpretation) (t : SomeTerm) : (t.eval i).ty = t.ty := rfl

theorem Effects.state (d : Declares subject method dependencies frame unknowns)
    (e : Effects subject method frame post result) :
    (frame.withPost post).state i result =
      (preState subject method dependencies i).after subject method i.atZero (i.var "result") := by
  obtain ⟨fields, statics, assigned, unset⟩ := applyEffects_ok (i := i) e.applied
  rw [d.environment_scope] at fields statics assigned
  have pre := d.state (i := i)
  have preFields : Terms.values i frame.fields = (preState subject method dependencies i).fields := by rw [← pre]; rfl
  have preStatics : Terms.values i frame.statics = (preState subject method dependencies i).statics := by
    rw [← pre]; rfl
  simp only [Frame.state, State.after, State.mk.injEq]
  refine ⟨?_, ?_, ?_, ?_, ?_⟩
  · exact congrArg State.params pre
  · funext f
    rw [Frame.withPost, fields.values_eq, ← preFields]
    cases held : frame.fields.lookup f with
    | none => simp [Terms.values, held]
    | some t =>
      simp only [Terms.values, held, Option.map_some, Option.bind_some, Frame.fieldSort?]
      by_cases isResult : f = "result"
      · simp [isResult, Assigned.outcome]
      · simp only [isResult, if_false, State.updated, State.effectValue, MethodModel.effect?, ty_eval]
        cases method.effects.reverse.lookup f <;> rfl
  · funext f
    rw [Frame.withPost, statics.values_eq, ← preFields, ← preStatics]
    cases held : frame.statics.lookup f with
    | none => simp [Terms.values, held]
    | some t =>
      simp only [Terms.values, held, Option.map_some, Option.bind_some, Frame.staticSort?, Option.isSome_map]
      by_cases hidden : f = "result" ∨ (frame.fields.lookup f).isSome
      · rw [if_pos hidden, if_pos hidden]
        rfl
      · simp only [hidden, if_false, State.updated, State.effectValue, MethodModel.effect?, ty_eval]
        cases method.effects.reverse.lookup f <;> rfl
  · exact congrArg State.owners pre
  · rw [resultTerm_ok e.result]
    simp only [State.effectValue, MethodModel.effect?]
    cases effect : method.effects.reverse.lookup "result" with
    | none =>
      simp only [assignedResult, effect] at assigned
      rw [assigned]
      rfl
    | some text =>
      simp only [assignedResult, effect] at assigned
      cases given : post.result with
      | none =>
        rw [(unset given).2] at effect
        cases effect
      | some u =>
        rw [given] at assigned
        exact assigned

theorem Effects.distinctFrame (d : Declares subject method dependencies frame unknowns)
    (e : Effects subject method frame post result) : (frame.withPost post).Distinct := by
  obtain ⟨fields, statics, -⟩ := applyEffects_ok (i := .zeros) e.applied
  refine ⟨d.distinctFrame.params, ?_, ?_⟩
  · rw [Frame.withPost, fields.keys_eq]
    exact d.distinctFrame.fields
  · rw [Frame.withPost, statics.keys_eq]
    exact d.distinctFrame.statics

theorem Effects.environment_scope (d : Declares subject method dependencies frame unknowns)
    (e : Effects subject method frame post result) :
    (withResult ((frame.withPost post).scope method.isStatic subject.simpleName) result).environment i =
      after subject method dependencies i := by
  rw [Frame.environment_scope (e.distinctFrame d), e.state d]
  rfl

end Covenant
