import Covenant.Proofs.Clause.Divisors
import Covenant.Proofs.Model.Condition

namespace Covenant

open Clause (Binding Context Scope)

def Clause.dividesByLiterals (text : String) : Bool := (Clause.parse text).all (·.dividesByLiterals)

structure FiniteCases (subject : ClassModel) (method : MethodModel) (dependencies : List ClassModel) : Prop where
  sorts : ∀ x ∈ methodVariables subject method dependencies, x.ty = .int ∨ x.ty = .bool
  result : method.returns.isNull = true ∨ (method.effect? "result").isSome = true
  requires : Clause.dividesByLiterals method.requires = true
  ensures : Clause.dividesByLiterals method.ensures = true
  invariant : ∀ text ∈ checkedInvariant subject method, Clause.dividesByLiterals text = true
  effects : ∀ effect ∈ method.effects, Clause.dividesByLiterals effect.2 = true

instance (subject : ClassModel) (method : MethodModel) (dependencies : List ClassModel) :
    Decidable (FiniteCases subject method dependencies) :=
  decidable_of_iff
    ((∀ x ∈ methodVariables subject method dependencies, x.ty = .int ∨ x.ty = .bool) ∧
      (method.returns.isNull = true ∨ (method.effect? "result").isSome = true) ∧
      Clause.dividesByLiterals method.requires = true ∧ Clause.dividesByLiterals method.ensures = true ∧
      (∀ text ∈ checkedInvariant subject method, Clause.dividesByLiterals text = true) ∧
      ∀ effect ∈ method.effects, Clause.dividesByLiterals effect.2 = true)
    ⟨fun ⟨sorts, result, requires, ensures, invariant, effects⟩ =>
      ⟨sorts, result, requires, ensures, invariant, effects⟩,
      fun h => ⟨h.sorts, h.result, h.requires, h.ensures, h.invariant, h.effects⟩⟩

variable {xs : List Variable}

theorem tame_term {context : Context} {text : String} {t : SomeTerm} (literals : Clause.dividesByLiterals text = true)
    (before : ∀ s ∈ context.old, s.Tame xs) (now : context.current.Tame xs) (h : context.term text = .ok t) :
    t.Tame xs := by
  obtain ⟨e, parsed, h⟩ := term_ok h
  rw [Clause.dividesByLiterals, parsed] at literals
  exact e.tame_toTerm before now literals h

theorem tame_boolTerm {context : Context} {text : String} {x : Term .bool}
    (literals : Clause.dividesByLiterals text = true) (before : ∀ s ∈ context.old, s.Tame xs)
    (now : context.current.Tame xs) (h : context.boolTerm text = .ok x) : x.Tame xs :=
  tame_term literals before now (boolTerm_ok h)

/-! ## Frames -/

def Terms.Tame (xs : List Variable) (ts : Terms) : Prop := ∀ entry ∈ ts, entry.2.Tame xs

structure Frame.Tame (xs : List Variable) (f : Frame) : Prop where
  params : Terms.Tame xs f.params
  fields : Terms.Tame xs f.fields
  statics : Terms.Tame xs f.statics
  owners : ∀ name members, f.owners.lookup name = some members → Terms.Tame xs members

theorem Frame.Tame.scope {f : Frame} (tame : f.Tame xs) (distinct : f.Distinct) (isStatic : Bool)
    (simpleName : String) : (f.scope isStatic simpleName).Tame xs := by
  intro name b found
  rw [Frame.find?_scope distinct] at found
  split at found
  · cases found
    exact tame.statics
  · split at found
    · cases found
      exact tame.fields
    · rcases Option.or_eq_some_iff.mp found with value | ⟨-, owner⟩
      · obtain ⟨t, located, rfl⟩ := Option.map_eq_some_iff.mp value
        rcases Option.or_eq_some_iff.mp located with param | ⟨-, located⟩
        · exact tame.params _ (mem_of_lookup param)
        rcases Option.or_eq_some_iff.mp located with field | ⟨-, static⟩
        · exact tame.fields _ (mem_of_lookup field)
        · exact tame.statics _ (mem_of_lookup static)
      · obtain ⟨members, located, rfl⟩ := Option.map_eq_some_iff.mp owner
        exact tame.owners name members located

theorem tame_withResult {scope : Scope} {result : Option SomeTerm} (tame : scope.Tame xs)
    (resulting : ∀ t ∈ result, t.Tame xs) : (withResult scope result).Tame xs := by
  cases result with
  | none => exact tame
  | some t =>
    intro name b found
    rw [withResult, Scope.find?_bind] at found
    split at found
    · cases found
      exact resulting t rfl
    · exact tame name b found

theorem tame_declaredTerms {variableName : String → String} {ds : Declarations}
    (declared : ∀ x ∈ declaredVariables variableName ds, x ∈ xs) : (declaredTerms variableName ds).Tame xs := by
  intro entry member
  obtain ⟨⟨name, typeName⟩, inDeclarations, made⟩ := List.mem_filterMap.mp member
  obtain ⟨ty, known, rfl⟩ := Option.map_eq_some_iff.mp made
  refine declared ⟨variableName name, ty⟩ (List.mem_filterMap.mpr ⟨(name, typeName), inDeclarations, ?_⟩)
  simp [known]

variable {subject : ClassModel} {method : MethodModel} {dependencies : List ClassModel} {frame : Frame}
  {unknowns : List Variable}

theorem Declares.tame (d : Declares subject method dependencies frame unknowns) : frame.Tame unknowns := by
  rw [d.unknown]
  refine ⟨?_, ?_, ?_, ?_⟩
  · rw [d.params]
    exact tame_declaredTerms fun x member => by simp [methodVariables, member]
  · rw [d.fields]
    exact tame_declaredTerms fun x member => by simp [methodVariables, member]
  · rw [d.statics]
    exact tame_declaredTerms fun x member => by simp [methodVariables, staticsOf, member]
  · intro name members found
    rw [d.owners, lookup_putOwners, lookup_reverse_ownersOf] at found
    rcases Option.or_eq_some_iff.mp found with found | ⟨-, found⟩
    · obtain ⟨m, owner, rfl⟩ := Option.map_eq_some_iff.mp found
      have inDependencies : m ∈ dependencies := List.mem_reverse.mp (List.mem_of_find?_eq_some owner)
      refine tame_declaredTerms fun x member => List.mem_append_right _ ?_
      exact List.mem_flatMap.mpr ⟨m, inDependencies, member⟩
    · cases found

/-! ## Effects -/

structure PostState.Tame (xs : List Variable) (post : PostState) : Prop where
  fields : Terms.Tame xs post.fields
  statics : Terms.Tame xs post.statics
  result : ∀ t ∈ post.result, t.Tame xs

theorem tame_setTerm {ts : Terms} {target : String} {t : SomeTerm} (tame : ts.Tame xs) (assigned : t.Tame xs) :
    (setTerm ts target t).Tame xs := by
  intro entry member
  obtain ⟨⟨name, old⟩, inTerms, rfl⟩ := List.mem_map.mp member
  by_cases here : name = target
  · simp only [here, if_true]
    exact assigned
  · simp only [here, if_false]
    exact tame _ inTerms

theorem tame_fitTo {place : Place} {t u : SomeTerm} {ty : Ty} (tame : t.Tame xs) (h : fitTo place t ty = .ok u) :
    u.Tame xs := by
  unfold fitTo at h
  split at h
  · rename_i x fits
    cases h
    obtain ⟨_ | _ | _, t⟩ := t <;> obtain _ | _ | _ := ty <;> cases fits <;> exact tame
  · cases h

theorem tame_fitResult {place : Place} {returns : Value} {t u : SomeTerm} (tame : t.Tame xs)
    (h : fitResult place returns t = .ok u) : u.Tame xs := by
  unfold fitResult at h
  split at h
  · cases h
    exact tame
  · obtain ⟨ty, -, fits⟩ := bind_eq_ok.mp h
    exact tame_fitTo tame fits

theorem tame_applyEffect {scope : Scope} {returns : Value} {post next : PostState} {target text : String}
    (inScope : scope.Tame xs) (literals : Clause.dividesByLiterals text = true) (tame : post.Tame xs)
    (h : applyEffect ⟨scope, some scope⟩ frame returns post target text = .ok next) : next.Tame xs := by
  obtain ⟨t, u, term, step⟩ := applyEffect_ok h
  have read : t.Tame xs := tame_term literals (fun s old => by cases old; exact inScope) inScope term
  rcases step with ⟨-, fits, rfl⟩ | ⟨-, location, -, fits, rfl⟩ | ⟨-, -, location, -, fits, rfl⟩
  · refine ⟨tame.fields, tame.statics, ?_⟩
    intro v isResult
    cases isResult
    exact tame_fitResult read fits
  · exact ⟨tame_setTerm tame.fields (tame_fitTo read fits), tame.statics, tame.result⟩
  · exact ⟨tame.fields, tame_setTerm tame.statics (tame_fitTo read fits), tame.result⟩

theorem tame_applyEffects {scope : Scope} {returns : Value} {effects : Declarations} {post next : PostState}
    (inScope : scope.Tame xs) (literals : ∀ effect ∈ effects, Clause.dividesByLiterals effect.2 = true)
    (tame : post.Tame xs) (h : applyEffects ⟨scope, some scope⟩ frame returns post effects = .ok next) :
    next.Tame xs := by
  induction effects generalizing post with
  | nil =>
    cases h
    exact tame
  | cons effect rest ih =>
    obtain ⟨mid, step, h⟩ := bind_eq_ok.mp h
    obtain ⟨first, others⟩ := List.forall_mem_cons.mp literals
    exact ih others (tame_applyEffect inScope first tame step) h

theorem Effects.tame {post : PostState} {result : Option SomeTerm} (finite : FiniteCases subject method dependencies)
    (d : Declares subject method dependencies frame unknowns) (e : Effects subject method frame post result) :
    post.Tame unknowns ∧ ∀ t ∈ result, t.Tame unknowns := by
  have start : PostState.Tame unknowns ⟨frame.fields, frame.statics, none⟩ :=
    ⟨d.tame.fields, d.tame.statics, fun t absent => nomatch absent⟩
  have tame := tame_applyEffects (d.tame.scope d.distinctFrame _ _) finite.effects start e.applied
  refine ⟨tame, ?_⟩
  have resulting := e.result
  unfold resultTerm at resulting
  split at resulting
  · rename_i t assigned
    cases resulting
    rintro u isResult
    exact tame.result u (assigned ▸ isResult)
  · rename_i unassigned
    split at resulting
    · cases resulting
      exact fun t absent => nomatch absent
    · -- a result that no effect assigns would be a variable of its own
      rename_i declared
      have noEffect := ((applyEffects_ok (i := .zeros) e.applied).2.2.2 unassigned).2
      rcases finite.result with undeclared | assigned
      · exact absurd undeclared declared
      · rw [MethodModel.effect?, noEffect] at assigned
        cases assigned

/-! ## Constraints -/

variable {bits : Nat} {enc : Encoding}

theorem Encoding.tame_bounds : ∀ c ∈ enc.bounds, Term.Tame enc.unknowns c := by
  intro c member
  obtain ⟨⟨name, ty⟩, unknown, made⟩ := List.mem_filterMap.mp member
  obtain _ | _ | _ := ty <;> cases made
  exact ⟨⟨trivial, unknown⟩, ⟨unknown, trivial⟩, trivial⟩

namespace Encodes

theorem tame_preScope (e : Encodes subject method dependencies bits enc) :
    (preScope subject method e.frame).Tame enc.unknowns :=
  e.declares.tame.scope e.declares.distinctFrame _ _

theorem tame_postScope (finite : FiniteCases subject method dependencies)
    (e : Encodes subject method dependencies bits enc) :
    (postScope subject method e.frame e.post e.result).Tame enc.unknowns := by
  obtain ⟨post, result⟩ := e.effects.tame finite e.declares
  have frame : (e.frame.withPost e.post).Tame enc.unknowns :=
    ⟨e.declares.tame.params, post.fields, post.statics, e.declares.tame.owners⟩
  exact tame_withResult (frame.scope (e.effects.distinctFrame e.declares) _ _) result

theorem tame_before (e : Encodes subject method dependencies bits enc) {text : String} {x : Term .bool}
    (literals : Clause.dividesByLiterals text = true)
    (h : Context.boolTerm ⟨preScope subject method e.frame, none⟩ text = .ok x) : x.Tame enc.unknowns := by
  refine tame_boolTerm literals (fun s old => ?_) e.tame_preScope h
  cases old

theorem tame_after (finite : FiniteCases subject method dependencies) (e : Encodes subject method dependencies bits enc)
    {text : String} {x : Term .bool} (literals : Clause.dividesByLiterals text = true)
    (h : Context.boolTerm ⟨postScope subject method e.frame e.post e.result, some (preScope subject method e.frame)⟩
      text = .ok x) : x.Tame enc.unknowns := by
  refine tame_boolTerm literals (fun s old => ?_) (e.tame_postScope finite) h
  cases old
  exact e.tame_preScope

theorem tame_invariants (finite : FiniteCases subject method dependencies)
    (e : Encodes subject method dependencies bits enc) :
    ∀ p ∈ e.invariants, Term.Tame enc.unknowns p.1 ∧ Term.Tame enc.unknowns p.2 := by
  have literals := finite.invariant
  have invariant := e.invariant
  revert literals invariant
  generalize checkedInvariant subject method = text?, e.invariants = terms
  rintro literals (_ | ⟨pre, post⟩) p member
  · cases member
  · cases List.mem_singleton.mp member
    exact ⟨e.tame_before (literals _ rfl) pre, e.tame_after finite (literals _ rfl) post⟩

theorem tame_constraints (finite : FiniteCases subject method dependencies)
    (e : Encodes subject method dependencies bits enc) : ∀ c ∈ enc.constraints, Term.Tame enc.unknowns c := by
  have required := e.tame_before finite.requires e.requires
  have ensured := e.tame_after finite finite.ensures e.ensures
  have invariants := e.tame_invariants finite
  intro c member
  rcases List.mem_append.mp member with member | negated
  · rcases List.mem_append.mp member with bound | assumed
    · exact Encoding.tame_bounds c bound
    · rw [e.assumptions] at assumed
      rcases List.mem_cons.mp assumed with rfl | assumed
      · exact required
      · obtain ⟨p, inInvariants, rfl⟩ := List.mem_map.mp assumed
        exact (invariants p inInvariants).1
  · cases List.mem_singleton.mp negated
    rw [e.obligations]
    refine ⟨ensured, Term.allTame_iff.mpr fun c obligation => ?_⟩
    obtain ⟨p, inInvariants, rfl⟩ := List.mem_map.mp obligation
    exact (invariants p inInvariants).2

end Encodes

end Covenant
