import Covenant.Proofs.Clause.Errors
import Covenant.Proofs.Model.Condition

namespace Covenant

open Clause (Context)

/-- The clause is read at the place and in the context when the method is encoded. -/
inductive Poses (subject : ClassModel) (method : MethodModel) (dependencies : List ClassModel) :
    Place → Context → String → Prop
  | effect {frame : Frame} {unknowns : List Variable} {target text : String}
      (declared : (declareFrame subject method dependencies).run [] = .ok (frame, unknowns))
      (member : (target, text) ∈ method.effects) :
      Poses subject method dependencies (.effect target)
        ⟨preScope subject method frame, some (preScope subject method frame)⟩ text
  | precondition {frame : Frame} {unknowns : List Variable}
      (declared : (declareFrame subject method dependencies).run [] = .ok (frame, unknowns)) :
      Poses subject method dependencies .precondition ⟨preScope subject method frame, none⟩ method.requires
  | postcondition {frame : Frame} {unknowns : List Variable} {post : PostState} {result : Option SomeTerm}
      (declared : (declareFrame subject method dependencies).run [] = .ok (frame, unknowns))
      (effects : Effects subject method frame post result) :
      Poses subject method dependencies .postcondition
        ⟨postScope subject method frame post result, some (preScope subject method frame)⟩ method.ensures
  | assumed {frame : Frame} {unknowns : List Variable} {text : String}
      (declared : (declareFrame subject method dependencies).run [] = .ok (frame, unknowns))
      (invariant : checkedInvariant subject method = some text) :
      Poses subject method dependencies .invariant ⟨preScope subject method frame, none⟩ text
  | kept {frame : Frame} {unknowns : List Variable} {post : PostState} {result : Option SomeTerm} {text : String}
      (declared : (declareFrame subject method dependencies).run [] = .ok (frame, unknowns))
      (effects : Effects subject method frame post result) (invariant : checkedInvariant subject method = some text) :
      Poses subject method dependencies .invariant
        ⟨postScope subject method frame post result, some (preScope subject method frame)⟩ text

def Place.HasTerm (place : Place) (context : Context) (text : String) : Prop :=
  match place with
  | .effect _ => ∃ t, context.term text = .ok t
  | _ => ∃ x, context.boolTerm text = .ok x

def EncodingError.IsDoubt : EncodingError → Prop
  | .clause _ _ err => err.IsDoubt
  | .longNumber => False
  | _ => True

/-! ## Declaring -/

def Declaring.Doubts {α : Type} (x : Declaring α) : Prop := ∀ xs err, x.run xs = .error err → err.IsDoubt

namespace Declaring.Doubts

variable {α β : Type}

theorem of_pure (a : α) : Doubts (pure a) := nofun

theorem bind {x : Declaring α} {f : α → Declaring β} (hx : Doubts x) (hf : ∀ a, Doubts (f a)) : Doubts (x >>= f) := by
  intro xs err h
  rw [StateT.run_bind] at h
  rcases bind_eq_error.mp h with first | ⟨⟨a, ys⟩, -, second⟩
  · exact hx xs err first
  · exact hf a ys err second

theorem of_throw {err : EncodingError} (h : err.IsDoubt) : Doubts (throw err : Declaring α) := by
  rintro xs _ ⟨⟩
  exact h

theorem typed (name typeName : String) : Doubts (do
    match Clause.sortOf? typeName with
    | none => throw (.unknownType typeName)
    | some ty =>
      modify (· ++ [⟨name, ty⟩])
      return ⟨ty, .var name ty⟩ : Declaring SomeTerm) := by
  split
  · exact .of_throw trivial
  · exact .bind nofun fun _ => .of_pure _

theorem declareVariable (name typeName : String) : Doubts (Covenant.declareVariable name typeName) := by
  unfold Covenant.declareVariable
  refine .bind nofun fun xs => ?_
  by_cases twice : xs.any (·.name = name) = true
  · simp only [twice, if_true]
    exact .bind (.of_throw trivial) fun _ => .typed name typeName
  · simp only [twice]
    exact .typed name typeName

theorem declareAll (variableName : String → String) (ds : Declarations) :
    Doubts (Covenant.declareAll variableName ds) := by
  induction ds with
  | nil => exact .of_pure []
  | cons d rest ih => exact .bind (.declareVariable _ _) fun _ => .bind ih fun _ => .of_pure _

theorem declareOwners (ms : List ClassModel) : Doubts (Covenant.declareOwners ms) := by
  induction ms with
  | nil => exact .of_pure []
  | cons m rest ih => exact .bind (.declareAll _ _) fun _ => .bind ih fun _ => .of_pure _

theorem declareFrame (subject : ClassModel) (method : MethodModel) (dependencies : List ClassModel) :
    Doubts (Covenant.declareFrame subject method dependencies) := by
  unfold Covenant.declareFrame
  refine .bind (.declareAll _ _) fun params => ?_
  have rest {x : Declaring Terms} {f : Terms → Terms → List (String × Terms) → Frame} (hx : Doubts x) :
      Doubts (do
        let fields ← x
        let statics ← declareStatics subject
        let owners ← Covenant.declareOwners dependencies
        return f fields statics owners) :=
    .bind hx fun _ => .bind (.declareAll _ _) fun _ => .bind (.declareOwners _) fun _ => .of_pure _
  split
  · exact rest (.of_pure _)
  · exact rest (.declareAll _ _)

end Declaring.Doubts

/-! ## Effects and the result -/

/-- What the model gives as values of any kind, and not as texts, can be written as texts. -/
structure TextsWritten (subject : ClassModel) (method : MethodModel) : Prop where
  returns : method.returns.isNull = false → method.returns.text?.isSome = true
  invariant : subject.invariant.truthy = true → subject.invariant.text?.isSome = true

variable {returns : Value} {err : EncodingError}

theorem returnSort_doubt (written : returns.text?.isSome = true) (h : returnSort returns = .error err) :
    err.IsDoubt := by
  unfold returnSort at h
  split at h
  · rename_i unwritten
    rw [unwritten] at written
    cases written
  · split at h
    · cases h
    · cases h
      trivial

theorem fitTo_doubt {place : Place} {t : SomeTerm} {ty : Ty} (h : fitTo place t ty = .error err) : err.IsDoubt := by
  unfold fitTo at h
  split at h
  · cases h
  · cases h
    trivial

theorem fitResult_doubt {place : Place} {t : SomeTerm}
    (written : returns.isNull = false → returns.text?.isSome = true) (h : fitResult place returns t = .error err) :
    err.IsDoubt := by
  unfold fitResult at h
  split at h
  · cases h
  · rename_i declared
    rcases bind_eq_error.mp h with unsorted | ⟨ty, -, unfit⟩
    · exact returnSort_doubt (written (by simpa using declared)) unsorted
    · exact fitTo_doubt unfit

theorem applyEffect_doubt {context : Context} {pre : Frame} {post : PostState} {target text : String}
    (proper : context.Proper text) (written : returns.isNull = false → returns.text?.isSome = true)
    (h : applyEffect context pre returns post target text = .error err) : err.IsDoubt := by
  unfold applyEffect at h
  rcases bind_eq_error.mp h with bad | ⟨t, -, h⟩
  · obtain ⟨clauseError, failed, rfl⟩ := mapError_eq_error.mp bad
    exact proper.doubt failed
  · split at h
    · rcases bind_eq_error.mp h with unfit | ⟨_, -, made⟩
      · exact fitResult_doubt written unfit
      · cases made
    · split at h
      · rcases bind_eq_error.mp h with unfit | ⟨_, -, made⟩
        · exact fitTo_doubt unfit
        · cases made
      · split at h
        · rcases bind_eq_error.mp h with unfit | ⟨_, -, made⟩
          · exact fitTo_doubt unfit
          · cases made
        · cases h
          trivial

theorem applyEffects_doubt {context : Context} {pre : Frame} {post : PostState} {effects : Declarations}
    (proper : ∀ effect ∈ effects, context.Proper effect.2)
    (written : returns.isNull = false → returns.text?.isSome = true)
    (h : applyEffects context pre returns post effects = .error err) : err.IsDoubt := by
  induction effects generalizing post with
  | nil => cases h
  | cons effect rest ih =>
    obtain ⟨here, later⟩ := List.forall_mem_cons.mp proper
    rcases bind_eq_error.mp h with failed | ⟨next, -, h⟩
    · exact applyEffect_doubt here written failed
    · exact ih later h

theorem terms_of_applyEffects {context : Context} {pre : Frame} {post last : PostState} {effects : Declarations}
    (h : applyEffects context pre returns post effects = .ok last) :
    ∀ effect ∈ effects, ∃ t, context.term effect.2 = .ok t := by
  induction effects generalizing post with
  | nil => nofun
  | cons effect rest ih =>
    obtain ⟨next, applied, h⟩ := bind_eq_ok.mp h
    obtain ⟨t, made, -⟩ := bind_eq_ok.mp applied
    exact List.forall_mem_cons.mpr ⟨⟨t, mapError_eq_ok.mp made⟩, ih h⟩

theorem resultTerm_doubt {post : PostState} (written : returns.isNull = false → returns.text?.isSome = true)
    (h : resultTerm returns post = .error err) : err.IsDoubt := by
  unfold resultTerm at h
  split at h
  · cases h
  · split at h
    · cases h
    · rename_i declared
      rcases bind_eq_error.mp h with unsorted | ⟨ty, -, made⟩
      · exact returnSort_doubt (written (by simpa using declared)) unsorted
      · cases made

theorem clauseAt_doubt {place : Place} {context : Context} {text : String} (proper : context.Proper text)
    (h : Encoding.clauseAt place context text = .error err) : err.IsDoubt := by
  obtain ⟨clauseError, failed, rfl⟩ := mapError_eq_error.mp h
  exact proper.boolDoubt failed

/-! ## The whole method -/

variable {subject : ClassModel} {method : MethodModel} {dependencies : List ClassModel} {bits : Nat}

theorem Effects.unique {frame : Frame} {post post' : PostState} {result result' : Option SomeTerm}
    (h : Effects subject method frame post result) (h' : Effects subject method frame post' result') :
    post' = post ∧ result' = result := by
  have same : post' = post := Except.ok.inj (h'.applied.symm.trans h.applied)
  subst same
  exact ⟨rfl, Except.ok.inj (h'.result.symm.trans h.result)⟩

theorem hasTerm_of_terms {frame : Frame} {unknowns : List Variable} {post : PostState} {result : Option SomeTerm}
    (declared : (declareFrame subject method dependencies).run [] = .ok (frame, unknowns))
    (effects : Effects subject method frame post result) {required ensured : Term .bool}
    (requires : Context.boolTerm ⟨preScope subject method frame, none⟩ method.requires = .ok required)
    (ensures : Context.boolTerm ⟨postScope subject method frame post result, some (preScope subject method frame)⟩
      method.ensures = .ok ensured)
    (invariant : ∀ text, checkedInvariant subject method = some text →
      (∃ x, Context.boolTerm ⟨preScope subject method frame, none⟩ text = .ok x) ∧
        ∃ x, Context.boolTerm ⟨postScope subject method frame post result, some (preScope subject method frame)⟩
          text = .ok x)
    {place : Place} {context : Context} {text : String} (posed : Poses subject method dependencies place context text) :
    place.HasTerm context text := by
  cases posed with
  | effect declared' member =>
    cases declared.symm.trans declared'
    exact terms_of_applyEffects effects.applied _ member
  | precondition declared' =>
    cases declared.symm.trans declared'
    exact ⟨required, requires⟩
  | postcondition declared' effects' =>
    cases declared.symm.trans declared'
    obtain ⟨rfl, rfl⟩ := effects.unique effects'
    exact ⟨ensured, ensures⟩
  | assumed declared' checked =>
    cases declared.symm.trans declared'
    exact (invariant text checked).1
  | kept declared' effects' checked =>
    cases declared.symm.trans declared'
    obtain ⟨rfl, rfl⟩ := effects.unique effects'
    exact (invariant text checked).2

def DoubtOr {α : Type} (r : Except EncodingError α) (P : Prop) : Prop := (∃ err, r = .error err ∧ err.IsDoubt) ∨ P

theorem DoubtOr.bind {α β : Type} {x : Except EncodingError α} {f : α → Except EncodingError β} {P : Prop}
    (hx : ∀ err, x = .error err → err.IsDoubt) (hf : ∀ a, x = .ok a → DoubtOr (f a) P) : DoubtOr (x >>= f) P := by
  cases x with
  | error err => exact .inl ⟨err, rfl, hx err rfl⟩
  | ok a => exact hf a rfl

theorem ofMethod_doubtOr (written : TextsWritten subject method)
    (proper : ∀ place context text, Poses subject method dependencies place context text → context.Proper text) :
    DoubtOr (Encoding.ofMethod subject method dependencies bits)
      (∀ place context text, Poses subject method dependencies place context text → place.HasTerm context text) := by
  refine .bind (Declaring.Doubts.declareFrame _ _ _ _) ?_
  rintro ⟨frame, unknowns⟩ declared
  refine .bind (fun _ => applyEffects_doubt ?_ written.returns) fun post applied => ?_
  · exact fun effect member => proper _ _ _ (.effect declared member)
  refine .bind (fun _ => resultTerm_doubt written.returns) fun result resulting => ?_
  have effects : Effects subject method frame post result := ⟨applied, resulting⟩
  refine .bind (fun _ => clauseAt_doubt (proper _ _ _ (.precondition declared))) fun required requires => ?_
  -- the scope after the call is made by cases on the result
  refine .bind (fun _ failed => ?_) fun ensured ensures => ?_
  · exact clauseAt_doubt (proper _ _ _ (.postcondition declared effects)) (by cases result <;> exact failed)
  replace ensures : Encoding.clauseAt .postcondition ⟨postScope subject method frame post result,
      some (preScope subject method frame)⟩ method.ensures = .ok ensured := by cases result <;> exact ensures
  by_cases isChecked : (subject.invariant.truthy && !method.isStatic) = true
  · obtain ⟨text, text_eq⟩ := Option.isSome_iff_exists.mp
      (written.invariant ((Bool.and_eq_true _ _).mp isChecked).1)
    have checked : checkedInvariant subject method = some text := by
      simp only [checkedInvariant, isChecked, if_true, text_eq]
    simp only [isChecked, if_true, text_eq]
    refine .bind (by rintro _ ⟨⟩) ?_
    rintro _ ⟨⟩
    refine .bind (fun _ => clauseAt_doubt (proper _ _ _ (.assumed declared checked))) fun assumed pre => ?_
    refine .bind (fun _ failed => ?_) fun kept again => .inr ?_
    · exact clauseAt_doubt (proper _ _ _ (.kept declared effects checked)) (by cases result <;> exact failed)
    · intro _ _ _ posed
      refine hasTerm_of_terms declared effects (clauseAt_ok requires) (clauseAt_ok ensures) ?_ posed
      intro text' checked'
      cases checked.symm.trans checked'
      exact ⟨⟨assumed, clauseAt_ok pre⟩, kept, by cases result <;> exact clauseAt_ok again⟩
  · have unchecked : checkedInvariant subject method = none := by
      simp only [checkedInvariant, isChecked]
      rfl
    right
    intro _ _ _ posed
    refine hasTerm_of_terms declared effects (clauseAt_ok requires) (clauseAt_ok ensures) ?_ posed
    intro text checked
    rw [unchecked] at checked
    cases checked

end Covenant
