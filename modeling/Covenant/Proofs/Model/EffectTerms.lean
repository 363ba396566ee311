import Covenant.Proofs.Model.Readings

namespace Covenant

open Clause (Context Scope)

inductive Table where
  | fields
  | statics
deriving Repr, DecidableEq

/-- The table that an effect on a name writes to; an effect on `result` writes to neither. -/
def Frame.table? (pre : Frame) (target : String) : Option Table :=
  if target = "result" then none else if (pre.fields.lookup target).isSome then some .fields else some .statics

def PostState.held (post : PostState) : Table → Terms
  | .fields => post.fields
  | .statics => post.statics

def effectTerm (context : Context) (pre : Frame) (returns : Value) (target text : String) :
    Except EncodingError SomeTerm := do
  let t ← (context.term text).mapError (.clause (.effect target) text)
  if target = "result" then fitResult (.effect target) returns t
  else match (pre.fields.lookup target).or (pre.statics.lookup target) with
    | some location => fitTo (.effect target) t location.ty
    | none => throw (.noLocation (.effect target))

def PostState.assign (post : PostState) (pre : Frame) (target : String) (u : SomeTerm) : PostState :=
  match pre.table? target with
  | none => { post with result := some u }
  | some .fields => { post with fields := setTerm post.fields target u }
  | some .statics => { post with statics := setTerm post.statics target u }

def PostState.assignAll (post : PostState) (pre : Frame) (us : Terms) : PostState :=
  us.foldl (fun p u => p.assign pre u.1 u.2) post

def effectTerms (context : Context) (pre : Frame) (returns : Value) (es : Declarations) : Except EncodingError Terms :=
  es.mapM fun e => do return (e.1, ← effectTerm context pre returns e.1 e.2)

variable {context : Context} {pre : Frame} {returns : Value}

theorem applyEffect_eq (post : PostState) (target text : String) :
    applyEffect context pre returns post target text =
      (effectTerm context pre returns target text).map (post.assign pre target) := by
  simp only [applyEffect, effectTerm]
  cases context.term text with
  | error err => rfl
  | ok t =>
    simp only [Except.mapError, ok_bind]
    by_cases isResult : target = "result"
    · have nowhere : pre.table? target = none := by simp [Frame.table?, isResult]
      rw [if_pos isResult, if_pos isResult]
      cases fitResult (.effect target) returns t with
      | error err => rfl
      | ok u =>
        simp only [Except.map, PostState.assign, nowhere]
        rfl
    · rw [if_neg isResult, if_neg isResult]
      cases inFields : pre.fields.lookup target with
      | some location =>
        have table : pre.table? target = some .fields := by simp [Frame.table?, isResult, inFields]
        simp only [Option.some_or]
        cases fitTo (.effect target) t location.ty with
        | error err => rfl
        | ok u =>
          simp only [Except.map, PostState.assign, table]
          rfl
      | none =>
        have table : pre.table? target = some .statics := by simp [Frame.table?, isResult, inFields]
        simp only [Option.none_or]
        cases pre.statics.lookup target with
        | none => rfl
        | some location =>
          simp only
          cases fitTo (.effect target) t location.ty with
          | error err => rfl
          | ok u =>
            simp only [Except.map, PostState.assign, table]
            rfl

theorem applyEffects_eq (post : PostState) (es : Declarations) :
    applyEffects context pre returns post es =
      (effectTerms context pre returns es).map (post.assignAll pre) := by
  induction es generalizing post with
  | nil => rfl
  | cons e rest ih =>
    obtain ⟨target, text⟩ := e
    rw [applyEffects, applyEffect_eq, effectTerms, List.mapM_cons]
    cases effectTerm context pre returns target text with
    | error err => rfl
    | ok u =>
      simp only [Except.map, ok_bind, ih]
      rw [effectTerms]
      cases rest.mapM fun e => do return (e.1, ← effectTerm context pre returns e.1 e.2) with
      | error err => rfl
      | ok us => rfl

theorem keys_effectTerms {es : Declarations} {us : Terms} (h : effectTerms context pre returns es = .ok us) :
    us.map (·.1) = es.map (·.1) := by
  induction es generalizing us with
  | nil =>
    cases h
    rfl
  | cons e rest ih =>
    rw [effectTerms, List.mapM_cons] at h
    obtain ⟨u, assigned, h⟩ := bind_eq_ok.mp h
    obtain ⟨others, assignedRest, made⟩ := bind_eq_ok.mp h
    obtain ⟨t, -, first⟩ := bind_eq_ok.mp assigned
    cases first
    cases made
    rw [List.map_cons, List.map_cons, ih assignedRest]

/-! ## What is held after a run -/

theorem held_assign (post : PostState) (target : String) (u : SomeTerm) (table : Table) (name : String) :
    ((post.assign pre target u).held table).lookup name =
      ((post.held table).lookup name).map fun t => if name = target ∧ pre.table? name = some table then u else t := by
  have kept : ∀ x : Option SomeTerm, x = x.map fun t => t := fun x => by simp
  unfold PostState.assign
  cases written : pre.table? target with
  | none =>
    have never : ¬ (name = target ∧ pre.table? name = some table) := by
      rintro ⟨rfl, here⟩
      rw [written] at here
      cases here
    simp only [never, if_false]
    cases table <;> exact kept _
  | some other =>
    by_cases same : name = target
    · subst same
      simp only [written, true_and, Option.some.injEq]
      cases other <;> cases table <;> simp [PostState.held, lookup_setTerm]
    · simp only [same, false_and, if_false]
      cases other <;> cases table <;> simp [PostState.held, lookup_setTerm, same]

theorem held_assignAll (post : PostState) (us : Terms) (table : Table) (name : String) :
    ((post.assignAll pre us).held table).lookup name =
      ((post.held table).lookup name).map fun t =>
        if pre.table? name = some table then (us.reverse.lookup name).getD t else t := by
  induction us generalizing post with
  | nil => simp [PostState.assignAll]
  | cons u rest ih =>
    obtain ⟨target, u⟩ := u
    have step : post.assignAll pre ((target, u) :: rest) = (post.assign pre target u).assignAll pre rest := rfl
    rw [step, ih, held_assign, Option.map_map, List.reverse_cons, List.lookup_append, lookup_cons_eq]
    congr 1
    funext t
    simp only [Function.comp_apply]
    by_cases here : pre.table? name = some table
    · cases rest.reverse.lookup name with
      | some later => simp [here]
      | none => by_cases same : name = target <;> simp [here, same]
    · simp [here]

theorem result_assignAll (post : PostState) (us : Terms) :
    (post.assignAll pre us).result = (us.reverse.lookup "result").or post.result := by
  induction us generalizing post with
  | nil => rfl
  | cons u rest ih =>
    obtain ⟨target, u⟩ := u
    have step : post.assignAll pre ((target, u) :: rest) = (post.assign pre target u).assignAll pre rest := rfl
    have assigned : (post.assign pre target u).result = if "result" = target then some u else post.result := by
      unfold PostState.assign Frame.table?
      by_cases isResult : target = "result"
      · simp [isResult]
      · rw [if_neg isResult, if_neg (Ne.symm isResult)]
        cases (pre.fields.lookup target).isSome <;> rfl
    rw [step, ih, assigned, List.reverse_cons, List.lookup_append, lookup_cons_eq]
    cases rest.reverse.lookup "result" with
    | some later => rfl
    | none => by_cases isResult : "result" = target <;> simp [isResult]

variable {subject : ClassModel} {method : MethodModel} {frame : Frame} {post : PostState} {result : Option SomeTerm}

theorem Effects.terms (e : Effects subject method frame post result) :
    ∃ us, effectTerms ⟨preScope subject method frame, some (preScope subject method frame)⟩ frame method.returns
        method.effects = .ok us ∧ post = PostState.assignAll ⟨frame.fields, frame.statics, none⟩ frame us := by
  have applied := e.applied
  simp only [applyEffects_eq] at applied
  cases assigned : effectTerms ⟨preScope subject method frame, some (preScope subject method frame)⟩ frame
      method.returns method.effects with
  | error err =>
    rw [preScope] at assigned
    rw [assigned] at applied
    cases applied
  | ok us =>
    rw [preScope] at assigned
    rw [assigned] at applied
    exact ⟨us, rfl, (Except.ok.inj applied).symm⟩

end Covenant
