import Covenant.Proofs.Model.ClassInvariant
import Covenant.Proofs.Term.Assign

/-!
# Results that no effect specifies

A method that declares a result without an effect on it may return anything of the declared sort. Its result is encoded
as one more variable, `result`. If no parameter has that variable, a method whose constraints cannot be satisfied keeps
its contract whatever it returns. A parameter `result` of the same sort has it too, so only methods that return this
parameter are looked at, and a contract that other results break is proved.
-/

namespace Covenant

open Clause (Environment)
open Interpretation (zeros)

def State.returning (s : State) (v : SomeVal) : State := { s with result := some v }

def Interpretation.returning (i : Interpretation) {ty : Ty} (v : ty.Val) : Interpretation :=
  i.extend (.single ⟨"result", ty⟩ v)

def MethodModel.OwnsResult (m : MethodModel) : Prop :=
  ∀ p ∈ m.params, p.1 = "result" → Clause.sortOf? p.2 ≠ m.resultSort?

variable {subject : ClassModel} {method : MethodModel} {dependencies : List ClassModel} {bits : Nat} {enc : Encoding}
  {i : Interpretation} {ty : Ty} {v : ty.Val}

/-! ## What does not depend on the variable of the result -/

theorem dotted_ne_result (owner name : String) : dotted owner name ≠ "result" := by
  intro same
  have dot := dot_mem_dotted owner name
  rw [same] at dot
  revert dot
  decide

theorem atZero_returning : (i.returning v).atZero = i.atZero := rfl

theorem var_returning_self : (i.returning v).var "result" ty = v := by
  simp [Interpretation.returning, Interpretation.extend, Assignment.single]

theorem var_returning_other {name : String} {sort : Ty} (other : ¬ (name = "result" ∧ sort = ty)) :
    (i.returning v).var name sort = i.var name sort :=
  Term.extend_single ⟨"result", ty⟩ v name sort other

theorem read_returning {name typeName : String} (other : ¬ (name = "result" ∧ Clause.sortOf? typeName = some ty)) :
    (i.returning v).read name typeName = i.read name typeName := by
  unfold Interpretation.read
  cases known : Clause.sortOf? typeName with
  | none => rfl
  | some sort =>
    have apart : ¬ (name = "result" ∧ sort = ty) := by
      rintro ⟨named, rfl⟩
      exact other ⟨named, known⟩
    rw [Option.map_some, Option.map_some, var_returning_other apart]

theorem read_returning_dotted (owner name typeName : String) :
    (i.returning v).read (dotted owner name) typeName = i.read (dotted owner name) typeName :=
  read_returning fun same => dotted_ne_result owner name same.1

theorem preState_returning (sort : method.resultSort? = some ty) (own : method.OwnsResult) :
    preState subject method dependencies (i.returning v) = preState subject method dependencies i := by
  have params (p : String) : (method.params.lookup p).bind ((i.returning v).read p) =
      (method.params.lookup p).bind (i.read p) := by
    cases found : method.params.lookup p with
    | none => rfl
    | some typeName =>
      refine read_returning ?_
      rintro ⟨named, shared⟩
      exact own (p, typeName) (mem_of_lookup found) named (shared.trans sort.symm)
  have receiver (f : String) : (i.returning v).read (dotted "this" f) = i.read (dotted "this" f) :=
    funext (read_returning_dotted "this" f)
  have static (m : ClassModel) (f : String) :
      (i.returning v).read (dotted m.simpleName f) = i.read (dotted m.simpleName f) :=
    funext (read_returning_dotted m.simpleName f)
  simp only [preState, params, receiver, static]

theorem postState_returning (sort : method.resultSort? = some ty) (unassigned : method.effect? "result" = none)
    (own : method.OwnsResult) :
    postState subject method dependencies (i.returning v) =
      (postState subject method dependencies i).returning ⟨ty, v⟩ := by
  have free : (preState subject method dependencies i).effectValue subject method i.atZero "result" = none := by
    simp [State.effectValue, unassigned]
  simp only [postState, preState_returning sort own, atZero_returning, State.after, State.returning, free, sort,
    Option.map_some, var_returning_self]

theorem within_returning (sort : method.resultSort? = some ty) (own : method.OwnsResult)
    (h : Within bits (methodVariables subject method dependencies) i) :
    Within bits (methodVariables subject method dependencies) (i.returning v) := by
  intro x member isInt
  have apart : ¬ (x.name = "result" ∧ .int = ty) := by
    rintro ⟨named, rfl⟩
    simp only [methodVariables, staticsOf, declaredVariables, List.mem_append, List.mem_flatMap, List.mem_filterMap,
      Option.map_eq_some_iff] at member
    rcases member with ((⟨p, given, known, sorted, rfl⟩ | ⟨f, -, known, -, rfl⟩) | ⟨f, -, known, -, rfl⟩) |
      ⟨m, -, f, -, known, -, rfl⟩
    · cases isInt
      exact own p given named (sorted.trans sort.symm)
    · exact dotted_ne_result _ _ named
    · exact dotted_ne_result _ _ named
    · exact dotted_ne_result _ _ named
  rw [var_returning_other apart]
  exact h x member isInt

theorem resultSort?_of_encodes (e : Encodes subject method dependencies bits enc)
    (declared : method.returns.isNull = false) (unassigned : method.effect? "result" = none) :
    ∃ ty, method.resultSort? = some ty := by
  -- the effects leave no result, so its sort has been asked for
  obtain ⟨-, -, assigned, -⟩ := applyEffects_ok (i := zeros) e.effects.applied
  rw [assignedResult, show method.effects.reverse.lookup "result" = none from unassigned] at assigned
  have absent : e.post.result = none := Option.map_eq_none_iff.mp assigned
  have resulting := e.effects.result
  simp only [resultTerm, absent, declared] at resulting
  obtain ⟨ty, sort, -⟩ := bind_eq_ok.mp resulting
  exact ⟨ty, resultSort?_of_returnSort declared sort⟩

/-! ## Every result -/

theorem Encodes.decided_after (e : Encodes subject method dependencies bits enc)
    (unsatisfiable : ¬ ∀ c ∈ enc.constraints, c.eval i = true)
    (bounded : Within bits (methodVariables subject method dependencies) i)
    (requires : Decided true i.atZero none (before subject method dependencies i) method.requires)
    (invariant : ∀ text ∈ checkedInvariant subject method,
      Decided true i.atZero none (before subject method dependencies i) text) :
    Decided true i.atZero (some (before subject method dependencies i)) (after subject method dependencies i)
        method.ensures ∧
      ∀ text ∈ checkedInvariant subject method,
        Decided true i.atZero (some (before subject method dependencies i)) (after subject method dependencies i)
          text := by
  have kept (broken : Decided false i.atZero (some (before subject method dependencies i))
        (after subject method dependencies i) method.ensures ∨ ∃ text ∈ checkedInvariant subject method,
      Decided false i.atZero (some (before subject method dependencies i))
        (after subject method dependencies i) text) : False :=
    unsatisfiable (e.constraints_iff_counterexample.mpr ⟨bounded, requires, invariant, broken⟩)
  refine ⟨?_, ?_⟩
  · rw [e.ensures_iff true]
    by_contra broken
    exact kept (.inl ((e.ensures_iff false).mpr (Bool.not_eq_true _ ▸ broken)))
  · intro text checked
    obtain ⟨assumed, required, -, again⟩ := e.checked_terms checked
    have decided (b : Bool) : Decided b i.atZero (some (before subject method dependencies i))
        (after subject method dependencies i) text ↔ required.eval i = b := by
      rw [← e.declares.environment_scope, ← e.effects.environment_scope e.declares]
      exact decided_iff again b
    rw [decided true]
    by_contra broken
    exact kept (.inr ⟨text, checked, (decided false).mpr (Bool.not_eq_true _ ▸ broken)⟩)

/-- If the constraints of a method cannot be satisfied, its contract is kept whatever it returns, unless a parameter has
the variable of the result. -/
theorem unspecified_result_arbitrary (h : Encoding.ofMethod subject method dependencies bits = .ok enc)
    (declared : method.returns.isNull = false) (unassigned : method.effect? "result" = none)
    (own : method.OwnsResult) (unsatisfiable : ∀ i : Interpretation, ¬ ∀ c ∈ enc.constraints, c.eval i = true) :
    ∃ ty, method.resultSort? = some ty ∧
      ∀ i : Interpretation, Within bits (methodVariables subject method dependencies) i →
        Decided true i.atZero none (before subject method dependencies i) method.requires →
        (∀ text ∈ checkedInvariant subject method,
          Decided true i.atZero none (before subject method dependencies i) text) →
        ∀ v : ty.Val,
          let final := ((postState subject method dependencies i).returning ⟨ty, v⟩).view subject method
          Decided true i.atZero (some (before subject method dependencies i)) final method.ensures ∧
            ∀ text ∈ checkedInvariant subject method,
              Decided true i.atZero (some (before subject method dependencies i)) final text := by
  obtain ⟨e⟩ := ofMethod_ok h
  obtain ⟨ty, sort⟩ := resultSort?_of_encodes e declared unassigned
  refine ⟨ty, sort, fun i bounded requires invariant v => ?_⟩
  have sameBefore : before subject method dependencies (i.returning v) = before subject method dependencies i := by
    rw [before, before, preState_returning sort own]
  have sameAfter : after subject method dependencies (i.returning v) =
      ((postState subject method dependencies i).returning ⟨ty, v⟩).view subject method := by
    rw [after, postState_returning sort unassigned own]
  have kept := e.decided_after (unsatisfiable (i.returning v)) (within_returning sort own bounded)
    (by rw [sameBefore]; exact requires) (by rw [sameBefore]; exact invariant)
  rw [sameBefore, sameAfter] at kept
  exact kept

/-! ## A result that a parameter shares -/

theorem Encodes.unsatisfiable_of_promise (e : Encodes subject method dependencies bits enc)
    (promise : method.requires = method.ensures) (unchecked : checkedInvariant subject method = none)
    (kept : ∀ name ∈ clauseNames method.requires,
      after subject method dependencies i name = before subject method dependencies i name) :
    ¬ ∀ c ∈ enc.constraints, c.eval i = true := by
  intro all
  obtain ⟨-, requires, -, broken⟩ := e.constraints_iff_counterexample.mp all
  rcases broken with ensures | ⟨text, checked, -⟩
  · rw [← promise, Decided, clauseValue_congr e.requires kept, requires] at ensures
    cases ensures
  · rw [unchecked] at checked
    cases checked

def die : ClassModel where
  className := "Die"

def roll : MethodModel where
  name := "roll"
  params := [("result", "bool"), ("low", "int")]
  returns := .str "int"
  requires := "low >= 0"
  ensures := "low >= 0"

def reroll : MethodModel where
  name := "reroll"
  params := [("result", "int")]
  returns := .str "int"
  requires := "result >= 0"
  ensures := "result >= 0"

theorem roll_arbitrary :
    ∃ enc, Encoding.ofMethod die roll [] 4 = .ok enc ∧ roll.OwnsResult ∧
      (∀ i : Interpretation, ¬ ∀ c ∈ enc.constraints, c.eval i = true) ∧
      Decided true zeros.atZero none (before die roll [] zeros) "low >= 0" ∧
      Decided true zeros.atZero (some (before die roll [] zeros))
        (((postState die roll [] zeros).returning (.int (-9))).view die roll) "low >= 0" := by
  obtain ⟨enc, made⟩ : ∃ enc, Encoding.ofMethod die roll [] 4 = .ok enc := exists_of_isOk (by decide +kernel)
  obtain ⟨e⟩ := ofMethod_ok made
  have own : roll.OwnsResult := by
    unfold MethodModel.OwnsResult
    decide +kernel
  have unsatisfiable (i : Interpretation) : ¬ ∀ c ∈ enc.constraints, c.eval i = true := by
    refine e.unsatisfiable_of_promise rfl (by decide +kernel) ?_
    have names : clauseNames roll.requires = ["low"] := by decide +kernel
    have known : Clause.sortOf? "int" = some .int := by decide +kernel
    intro name member
    rw [names, List.mem_singleton] at member
    subst member
    refine after_eq_before (by decide) (by decide +kernel) (by decide) (.inl ?_)
    simp [preState, roll, lookup_cons_eq, Interpretation.read, known]
  have requires : Decided true zeros.atZero none (before die roll [] zeros) "low >= 0" :=
    decided_of_truth (by decide +kernel)
  obtain ⟨ty, sort, every⟩ := unspecified_result_arbitrary made rfl rfl own unsatisfiable
  have isInt : roll.resultSort? = some .int := by decide +kernel
  cases isInt.symm.trans sort
  have unchecked : checkedInvariant die roll = none := by decide +kernel
  refine ⟨enc, made, own, unsatisfiable, requires, ?_⟩
  exact (every zeros (zeros_within _ _) requires (by simp [unchecked]) (-9 : Int)).1

theorem proved_reroll_breaks_promise :
    ∃ enc, Encoding.ofMethod die reroll [] 4 = .ok enc ∧
      (∀ i : Interpretation, ¬ ∀ c ∈ enc.constraints, c.eval i = true) ∧
      reroll.returns.isNull = false ∧ reroll.effect? "result" = none ∧ reroll.resultSort? = some .int ∧
      Within 4 (methodVariables die reroll []) zeros ∧
      Decided true zeros.atZero none (before die reroll [] zeros) reroll.requires ∧
      checkedInvariant die reroll = none ∧
      Decided false zeros.atZero (some (before die reroll [] zeros))
        (((postState die reroll [] zeros).returning (.int (-1))).view die reroll) reroll.ensures := by
  obtain ⟨enc, made⟩ : ∃ enc, Encoding.ofMethod die reroll [] 4 = .ok enc := exists_of_isOk (by decide +kernel)
  obtain ⟨e⟩ := ofMethod_ok made
  have unchecked : checkedInvariant die reroll = none := by decide +kernel
  have isInt : reroll.resultSort? = some .int := by decide +kernel
  refine ⟨enc, made, ?_, rfl, rfl, isInt, zeros_within _ _, ?_, unchecked, ?_⟩
  · intro i
    refine e.unsatisfiable_of_promise rfl unchecked ?_
    have names : clauseNames reroll.requires = ["result"] := by decide +kernel
    have known : Clause.sortOf? "int" = some .int := by decide +kernel
    have notOwn : "result" ≠ die.simpleName := by decide +kernel
    intro name member
    rw [names, List.mem_singleton] at member
    subst member
    -- before the call the name stands for the parameter, afterwards for the result: both are one variable
    have parameter : before die reroll [] i "result" = some (.value (.int (i.var "result" .int))) := by
      simp [before, State.environment, State.locations, preState, reroll, Interpretation.read, known, notOwn]
    have unassigned : reroll.effect? "result" = none := rfl
    have result : after die reroll [] i "result" = some (.value (.int (i.var "result" .int))) := by
      simp [after, postState, State.environment, State.after, State.effectValue, unassigned, isInt]
    rw [parameter, result]
  · exact decided_of_truth (by decide +kernel)
  · exact decided_of_truth (by decide +kernel)

end Covenant
