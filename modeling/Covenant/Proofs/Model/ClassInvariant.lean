import Covenant.Proofs.Clause.Names
import Covenant.Proofs.Model.Condition

/-!
# The invariant as a clause of the class

An invariant belongs to the class, so its names mean fields and static fields. It is encoded among the names of each
method, where a parameter or the result hides a field of the same name. If none of its names is hidden, a method whose
constraints cannot be satisfied keeps the invariant of the class. Without that a method can be proved although it
breaks the invariant.
-/

namespace Covenant

open Clause (Environment)
open Interpretation (zeros)

def State.classView (s : State) (subject : ClassModel) : Environment :=
  { s with params := fun _ => none, result := none }.environment false subject.simpleName

def MethodModel.hasResult (m : MethodModel) : Bool := !m.returns.isNull || (m.effect? "result").isSome

def Captured (subject : ClassModel) (method : MethodModel) (name : String) : Prop :=
  (name = "result" ∧ method.hasResult = true) ∨
    (name ≠ subject.simpleName ∧ name ≠ "this" ∧ (method.params.lookup name).isSome = true)

def clauseNames (text : String) : List String :=
  ((Clause.parse text).map (·.names)).getD []

variable {subject : ClassModel} {method : MethodModel} {dependencies : List ClassModel} {bits : Nat} {enc : Encoding}
  {i : Interpretation} {text : String}

theorem isStatic_of_checked (checked : checkedInvariant subject method = some text) : method.isStatic = false := by
  unfold checkedInvariant at checked
  split at checked
  · rename_i both
    simpa using (Bool.and_eq_true_iff.mp both).2
  · cases checked

theorem result_postState (absent : method.hasResult = false) :
    (postState subject method dependencies i).result = none := by
  obtain ⟨undeclared, unassigned⟩ : method.returns.isNull = true ∧ method.effect? "result" = none := by
    simpa [MethodModel.hasResult] using absent
  simp [postState, State.after, State.effectValue, unassigned, MethodModel.resultSort?, undeclared]

theorem view_eq_classView (instanceMethod : method.isStatic = false) {s : State} {name : String}
    (params : method.params.lookup name = none → s.params name = none)
    (result : method.hasResult = false → s.result = none) (plain : ¬ Captured subject method name) :
    s.view subject method name = s.classView subject name := by
  simp only [Captured, not_or, not_and, Bool.not_eq_true] at plain
  obtain ⟨notResult, notParam⟩ := plain
  have bare : s.view subject method name = s.locations false subject.simpleName name := by
    simp only [State.view, State.environment, instanceMethod]
    by_cases isResult : name = "result"
    · simp [result (notResult isResult)]
    · simp [isResult]
  rw [bare, State.classView, State.environment]
  simp only [Option.isSome_none, Bool.false_eq_true, and_false, if_false, State.locations]
  by_cases own : name = subject.simpleName
  · simp [own]
  · by_cases this : name = "this"
    · simp [this]
    · have hidden := params (by simpa using notParam own this)
      simp only [own, this, false_and, if_false, hidden]

theorem clauseValue_congr {z : ZeroReading} {scope : Clause.Scope} {x : Term .bool} {old : Option Environment}
    {env env' : Environment} (h : Clause.Context.boolTerm ⟨scope, none⟩ text = .ok x)
    (agree : ∀ name ∈ clauseNames text, env name = env' name) :
    clauseValue z old env text = clauseValue z none env' text := by
  obtain ⟨e, parsed, translated⟩ := term_ok (boolTerm_ok h)
  simp only [clauseNames, parsed, Option.map_some, Option.getD_some] at agree
  simp only [clauseValue, parsed, Option.bind_some]
  exact Clause.Expr.value_congr translated agree

theorem before_eq_classView (checked : checkedInvariant subject method = some text) {name : String}
    (plain : ¬ Captured subject method name) :
    before subject method dependencies i name = (preState subject method dependencies i).classView subject name := by
  refine view_eq_classView (isStatic_of_checked checked) ?_ (fun _ => rfl) plain
  intro absent
  simp [preState, absent]

theorem after_eq_classView (checked : checkedInvariant subject method = some text) {name : String}
    (plain : ¬ Captured subject method name) :
    after subject method dependencies i name = (postState subject method dependencies i).classView subject name := by
  refine view_eq_classView (isStatic_of_checked checked) ?_ result_postState plain
  intro absent
  simp [postState, State.after, preState, absent]

theorem Encodes.checked_terms (e : Encodes subject method dependencies bits enc)
    (checked : checkedInvariant subject method = some text) :
    ∃ assumed required, Clause.Context.boolTerm ⟨preScope subject method e.frame, none⟩ text = .ok assumed ∧
      Clause.Context.boolTerm ⟨postScope subject method e.frame e.post e.result,
        some (preScope subject method e.frame)⟩ text = .ok required := by
  have invariant := e.invariant
  rw [checked] at invariant
  generalize e.invariants = terms at invariant
  cases invariant with
  | checked pre post => exact ⟨_, _, pre, post⟩

/-- A method whose constraints cannot be satisfied keeps the invariant of its class, unless a name of the invariant
stands for a parameter or the result. -/
theorem class_invariant_kept (h : Encoding.ofMethod subject method dependencies bits = .ok enc)
    (checked : checkedInvariant subject method = some text)
    (plain : ∀ name ∈ clauseNames text, ¬ Captured subject method name)
    (unsatisfiable : ∀ i : Interpretation, ¬ ∀ c ∈ enc.constraints, c.eval i = true) (i : Interpretation)
    (bounded : Within bits (methodVariables subject method dependencies) i)
    (requires : Decided true i.atZero none (before subject method dependencies i) method.requires)
    (invariant : Decided true i.atZero none ((preState subject method dependencies i).classView subject) text) :
    Decided true i.atZero none ((postState subject method dependencies i).classView subject) text := by
  obtain ⟨e⟩ := ofMethod_ok h
  obtain ⟨assumed, required, translated, again⟩ := e.checked_terms checked
  have pre : clauseValue i.atZero none (before subject method dependencies i) text =
      clauseValue i.atZero none ((preState subject method dependencies i).classView subject) text :=
    clauseValue_congr translated fun name member => before_eq_classView checked (plain name member)
  have post : clauseValue i.atZero (some (before subject method dependencies i))
        (after subject method dependencies i) text =
      clauseValue i.atZero none ((postState subject method dependencies i).classView subject) text :=
    clauseValue_congr translated fun name member => after_eq_classView checked (plain name member)
  have decided (b : Bool) : Decided b i.atZero (some (before subject method dependencies i))
      (after subject method dependencies i) text ↔ required.eval i = b := by
    rw [← e.declares.environment_scope, ← e.effects.environment_scope e.declares]
    exact decided_iff again b
  have assumedHolds : ∀ t ∈ checkedInvariant subject method,
      Decided true i.atZero none (before subject method dependencies i) t := by
    intro t member
    rw [checked, Option.mem_some_iff] at member
    subst member
    rw [Decided, pre]
    exact invariant
  rw [Decided, ← post]
  refine (decided true).mpr ?_
  -- were it false, the interpretation would satisfy all constraints
  by_contra broken
  have isFalse := (decided false).mpr (Bool.not_eq_true _ ▸ broken)
  exact unsatisfiable i (e.constraints_iff_counterexample.mpr
    ⟨bounded, requires, assumedHolds, .inr ⟨text, checked, isFalse⟩⟩)

theorem after_eq_before {name : String} (notResult : name ≠ "result") (notOwn : name ≠ subject.simpleName)
    (notThis : name ≠ "this")
    (kept : ((preState subject method dependencies i).params name).isSome = true ∨ method.effect? name = none) :
    after subject method dependencies i name = before subject method dependencies i name := by
  simp only [before, after, postState, State.view, State.environment, State.locations, notResult, notOwn, notThis,
    false_and, if_false]
  rcases kept with param | unassigned
  · obtain ⟨v, value⟩ := Option.isSome_iff_exists.mp param
    simp [State.after, value]
  · simp [State.after, State.updated, State.effectValue, unassigned]

theorem decided_of_truth {b : Bool} {z : ZeroReading} {old : Option Environment} {env : Environment}
    (h : (clauseValue z old env text).bind SomeVal.truth? = some b) : Decided b z old env text := by
  obtain ⟨⟨ty, v⟩, value, truth⟩ := Option.bind_eq_some_iff.mp h
  rw [Decided, value]
  cases ty with
  | bool =>
    cases truth
    rfl
  | num k => cases truth

theorem Encodes.unsatisfiable_of_kept (e : Encodes subject method dependencies bits enc)
    (trivial : method.requires = method.ensures) (closed : clauseNames method.ensures = [])
    (checked : checkedInvariant subject method = some text)
    (kept : ∀ name ∈ clauseNames text,
      after subject method dependencies i name = before subject method dependencies i name) :
    ¬ ∀ c ∈ enc.constraints, c.eval i = true := by
  intro all
  obtain ⟨-, requires, invariant, broken⟩ := e.constraints_iff_counterexample.mp all
  obtain ⟨assumed, required, translated, -⟩ := e.checked_terms checked
  rcases broken with ensures | ⟨other, member, invariantAfter⟩
  · rw [← trivial] at closed ensures
    rw [Decided, clauseValue_congr e.requires (by simp [closed]), requires] at ensures
    cases ensures
  · rw [checked, Option.mem_some_iff] at member
    subst member
    rw [Decided, clauseValue_congr translated kept, invariant _ checked] at invariantAfter
    cases invariantAfter

def setValue : MethodModel where
  name := "set"
  params := [("value", "int")]
  effects := [("value", "value - 1")]

def relabel : MethodModel where
  name := "relabel"
  params := [("other", "int")]
  effects := [("label", "other")]

def cell : ClassModel where
  className := "Cell"
  fields := [("value", "int"), ("label", "int")]
  invariant := .str "value >= 0"
  methods := [("set", setValue), ("relabel", relabel)]

theorem zeros_within (bits : Nat) (xs : List Variable) : Within bits xs zeros := by
  intro x _ _
  have positive : (0 : Int) < 2 ^ (bits - 1) := Int.pow_pos (by decide)
  have small : -(2 ^ (bits - 1)) ≤ (0 : Int) ∧ (0 : Int) ≤ 2 ^ (bits - 1) - 1 := by omega
  exact small

theorem cell_unsatisfiable {method : MethodModel} (e : Encodes cell method [] bits enc)
    (silent : method.requires = "True" ∧ method.ensures = "True" ∧ method.isStatic = false)
    (kept : ((preState cell method [] i).params "value").isSome = true ∨ method.effect? "value" = none) :
    ¬ ∀ c ∈ enc.constraints, c.eval i = true := by
  obtain ⟨requires, ensures, instanceMethod⟩ := silent
  have closed : clauseNames "True" = [] := by decide +kernel
  have names : clauseNames "value >= 0" = ["value"] := by decide +kernel
  have notOwn : "value" ≠ cell.simpleName := by decide +kernel
  have checked : checkedInvariant cell method = some "value >= 0" := by
    rw [checkedInvariant, instanceMethod]
    decide +kernel
  refine e.unsatisfiable_of_kept (requires.trans ensures.symm) (ensures ▸ closed) checked ?_
  intro name member
  rw [names, List.mem_singleton] at member
  subst member
  exact after_eq_before (by decide) notOwn (by decide) kept

theorem relabel_keeps_class_invariant :
    ∃ enc, Encoding.ofMethod cell relabel [] 4 = .ok enc ∧
      (∀ i : Interpretation, ¬ ∀ c ∈ enc.constraints, c.eval i = true) ∧
      Decided true zeros.atZero none ((preState cell relabel [] zeros).classView cell) "value >= 0" ∧
      Decided true zeros.atZero none ((postState cell relabel [] zeros).classView cell) "value >= 0" := by
  obtain ⟨enc, made⟩ : ∃ enc, Encoding.ofMethod cell relabel [] 4 = .ok enc := exists_of_isOk (by decide +kernel)
  obtain ⟨e⟩ := ofMethod_ok made
  have unsatisfiable (i : Interpretation) : ¬ ∀ c ∈ enc.constraints, c.eval i = true :=
    cell_unsatisfiable e ⟨rfl, rfl, rfl⟩ (.inr (by decide))
  have invariant : Decided true zeros.atZero none ((preState cell relabel [] zeros).classView cell) "value >= 0" :=
    decided_of_truth (by decide +kernel)
  have plain : ∀ name ∈ clauseNames "value >= 0", ¬ Captured cell relabel name := by
    unfold Captured
    decide +kernel
  exact ⟨enc, made, unsatisfiable, invariant, class_invariant_kept made (by decide +kernel) plain unsatisfiable zeros
    (zeros_within _ _) (decided_of_truth (by decide +kernel)) invariant⟩

theorem proved_set_breaks_class_invariant :
    ∃ enc, Encoding.ofMethod cell setValue [] 4 = .ok enc ∧
      (∀ i : Interpretation, ¬ ∀ c ∈ enc.constraints, c.eval i = true) ∧
      Within 4 (methodVariables cell setValue []) zeros ∧
      Decided true zeros.atZero none (before cell setValue [] zeros) setValue.requires ∧
      Decided true zeros.atZero none ((preState cell setValue [] zeros).classView cell) "value >= 0" ∧
      Decided false zeros.atZero none ((postState cell setValue [] zeros).classView cell) "value >= 0" := by
  obtain ⟨enc, made⟩ : ∃ enc, Encoding.ofMethod cell setValue [] 4 = .ok enc := exists_of_isOk (by decide +kernel)
  obtain ⟨e⟩ := ofMethod_ok made
  have known : Clause.sortOf? "int" = some .int := by decide +kernel
  refine ⟨enc, made, ?_, zeros_within _ _, ?_, ?_, ?_⟩
  · intro i
    refine cell_unsatisfiable e ⟨rfl, rfl, rfl⟩ (.inl ?_)
    simp [preState, setValue, Interpretation.read, known]
  · exact decided_of_truth (by decide +kernel)
  · exact decided_of_truth (by decide +kernel)
  · exact decided_of_truth (by decide +kernel)

end Covenant
