import Covenant.Proofs.Model.Effects

/-!
# The condition of a method says that its contract can be broken

The constraints that encode a method are satisfied by exactly the interpretations that are counterexamples: the
pre-state is within the bit width and satisfies what is assumed, and in the post-state an obligation is false.
-/

namespace Covenant

open Clause (Scope Context)

/-! ## Taking an encoding apart -/

def preScope (subject : ClassModel) (method : MethodModel) (frame : Frame) : Scope :=
  frame.scope method.isStatic subject.simpleName

def postScope (subject : ClassModel) (method : MethodModel) (frame : Frame) (post : PostState)
    (result : Option SomeTerm) : Scope :=
  withResult ((frame.withPost post).scope method.isStatic subject.simpleName) result

inductive InvariantTerms (before after : Context) : Option String → List (Term .bool × Term .bool) → Prop
  | unchecked : InvariantTerms before after none []
  | checked {text : String} {assumed required : Term .bool} (pre : before.boolTerm text = .ok assumed)
      (post : after.boolTerm text = .ok required) :
      InvariantTerms before after (some text) [(assumed, required)]

structure Encodes (subject : ClassModel) (method : MethodModel) (dependencies : List ClassModel) (bits : Nat)
    (enc : Encoding) where
  frame : Frame
  post : PostState
  result : Option SomeTerm
  required : Term .bool
  ensured : Term .bool
  invariants : List (Term .bool × Term .bool)
  declares : Declares subject method dependencies frame enc.unknowns
  effects : Effects subject method frame post result
  requires : Context.boolTerm ⟨preScope subject method frame, none⟩ method.requires = .ok required
  ensures : Context.boolTerm ⟨postScope subject method frame post result, some (preScope subject method frame)⟩
    method.ensures = .ok ensured
  invariant : InvariantTerms ⟨preScope subject method frame, none⟩
    ⟨postScope subject method frame post result, some (preScope subject method frame)⟩
    (checkedInvariant subject method) invariants
  narrow : Encoding.tooWide bits = false ∨ ∀ x ∈ enc.unknowns, x.ty ≠ .int
  statics_eq : enc.statics = staticVariables subject method dependencies
  bits_eq : enc.bits = bits
  assumptions : enc.assumptions = required :: invariants.map (·.1)
  obligations : enc.obligations = ensured :: invariants.map (·.2)

variable {subject : ClassModel} {method : MethodModel} {dependencies : List ClassModel} {bits : Nat} {enc : Encoding}

theorem clauseAt_ok {place : Place} {context : Context} {text : String} {x : Term .bool}
    (h : Encoding.clauseAt place context text = .ok x) : context.boolTerm text = .ok x :=
  mapError_eq_ok.mp h

theorem ofMethod_ok (h : Encoding.ofMethod subject method dependencies bits = .ok enc) :
    Nonempty (Encodes subject method dependencies bits enc) := by
  obtain ⟨⟨frame, unknowns⟩, declared, h⟩ := bind_eq_ok.mp h
  obtain ⟨post, applied, h⟩ := bind_eq_ok.mp h
  obtain ⟨result, resulting, h⟩ := bind_eq_ok.mp h
  obtain ⟨required, requires, h⟩ := bind_eq_ok.mp h
  obtain ⟨ensured, ensures, h⟩ := bind_eq_ok.mp h
  -- the choice whether there is an invariant to check comes before the last steps, which both branches share
  have parts : ∃ invariants, InvariantTerms ⟨preScope subject method frame, none⟩
        ⟨postScope subject method frame post result, some (preScope subject method frame)⟩
        (checkedInvariant subject method) invariants ∧
      (do
        if Encoding.tooWide bits && unknowns.any (·.ty = .int) then throw .longNumber
        return {
          unknowns := unknowns
          statics := staticVariables subject method dependencies
          bits := bits
          assumptions := required :: invariants.map (·.1)
          obligations := ensured :: invariants.map (·.2) } : Except EncodingError Encoding) = .ok enc := by
    by_cases isChecked : (subject.invariant.truthy && !method.isStatic) = true
    · simp only [isChecked, if_true] at h
      obtain ⟨text, written, h⟩ := bind_eq_ok.mp h
      obtain ⟨assumed, pre, h⟩ := bind_eq_ok.mp h
      obtain ⟨kept, post, h⟩ := bind_eq_ok.mp h
      refine ⟨_, ?_, h⟩
      have text_eq : checkedInvariant subject method = some text := by
        simp only [checkedInvariant, isChecked, if_true]
        cases given : subject.invariant.text? with
        | none => rw [given] at written; cases written
        | some t => rw [given] at written; cases written; rfl
      rw [text_eq]
      exact .checked (clauseAt_ok pre) (by cases result <;> exact clauseAt_ok post)
    · have unchecked : checkedInvariant subject method = none := by simp only [checkedInvariant, isChecked]; rfl
      rw [unchecked]
      simp only [isChecked] at h
      exact ⟨[], .unchecked, h⟩
  obtain ⟨invariants, invariant, h⟩ := parts
  split at h
  · cases h
  · rename_i narrow
    cases h
    refine ⟨{
      frame := frame
      post := post
      result := result
      required := required
      ensured := ensured
      invariants := invariants
      declares := declareFrame_ok declared
      effects := ⟨applied, resulting⟩
      requires := clauseAt_ok requires
      ensures := by cases result <;> exact clauseAt_ok ensures
      invariant := invariant
      narrow := ?_
      statics_eq := rfl
      bits_eq := rfl
      assumptions := rfl
      obligations := rfl }⟩
    cases wide : Encoding.tooWide bits with
    | false => exact .inl rfl
    | true =>
      right
      simpa [wide] using narrow

/-! ## Constraints and counterexamples -/

variable {i : Interpretation}

theorem Encodes.requires_iff (e : Encodes subject method dependencies bits enc) (b : Bool) :
    Decided b i.atZero none (before subject method dependencies i) method.requires ↔ e.required.eval i = b := by
  rw [← e.declares.environment_scope]
  exact decided_iff e.requires b

theorem Encodes.ensures_iff (e : Encodes subject method dependencies bits enc) (b : Bool) :
    Decided b i.atZero (some (before subject method dependencies i)) (after subject method dependencies i)
      method.ensures ↔ e.ensured.eval i = b := by
  rw [← e.declares.environment_scope, ← e.effects.environment_scope e.declares]
  exact decided_iff e.ensures b

theorem Encodes.invariant_before_iff (e : Encodes subject method dependencies bits enc) :
    (∀ text ∈ checkedInvariant subject method,
        Decided true i.atZero none (before subject method dependencies i) text) ↔
      ∀ p ∈ e.invariants, p.1.eval i = true := by
  rw [← e.declares.environment_scope]
  have invariant := e.invariant
  revert invariant
  generalize checkedInvariant subject method = text?, e.invariants = terms
  rintro (_ | ⟨pre, _⟩)
  · simp
  · simp only [Option.mem_some_iff, forall_eq', List.mem_singleton, forall_eq]
    exact decided_iff pre true

theorem Encodes.invariant_after_iff (e : Encodes subject method dependencies bits enc) :
    (∃ text ∈ checkedInvariant subject method,
        Decided false i.atZero (some (before subject method dependencies i))
          (after subject method dependencies i) text) ↔
      ∃ p ∈ e.invariants, p.2.eval i = false := by
  rw [← e.declares.environment_scope, ← e.effects.environment_scope e.declares]
  have invariant := e.invariant
  revert invariant
  generalize checkedInvariant subject method = text?, e.invariants = terms
  rintro (_ | ⟨_, post⟩)
  · simp
  · simp only [Option.mem_some_iff, exists_eq_left', List.mem_singleton, exists_eq_left]
    exact decided_iff post false

theorem Encoding.bounds_iff :
    (∀ c ∈ enc.bounds, c.eval i = true) ↔ Within enc.bits enc.unknowns i := by
  simp only [Encoding.bounds, List.mem_filterMap]
  constructor
  · rintro all ⟨name, ty⟩ member rfl
    exact (Term.eval_between name _ _).mp (all _ ⟨_, member, rfl⟩)
  · rintro all c ⟨⟨name, ty⟩, member, made⟩
    obtain _ | _ | _ := ty <;> cases made
    exact (Term.eval_between name _ _).mpr (all _ member rfl)

theorem Encoding.constraints_iff :
    (∀ c ∈ enc.constraints, c.eval i = true) ↔
      (∀ c ∈ enc.bounds, c.eval i = true) ∧ (∀ c ∈ enc.assumptions, c.eval i = true) ∧
        ∃ c ∈ enc.obligations, c.eval i = false := by
  simp only [Encoding.constraints, List.mem_append, List.mem_singleton, or_imp, forall_and, forall_eq, Term.eval,
    Term.evalAll_eq, and_assoc]
  simp

theorem Encodes.constraints_iff_counterexample (e : Encodes subject method dependencies bits enc) :
    (∀ c ∈ enc.constraints, c.eval i = true) ↔ Counterexample subject method dependencies bits i := by
  rw [Encoding.constraints_iff, Encoding.bounds_iff, e.bits_eq, e.declares.unknown, e.assumptions, e.obligations]
  constructor
  · rintro ⟨bounded, assumed, broken⟩
    refine ⟨bounded, ?_, ?_, ?_⟩
    · exact (e.requires_iff true).mpr (assumed _ (List.mem_cons_self ..))
    · refine e.invariant_before_iff.mpr fun p member => assumed _ (List.mem_cons_of_mem _ ?_)
      exact List.mem_map_of_mem member
    · obtain ⟨c, member, isFalse⟩ := broken
      rcases List.mem_cons.mp member with rfl | member
      · exact .inl ((e.ensures_iff false).mpr isFalse)
      · obtain ⟨p, inInvariants, rfl⟩ := List.mem_map.mp member
        exact .inr (e.invariant_after_iff.mpr ⟨p, inInvariants, isFalse⟩)
  · rintro ⟨bounded, requires, invariant, broken⟩
    refine ⟨bounded, ?_, ?_⟩
    · intro c member
      rcases List.mem_cons.mp member with rfl | member
      · exact (e.requires_iff true).mp requires
      · obtain ⟨p, inInvariants, rfl⟩ := List.mem_map.mp member
        exact e.invariant_before_iff.mp invariant p inInvariants
    · rcases broken with ensures | invariant
      · exact ⟨_, List.mem_cons_self .., (e.ensures_iff false).mp ensures⟩
      · obtain ⟨p, member, isFalse⟩ := e.invariant_after_iff.mp invariant
        exact ⟨_, List.mem_cons_of_mem _ (List.mem_map_of_mem member), isFalse⟩

namespace Encoding

/-- The constraints of a method are satisfied by its counterexamples and by nothing else. -/
theorem constraints_hold_iff_counterexample (h : ofMethod subject method dependencies bits = .ok enc) :
    enc.unknowns = methodVariables subject method dependencies ∧
      ∀ i : Interpretation, (∀ c ∈ enc.constraints, c.eval i = true) ↔
        Counterexample subject method dependencies bits i := by
  obtain ⟨e⟩ := ofMethod_ok h
  exact ⟨e.declares.unknown, fun i => e.constraints_iff_counterexample⟩

def bank : ClassModel where
  className := "Bank"
  staticFields := [("open", "bool")]

def withdraw : MethodModel where
  name := "withdraw"
  params := [("amount", "int")]
  returns := .str "int"
  requires := "amount > 0 and Bank.open"
  ensures := "balance < old(balance) and result >= 0"
  effects := [("balance", "balance - amount"), ("result", "amount")]

def account : ClassModel where
  className := "Account"
  fields := [("balance", "int")]
  staticFields := [("floor", "int")]
  invariant := .str "balance >= floor"
  methods := [("withdraw", withdraw)]

def overdraft : Interpretation where
  var name
    | .bool => true
    | .num .int => if name = "amount" then (1 : Int) else (0 : Int)
    | .num .real => (0 : Rat)
  divZero _ := 0
  modZero _ := 0
  quotZero _ := 0

theorem overdraft_counterexample :
    ∃ enc, ofMethod account withdraw [bank] 4 = .ok enc ∧ (∀ c ∈ enc.constraints, c.eval overdraft = true) ∧
      Counterexample account withdraw [bank] 4 overdraft := by
  have holds : (match ofMethod account withdraw [bank] 4 with
      | .ok enc => enc.constraints.all (·.eval overdraft)
      | .error _ => false) = true := by decide +kernel
  cases made : ofMethod account withdraw [bank] 4 with
  | error e =>
    rw [made] at holds
    cases holds
  | ok enc =>
    rw [made] at holds
    have all := List.all_eq_true.mp holds
    exact ⟨enc, rfl, all, ((constraints_hold_iff_counterexample made).2 overdraft).mp all⟩

end Encoding

end Covenant
