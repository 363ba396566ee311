import Covenant.Proofs.Model.EffectTerms

/-!
# Clauses about the state before

Below `old` an expression is read in the scope of the pre-state, whatever the current scope is. It comes to the same
whether `old` is written once around an expression, twice, or around each of the names and fields in it, and where an
expression reads nothing that differs between the two scopes it can be left out. The locations that no effect of a
method assigns do not differ.
-/

namespace Covenant

namespace Clause

def Expr.old (e : Expr) : Expr := .call (.name "old") [e] false

mutual
/-- Writes `old` around every name and field that does not stand below an `old` already. The name of a function is not
the name of a value. -/
def Expr.oldLeaves : Expr → Expr
  | .constant c => .constant c
  | .name id => (Expr.name id).old
  | .field (.name owner) field => (Expr.field (.name owner) field).old
  | .field owner field => .field owner.oldLeaves field
  | .unary op operand => .unary op operand.oldLeaves
  | .binary op left right => .binary op left.oldLeaves right.oldLeaves
  | .bool op operands => .bool op (allOldLeaves operands)
  | .compare first rest => .compare first.oldLeaves (chainOldLeaves rest)
  | .ifElse test body other => .ifElse test.oldLeaves body.oldLeaves other.oldLeaves
  | .call (.name function) args keywords =>
    if function = "old" then .call (.name function) args keywords
    else .call (.name function) (allOldLeaves args) keywords
  | .call callee args keywords => .call callee.oldLeaves (allOldLeaves args) keywords
  | .other kind parts => .other kind (allOldLeaves parts)
def allOldLeaves : List Expr → List Expr
  | [] => []
  | e :: rest => e.oldLeaves :: allOldLeaves rest
def chainOldLeaves : List (CompareOp × Expr) → List (CompareOp × Expr)
  | [] => []
  | (op, e) :: rest => (op, e.oldLeaves) :: chainOldLeaves rest
end

theorem Expr.toTerm_old (e : Expr) (now before : Scope) :
    e.old.toTerm (some before) now = e.toTerm (some before) before :=
  Expr.toTerm_old_call _ _ _

/-! ## `old` around names and fields -/

theorem Expr.oldLeaves_ne_name (e : Expr) (id : String) : e.oldLeaves ≠ .name id := by
  cases e with
  | field owner field => cases owner <;> simp [Expr.oldLeaves, Expr.old]
  | call callee args keywords =>
    cases callee with
    | name function =>
      rw [Expr.oldLeaves]
      split <;> simp
    | _ => simp [Expr.oldLeaves]
  | _ => simp [Expr.oldLeaves, Expr.old]

theorem Expr.toTerm_field_of_ne_name {owner : Expr} (nested : ∀ id, owner ≠ .name id) (old : Option Scope)
    (scope : Scope) (field : String) : (Expr.field owner field).toTerm old scope = .error .nestedField := by
  cases owner with
  | name id => exact absurd rfl (nested id)
  | _ => simp only [Expr.toTerm]

theorem Expr.toTerm_call_of_ne_name {callee : Expr} (unnamed : ∀ id, callee ≠ .name id) (old : Option Scope)
    (scope : Scope) (args : List Expr) (keywords : Bool) :
    (Expr.call callee args keywords).toTerm old scope = .error .irregularCall := by
  cases callee with
  | name id => exact absurd rfl (unnamed id)
  | _ => simp only [Expr.toTerm]

mutual
theorem Expr.toTerm_oldLeaves (now before : Scope) (e : Expr) :
    e.oldLeaves.toTerm (some before) now = e.toTerm (some before) before := by
  match e with
  | .constant c => simp only [Expr.oldLeaves, Expr.toTerm]
  | .name id => rw [Expr.oldLeaves, Expr.toTerm_old]
  | .field owner field =>
    by_cases named : ∃ id, owner = .name id
    · obtain ⟨id, rfl⟩ := named
      rw [Expr.oldLeaves, Expr.toTerm_old]
    · have nested : ∀ id, owner ≠ .name id := fun id same => named ⟨id, same⟩
      have step : (Expr.field owner field).oldLeaves = .field owner.oldLeaves field := by
        cases owner with
        | name id => exact absurd rfl (nested id)
        | _ => simp only [Expr.oldLeaves]
      rw [step, Expr.toTerm_field_of_ne_name owner.oldLeaves_ne_name, Expr.toTerm_field_of_ne_name nested]
  | .unary op operand =>
    simp only [Expr.oldLeaves, Expr.toTerm]
    rw [Expr.toTerm_oldLeaves now before operand]
  | .binary op left right =>
    simp only [Expr.oldLeaves, Expr.toTerm]
    rw [Expr.toTerm_oldLeaves now before left, Expr.toTerm_oldLeaves now before right]
  | .bool op operands =>
    simp only [Expr.oldLeaves, Expr.toTerm]
    rw [toTerms_oldLeaves now before operands]
  | .compare first rest =>
    simp only [Expr.oldLeaves, Expr.toTerm]
    rw [Expr.toTerm_oldLeaves now before first]
    congr 1
    funext a
    rw [toComparisons_oldLeaves now before a rest]
  | .ifElse test body other =>
    simp only [Expr.oldLeaves, Expr.toTerm]
    rw [Expr.toTerm_oldLeaves now before test, Expr.toTerm_oldLeaves now before body,
      Expr.toTerm_oldLeaves now before other]
  | .call callee args keywords =>
    by_cases named : ∃ id, callee = .name id
    · obtain ⟨function, rfl⟩ := named
      rw [Expr.oldLeaves]
      split
      · -- what stands below an `old` is read in the pre-state anyway
        rename_i isOld
        subst isOld
        cases keywords with
        | true => simp only [Expr.toTerm]
        | false => rw [Expr.toTerm_old_call, Expr.toTerm_old_call]
      · rename_i notOld
        cases keywords with
        | true => simp only [Expr.toTerm]
        | false =>
          rw [Expr.toTerm_helper_call _ _ notOld, Expr.toTerm_helper_call _ _ notOld,
            toTerms_oldLeaves now before args]
    · have unnamed : ∀ id, callee ≠ .name id := fun id same => named ⟨id, same⟩
      have step : (Expr.call callee args keywords).oldLeaves =
          .call callee.oldLeaves (allOldLeaves args) keywords := by
        cases callee with
        | name id => exact absurd rfl (unnamed id)
        | _ => simp only [Expr.oldLeaves]
      rw [step, Expr.toTerm_call_of_ne_name callee.oldLeaves_ne_name, Expr.toTerm_call_of_ne_name unnamed]
  | .other kind parts => simp only [Expr.oldLeaves, Expr.toTerm]
termination_by sizeOf e
theorem toTerms_oldLeaves (now before : Scope) (es : List Expr) :
    toTerms (some before) now (allOldLeaves es) = toTerms (some before) before es := by
  match es with
  | [] => simp only [allOldLeaves, toTerms]
  | e :: rest =>
    simp only [allOldLeaves, toTerms]
    rw [Expr.toTerm_oldLeaves now before e, toTerms_oldLeaves now before rest]
termination_by sizeOf es
theorem toComparisons_oldLeaves (now before : Scope) (a : SomeTerm) (rest : List (CompareOp × Expr)) :
    toComparisons (some before) now a (chainOldLeaves rest) = toComparisons (some before) before a rest := by
  match rest with
  | [] => simp only [chainOldLeaves, toComparisons]
  | (op, e) :: rest =>
    simp only [chainOldLeaves, toComparisons]
    rw [Expr.toTerm_oldLeaves now before e]
    congr 1
    funext b
    rw [toComparisons_oldLeaves now before b rest]
termination_by sizeOf rest
end

end Clause

/-! ## Locations that no effect assigns -/

open Clause (Expr Scope Context Binding)

section

variable (subject : ClassModel) (method : MethodModel)

def MethodModel.Yields : Prop := method.returns.isNull = false ∨ (method.effect? "result").isSome

def Reassigns : Table → String → Prop
  | .fields, f => f ≠ "result" ∧ f ∈ (receiverFields subject method).map (·.1) ∧ (method.effect? f).isSome
  | .statics, f => f ≠ "result" ∧ f ∉ (receiverFields subject method).map (·.1) ∧ (method.effect? f).isSome

def ownTable? (owner : String) : Option Table :=
  if owner = subject.simpleName then some .statics
  else if owner = "this" ∧ method.isStatic = false then some .fields
  else none

def Unassigned (r : Spelling) : Prop :=
  (r.first = "result" → ¬ method.Yields) ∧
    match r with
    | .bare name => name ∈ method.params.map (·.1) ∨ ∀ table, ¬ Reassigns subject method table name
    | .member owner field =>
      ∀ table, ownTable? subject method owner = some table → ¬ Reassigns subject method table field

end

variable {subject : ClassModel} {method : MethodModel} {dependencies : List ClassModel} {frame : Frame}
  {unknowns : List Variable} {post : PostState} {result : Option SomeTerm}

def Frame.held (f : Frame) : Table → Terms
  | .fields => f.fields
  | .statics => f.statics

namespace Effects

theorem result_eq_none (e : Effects subject method frame post result) (unyielding : ¬ method.Yields) :
    result = none := by
  obtain ⟨undeclared, unassigned⟩ : method.returns.isNull = true ∧ method.effect? "result" = none := by
    simpa [MethodModel.Yields] using unyielding
  obtain ⟨us, assigned, rfl⟩ := e.terms
  have absent : us.reverse.lookup "result" = none := by
    rw [MethodModel.effect?, lookup_eq_none_iff_not_mem, List.map_reverse] at unassigned
    rw [lookup_eq_none_iff_not_mem, List.map_reverse, keys_effectTerms assigned]
    exact unassigned
  have resulting := e.result
  unfold resultTerm at resulting
  rw [result_assignAll, absent] at resulting
  simp only [Option.none_or, undeclared, if_true] at resulting
  exact (Except.ok.inj resulting).symm

theorem held_eq_map (e : Effects subject method frame post result) (table : Table) :
    ∃ us : Terms, us.map (·.1) = method.effects.map (·.1) ∧ ∀ name, (post.held table).lookup name =
      ((frame.held table).lookup name).map fun t =>
        if frame.table? name = some table then (us.reverse.lookup name).getD t else t := by
  obtain ⟨us, assigned, rfl⟩ := e.terms
  refine ⟨us, keys_effectTerms assigned, fun name => ?_⟩
  rw [held_assignAll]
  cases table <;> rfl

theorem isSome_held (e : Effects subject method frame post result) (table : Table) (name : String) :
    ((post.held table).lookup name).isSome = ((frame.held table).lookup name).isSome := by
  obtain ⟨us, -, held⟩ := e.held_eq_map table
  rw [held, Option.isSome_map]

theorem held_eq (e : Effects subject method frame post result)
    (d : Declares subject method dependencies frame unknowns) {table : Table} {name : String}
    (kept : ¬ Reassigns subject method table name) :
    (post.held table).lookup name = (frame.held table).lookup name := by
  obtain ⟨us, keys, held⟩ := e.held_eq_map table
  have isField : (frame.fields.lookup name).isSome ↔ name ∈ (receiverFields subject method).map (·.1) := by
    rw [← keys_declaredTerms d.knownFields, ← d.fields, ← not_iff_not, Bool.not_eq_true,
      Option.isSome_eq_false_iff, Option.isNone_iff_eq_none, lookup_eq_none_iff_not_mem]
  rw [held]
  by_cases here : frame.table? name = some table
  · have unassigned : us.reverse.lookup name = none := by
      rw [lookup_eq_none_iff_not_mem, List.map_reverse, keys, ← List.map_reverse, ← lookup_eq_none_iff_not_mem]
      by_contra assigned
      have assigned : (method.effect? name).isSome := Option.isSome_iff_ne_none.mpr assigned
      refine kept ?_
      unfold Frame.table? at here
      split at here
      · cases here
      · rename_i notResult
        split at here
        · rename_i inFields
          cases here
          exact ⟨notResult, isField.mp inFields, assigned⟩
        · rename_i notInFields
          cases here
          exact ⟨notResult, fun member => notInFields (isField.mpr member), assigned⟩
    simp [unassigned]
  · simp [here]

theorem isSome_value? (e : Effects subject method frame post result) (name : String) :
    ((frame.withPost post).value? name).isSome = (frame.value? name).isSome := by
  have fields : (post.fields.lookup name).isSome = (frame.fields.lookup name).isSome := e.isSome_held .fields name
  have statics : (post.statics.lookup name).isSome = (frame.statics.lookup name).isSome := e.isSome_held .statics name
  simp only [Frame.value?, Frame.withPost, Option.isSome_or, fields, statics]

theorem reading_eq (e : Effects subject method frame post result)
    (d : Declares subject method dependencies frame unknowns) {r : Spelling} (kept : Unassigned subject method r) :
    (frame.withPost post).reading method.isStatic subject.simpleName r =
      frame.reading method.isStatic subject.simpleName r := by
  cases r with
  | bare name =>
    have members : ((frame.withPost post).members? method.isStatic subject.simpleName name).isSome =
        (frame.members? method.isStatic subject.simpleName name).isSome := by
      simp only [Frame.members?, e.isSome_value?]
      split
      · rfl
      · split <;> rfl
    have value : (frame.withPost post).value? name = frame.value? name := by
      rcases kept.2 with isParam | kept
      · have given : frame.params.lookup name ≠ none := by
          rw [ne_eq, lookup_eq_none_iff_not_mem, d.params, keys_declaredTerms d.knownParams, not_not]
          exact isParam
        obtain ⟨t, found⟩ := Option.ne_none_iff_exists'.mp given
        simp [Frame.value?, Frame.withPost, found]
      · have fields : post.fields.lookup name = frame.fields.lookup name := e.held_eq d (kept .fields)
        have statics : post.statics.lookup name = frame.statics.lookup name := e.held_eq d (kept .statics)
        simp only [Frame.value?, Frame.withPost, fields, statics]
    simp only [Frame.reading, members, value]
  | member owner field =>
    simp only [Frame.reading, Frame.members?, e.isSome_value?]
    by_cases isClass : owner = subject.simpleName
    · have statics : post.statics.lookup field = frame.statics.lookup field :=
        e.held_eq d (kept.2 .statics (if_pos isClass))
      rw [if_pos isClass, if_pos isClass]
      simp only [Frame.withPost, statics]
    · rw [if_neg isClass, if_neg isClass]
      by_cases isThis : owner = "this" ∧ method.isStatic = false
      · have own : ownTable? subject method owner = some .fields := (if_neg isClass).trans (if_pos isThis)
        have fields : post.fields.lookup field = frame.fields.lookup field := e.held_eq d (kept.2 .fields own)
        rw [if_pos isThis, if_pos isThis]
        simp only [Frame.withPost, fields]
      · rw [if_neg isThis, if_neg isThis]
        rfl

theorem read_eq (e : Effects subject method frame post result)
    (d : Declares subject method dependencies frame unknowns) {r : Spelling} (kept : Unassigned subject method r) :
    (postScope subject method frame post result).read r = (preScope subject method frame).read r := by
  have visible : ¬ (r.first = "result" ∧ result.isSome) := by
    rintro ⟨isResult, given⟩
    rw [e.result_eq_none (kept.1 isResult)] at given
    cases given
  rw [postScope, read_withResult, if_neg visible, preScope, Frame.read_scope (e.distinctFrame d),
    Frame.read_scope d.distinctFrame, e.reading_eq d kept]

end Effects

/-- `old` around an expression can be moved to its names and fields, and it can be left out where the two scopes do not
differ in what is read, as they do not for the locations that no effect of a method assigns. -/
theorem old_commutes_with_constructs (e : Expr) (now before : Scope) :
    e.old.toTerm (some before) now = e.toTerm (some before) before ∧
      e.old.old.toTerm (some before) now = e.old.toTerm (some before) now ∧
      e.oldLeaves.toTerm (some before) now = e.old.toTerm (some before) now ∧
      ((∀ r ∈ e.readings, now.read r = before.read r) →
        e.old.toTerm (some before) now = e.toTerm (some before) now) ∧
      ∀ subject method dependencies frame unknowns post result,
        (declareFrame subject method dependencies).run [] = .ok (frame, unknowns) →
        Effects subject method frame post result → now = postScope subject method frame post result →
        before = preScope subject method frame → (∀ r ∈ e.readings, Unassigned subject method r) →
        e.old.toTerm (some before) now = e.toTerm (some before) now := by
  have unchanged (same : ∀ r ∈ e.readings, now.read r = before.read r) :
      e.old.toTerm (some before) now = e.toTerm (some before) now := by
    rw [Expr.toTerm_old]
    exact (Expr.toTerm_congr (.some (Scope.Alike.refl before)) e same).symm
  refine ⟨e.toTerm_old now before, ?_, ?_, unchanged, ?_⟩
  · rw [Expr.toTerm_old, Expr.toTerm_old, Expr.toTerm_old]
  · rw [Expr.toTerm_oldLeaves, Expr.toTerm_old]
  · rintro subject method dependencies frame unknowns post result declared effects rfl rfl kept
    exact unchanged fun r member => effects.read_eq (declareFrame_ok declared) (kept r member)

/-- `amount > Account.floor + old(balance)` reads nothing after a withdrawal that this has changed. -/
def aboveFloor : Expr :=
  .compare (.name "amount") [(.gt, .binary .add (.field (.name "Account") "floor") (Expr.name "balance").old)]

theorem aboveFloor_old_or_not :
    ∃ frame unknowns post result t,
      (declareFrame Encoding.account Encoding.withdraw [Encoding.bank]).run [] = .ok (frame, unknowns) ∧
      Effects Encoding.account Encoding.withdraw frame post result ∧
      (∀ r ∈ aboveFloor.readings, Unassigned Encoding.account Encoding.withdraw r) ∧
      aboveFloor.old.toTerm (some (preScope Encoding.account Encoding.withdraw frame))
        (postScope Encoding.account Encoding.withdraw frame post result) = .ok t ∧
      aboveFloor.toTerm (some (preScope Encoding.account Encoding.withdraw frame))
        (postScope Encoding.account Encoding.withdraw frame post result) = .ok t := by
  have ran : (Encoding.ofMethod Encoding.account Encoding.withdraw [Encoding.bank] 4).isOk = true ∧
      ((declareFrame Encoding.account Encoding.withdraw [Encoding.bank]).run []).toOption.any (fun r =>
        (aboveFloor.toTerm (some (preScope Encoding.account Encoding.withdraw r.1))
          (preScope Encoding.account Encoding.withdraw r.1)).isOk) = true := by decide +kernel
  obtain ⟨enc, encoded⟩ := exists_of_isOk ran.1
  obtain ⟨⟨frame, unknowns⟩, declared, encoded⟩ := bind_eq_ok.mp encoded
  obtain ⟨post, applied, encoded⟩ := bind_eq_ok.mp encoded
  obtain ⟨result, resulting, -⟩ := bind_eq_ok.mp encoded
  have effects : Effects Encoding.account Encoding.withdraw frame post result := ⟨applied, resulting⟩
  have termed := ran.2
  rw [declared] at termed
  obtain ⟨t, term⟩ := exists_of_isOk termed
  have kept : ∀ r ∈ aboveFloor.readings, Unassigned Encoding.account Encoding.withdraw r := by
    have own : ownTable? Encoding.account Encoding.withdraw "Account" = some .statics := by decide +kernel
    have untouched : Encoding.withdraw.effect? "floor" = none := by decide +kernel
    intro r member
    have listed : r = .bare "amount" ∨ r = .member "Account" "floor" := by
      simpa [aboveFloor, Expr.readings, Clause.chainReadings, Expr.old] using member
    rcases listed with rfl | rfl
    · exact ⟨fun same => absurd same (by decide), .inl (by decide)⟩
    · refine ⟨fun same => absurd same (by decide), fun table isOwn assigned => ?_⟩
      cases own.symm.trans isOwn
      have impossible := assigned.2.2
      rw [untouched] at impossible
      cases impossible
  obtain ⟨below, -, -, -, same⟩ := old_commutes_with_constructs aboveFloor
    (postScope Encoding.account Encoding.withdraw frame post result)
    (preScope Encoding.account Encoding.withdraw frame)
  have old_term := below.trans term
  have unchanged := same _ _ _ _ _ _ _ declared effects rfl rfl kept
  exact ⟨frame, unknowns, post, result, t, declared, effects, kept, old_term, unchanged.symm.trans old_term⟩

end Covenant
