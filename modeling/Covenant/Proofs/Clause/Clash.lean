import Covenant.Proofs.Clause.Acceptance

namespace Covenant.Clause

/-! ## Operators that refuse truth values -/

def BinaryOp.refusesTruths : BinaryOp → Bool
  | .sub | .floorDiv | .mod => true
  | _ => false

def CompareOp.refusesTruths : CompareOp → Bool
  | .lt | .le | .gt | .ge => true
  | _ => false

def BinaryOp.isSupported : BinaryOp → Bool
  | .add | .sub | .mul | .floorDiv | .mod | .div => true
  | _ => false

def CompareOp.isSupported : CompareOp → Bool
  | .lt | .le | .gt | .ge | .eq | .ne => true
  | _ => false

def helpers : List (String × Nat) := [("implies", 2), ("abs", 1), ("min", 2), ("max", 2)]

def helperRefuses : String → List Ty → Bool
  | "abs", [.bool] => true
  | "min", [.bool, .bool] => true
  | "max", [.bool, .bool] => true
  | _, _ => false

/-! ## Clashes -/

def Accepts (old : Option Typing) (Γ : Typing) (e : Expr) (ty : Ty) : Prop := HasSort old Γ e ty ∧ e.Writable

mutual
/-- An operator is reached that is not defined for its operands. -/
inductive Clashes (old : Option Typing) : Typing → Expr → Prop
  | operand {Γ : Typing} {op : UnaryOp} {e : Expr} (operand : Clashes old Γ e) : Clashes old Γ (.unary op e)
  | neg {Γ : Typing} {e : Expr} (truth : Accepts old Γ e .bool) : Clashes old Γ (.unary .neg e)
  | left {Γ : Typing} {op : BinaryOp} {l r : Expr} (left : Clashes old Γ l) : Clashes old Γ (.binary op l r)
  | right {Γ : Typing} {op : BinaryOp} {l r : Expr} {a : Ty} (left : Accepts old Γ l a) (right : Clashes old Γ r) :
      Clashes old Γ (.binary op l r)
  | binary {Γ : Typing} {op : BinaryOp} {l r : Expr} (refuses : op.refusesTruths = true)
      (left : Accepts old Γ l .bool) (right : Accepts old Γ r .bool) : Clashes old Γ (.binary op l r)
  | bool {Γ : Typing} {op : BoolOp} {es : List Expr} (operands : SomeClash old Γ es) : Clashes old Γ (.bool op es)
  | first {Γ : Typing} {e : Expr} {rest : List (CompareOp × Expr)} (first : Clashes old Γ e) :
      Clashes old Γ (.compare e rest)
  | chain {Γ : Typing} {e : Expr} {rest : List (CompareOp × Expr)} {a : Ty} (first : Accepts old Γ e a)
      (chain : ChainClashes old Γ a rest) : Clashes old Γ (.compare e rest)
  | test {Γ : Typing} {c l r : Expr} (test : Clashes old Γ c) : Clashes old Γ (.ifElse c l r)
  | body {Γ : Typing} {c l r : Expr} {t : Ty} (test : Accepts old Γ c t) (body : Clashes old Γ l) :
      Clashes old Γ (.ifElse c l r)
  | other {Γ : Typing} {c l r : Expr} {t a : Ty} (test : Accepts old Γ c t) (body : Accepts old Γ l a)
      (other : Clashes old Γ r) : Clashes old Γ (.ifElse c l r)
  | old {Γ before : Typing} {e : Expr} (allowed : old = some before) (operand : Clashes old before e) :
      Clashes old Γ (.call (.name "old") [e] false)
  | args {Γ : Typing} {function : String} {es : List Expr} (notOld : function ≠ "old") (args : SomeClash old Γ es) :
      Clashes old Γ (.call (.name function) es false)
  | helper {Γ : Typing} {function : String} {es : List Expr} {tys : List Ty} (args : HaveSorts old Γ es tys)
      (writable : AllWritable es) (refuses : helperRefuses function tys = true) :
      Clashes old Γ (.call (.name function) es false)
inductive SomeClash (old : Option Typing) : Typing → List Expr → Prop
  | head {Γ : Typing} {e : Expr} {es : List Expr} (head : Clashes old Γ e) : SomeClash old Γ (e :: es)
  | tail {Γ : Typing} {e : Expr} {es : List Expr} {a : Ty} (head : Accepts old Γ e a) (tail : SomeClash old Γ es) :
      SomeClash old Γ (e :: es)
inductive ChainClashes (old : Option Typing) : Typing → Ty → List (CompareOp × Expr) → Prop
  | operand {Γ : Typing} {op : CompareOp} {e : Expr} {a : Ty} {rest : List (CompareOp × Expr)}
      (operand : Clashes old Γ e) : ChainClashes old Γ a ((op, e) :: rest)
  | compared {Γ : Typing} {op : CompareOp} {e : Expr} {rest : List (CompareOp × Expr)}
      (refuses : op.refusesTruths = true) (operand : Accepts old Γ e .bool) :
      ChainClashes old Γ .bool ((op, e) :: rest)
  | tail {Γ : Typing} {op : CompareOp} {e : Expr} {a b : Ty} {rest : List (CompareOp × Expr)}
      (operand : Accepts old Γ e b) (admits : op.admits a b = true) (tail : ChainClashes old Γ b rest) :
      ChainClashes old Γ a ((op, e) :: rest)
end

/-! ## What an operator answers to the sorts of its operands -/

def errorOf? {ε α : Type} : Except ε α → Option ε
  | .ok _ => none
  | .error err => some err

theorem errorOf?_eq_some {ε α : Type} {r : Except ε α} {err : ε} : errorOf? r = some err ↔ r = .error err := by
  cases r <;> simp [errorOf?]

def operandError? (refused : Bool) (sort : Option Ty) : Option Error :=
  if refused then some .undefinedOperator else if sort.isNone then some .illTyped else none

theorem BinaryOp.error_apply (op : BinaryOp) (a b : SomeTerm) :
    errorOf? (op.apply a b) =
      if op.isSupported then operandError? (op.refusesTruths && a.ty.areTruths b.ty) (op.sort? a.ty b.ty)
      else some (.binaryOp op) := by
  obtain ⟨_ | _ | _, a⟩ := a <;> obtain ⟨_ | _ | _, b⟩ := b <;> cases op <;> rfl

theorem UnaryOp.error_apply (op : UnaryOp) (a : SomeTerm) :
    errorOf? (op.apply a) =
      if op = .invert then some (.unaryOp .invert)
      else operandError? (op = .neg && a.ty = .bool) (op.sort? a.ty) := by
  obtain ⟨_ | _ | _, a⟩ := a <;> cases op <;> rfl

theorem CompareOp.error_apply (op : CompareOp) (a b : SomeTerm) :
    errorOf? (op.apply a b) =
      if op.isSupported then
        operandError? (op.refusesTruths && a.ty.areTruths b.ty) (if op.admits a.ty b.ty then some .bool else none)
      else some (.comparison op) := by
  obtain ⟨_ | _ | _, a⟩ := a <;> obtain ⟨_ | _ | _, b⟩ := b <;> cases op <;> rfl

theorem error_ite (c a b : SomeTerm) :
    errorOf? (ofOperands (c.ite a b)) = operandError? false (sortOfTerm? (c.ite a b)) := by
  obtain ⟨_ | _ | _, c⟩ := c <;> obtain ⟨_ | _ | _, a⟩ := a <;> obtain ⟨_ | _ | _, b⟩ := b <;> rfl

theorem error_applyHelper (function : String) (args : List SomeTerm) :
    errorOf? (applyHelper function args) =
      match helpers.lookup function with
      | none => some (.unknownCall function)
      | some arity =>
        if args.length = arity then
          operandError? (helperRefuses function (args.map (·.ty))) (helperSort? function (args.map (·.ty)))
        else some (.arity function arity args.length) := by
  by_cases known : function ∈ ["implies", "abs", "min", "max"]
  · simp only [List.mem_cons, List.not_mem_nil, or_false] at known
    obtain rfl | rfl | rfl | rfl := known
    all_goals obtain _ | ⟨⟨_ | _ | _, a⟩, _ | ⟨⟨_ | _ | _, b⟩, _ | ⟨c, rest⟩⟩⟩ := args <;> rfl
  · simp only [List.mem_cons, List.not_mem_nil, or_false, not_or] at known
    obtain ⟨notImplies, notAbs, notMin, notMax⟩ := known
    have unknown : helpers.lookup function = none := by
      simp [helpers, lookup_cons_eq, notImplies, notAbs, notMin, notMax]
    simp [unknown, applyHelper, notImplies, notAbs, notMin, notMax, errorOf?]

theorem BoolOp.error_apply (op : BoolOp) (parts : List SomeTerm) :
    errorOf? (op.apply parts) = operandError? false (sortOfTerm? (op.apply parts)) := by
  obtain ⟨-, xs, eq⟩ | ⟨-, eq⟩ := truths_cases parts
  · cases op <;> simp only [BoolOp.apply, SomeTerm.and, SomeTerm.or, eq] <;> rfl
  · cases op <;> simp only [BoolOp.apply, SomeTerm.and, SomeTerm.or, eq] <;> rfl

theorem Expr.toTerm_call_error {old : Option Scope} {scope : Scope} {callee : Expr} {args : List Expr} {keywords : Bool}
    {err : Error} (h : (Expr.call callee args keywords).toTerm old scope = .error err) :
    (err = .irregularCall ∧ ¬ (keywords = false ∧ ∃ function, callee = .name function)) ∨
      (keywords = false ∧ callee = .name "old" ∧
        (err = .oldOutside ∨ (∃ n, err = .arity "old" 1 n) ∨
          ∃ before arg, old = some before ∧ args = [arg] ∧ arg.toTerm old before = .error err)) ∨
      (keywords = false ∧ ∃ function, callee = .name function ∧ function ≠ "old" ∧
        (toTerms old scope args = .error err ∨
          ∃ ts, toTerms old scope args = .ok ts ∧ applyHelper function ts = .error err)) := by
  cases callee with
  | name function =>
    cases keywords with
    | true =>
      simp only [Expr.toTerm, Except.error.injEq] at h
      exact .inl ⟨h.symm, fun regular => Bool.noConfusion regular.1⟩
    | false =>
      by_cases isOld : function = "old"
      · subst isOld
        refine .inr (.inl ⟨rfl, rfl, ?_⟩)
        rw [Expr.toTerm.eq_def] at h
        simp only [if_true] at h
        split at h
        · cases h
          exact .inl rfl
        · split at h
          · exact .inr (.inr ⟨_, _, rfl, rfl, h⟩)
          · cases h
            exact .inr (.inl ⟨_, rfl⟩)
      · refine .inr (.inr ⟨rfl, function, rfl, isOld, ?_⟩)
        rw [Expr.toTerm.eq_def] at h
        simp only [isOld, if_false] at h
        exact bind_eq_error.mp h
  | _ =>
    simp only [Expr.toTerm, Except.error.injEq] at h
    exact .inl ⟨h.symm, by simp⟩

/-! ## Clashes are the undefined operators -/

theorem operandError?_undefined {refused : Bool} {sort : Option Ty} :
    operandError? refused sort = some .undefinedOperator ↔ refused = true := by
  unfold operandError?
  split_ifs <;> simp_all

theorem areTruths_iff {a b : Ty} : a.areTruths b = true ↔ a = .bool ∧ b = .bool := by
  simp [Ty.areTruths]

theorem BinaryOp.apply_undefined {op : BinaryOp} {a b : SomeTerm} :
    op.apply a b = .error .undefinedOperator ↔ op.refusesTruths = true ∧ a.ty = .bool ∧ b.ty = .bool := by
  rw [← errorOf?_eq_some, BinaryOp.error_apply, ← areTruths_iff]
  split
  · rw [operandError?_undefined, Bool.and_eq_true]
  · rename_i unsupported
    cases op <;> simp_all [BinaryOp.isSupported, BinaryOp.refusesTruths]

theorem UnaryOp.apply_undefined {op : UnaryOp} {a : SomeTerm} :
    op.apply a = .error .undefinedOperator ↔ op = .neg ∧ a.ty = .bool := by
  rw [← errorOf?_eq_some, UnaryOp.error_apply]
  split
  · rename_i isInvert
    simp [isInvert]
  · simp [operandError?_undefined]

theorem CompareOp.apply_undefined {op : CompareOp} {a b : SomeTerm} :
    op.apply a b = .error .undefinedOperator ↔ op.refusesTruths = true ∧ a.ty = .bool ∧ b.ty = .bool := by
  rw [← errorOf?_eq_some, CompareOp.error_apply, ← areTruths_iff]
  split
  · rw [operandError?_undefined, Bool.and_eq_true]
  · rename_i unsupported
    cases op <;> simp_all [CompareOp.isSupported, CompareOp.refusesTruths]

theorem lookup_of_helperRefuses {function : String} {tys : List Ty} (h : helperRefuses function tys = true) :
    helpers.lookup function = some tys.length := by
  unfold helperRefuses at h
  split at h
  · rfl
  · rfl
  · rfl
  · cases h

theorem applyHelper_undefined {function : String} {args : List SomeTerm} :
    applyHelper function args = .error .undefinedOperator ↔ helperRefuses function (args.map (·.ty)) = true := by
  rw [← errorOf?_eq_some, error_applyHelper]
  cases found : helpers.lookup function with
  | none =>
    refine ⟨nofun, fun refuses => ?_⟩
    rw [lookup_of_helperRefuses refuses] at found
    cases found
  | some arity =>
    simp only
    split
    · exact operandError?_undefined
    · rename_i differs
      refine ⟨nofun, fun refuses => ?_⟩
      rw [lookup_of_helperRefuses refuses, List.length_map, Option.some_inj] at found
      exact absurd found differs

theorem BoolOp.apply_defined {op : BoolOp} {parts : List SomeTerm} : op.apply parts ≠ .error .undefinedOperator := by
  rw [Ne, ← errorOf?_eq_some, BoolOp.error_apply, operandError?_undefined]
  exact Bool.false_ne_true

theorem ite_defined {c a b : SomeTerm} : ofOperands (c.ite a b) ≠ .error .undefinedOperator := by
  rw [Ne, ← errorOf?_eq_some, error_ite, operandError?_undefined]
  exact Bool.false_ne_true

theorem Constant.toTerm_defined {c : Constant} : c.toTerm ≠ .error .undefinedOperator := by
  unfold Constant.toTerm
  split
  · nofun
  · split <;> nofun
  · split <;> nofun
  · nofun

theorem Scope.value_defined {scope : Scope} {name : String} : scope.value name ≠ .error .undefinedOperator := by
  unfold Scope.value
  split <;> nofun

theorem Scope.field_defined {scope : Scope} {owner name : String} :
    scope.field owner name ≠ .error .undefinedOperator := by
  unfold Scope.field
  split
  · split <;> nofun
  · nofun

theorem joinComparisons_ok {old : Option Scope} {scope : Scope} {a : SomeTerm} {rest : List (CompareOp × Expr)}
    {parts : List SomeTerm} (h : toComparisons old scope a rest = .ok parts) (err : Error) :
    joinComparisons parts ≠ .error err := by
  obtain ⟨-, -, truths⟩ := compares_of_toComparisons old scope a rest parts h
  obtain ⟨t, joined, -⟩ := sortOfTerm?_eq_some.mp (sort_joinComparisons truths)
  rw [joined]
  nofun

mutual
theorem Expr.clashes_of_toTerm (old : Option Scope) (scope : Scope) (e : Expr)
    (h : e.toTerm old scope = .error .undefinedOperator) : Clashes (old.map Scope.typing) scope.typing e := by
  match e with
  | .constant c => exact absurd h Constant.toTerm_defined
  | .name id => exact absurd h Scope.value_defined
  | .field owner name =>
    cases owner with
    | name ownerName => exact absurd h Scope.field_defined
    | _ => simp [Expr.toTerm] at h
  | .unary op operand =>
    rcases bind_eq_error.mp h with operand_error | ⟨a, operand_ok, h⟩
    · exact .operand (Expr.clashes_of_toTerm old scope operand operand_error)
    · obtain ⟨rfl, truth⟩ := UnaryOp.apply_undefined.mp h
      exact .neg (truth ▸ operand.sort_of_toTerm old scope a operand_ok)
  | .binary op left right =>
    rcases bind_eq_error.mp h with left_error | ⟨a, left_ok, h⟩
    · exact .left (Expr.clashes_of_toTerm old scope left left_error)
    rcases bind_eq_error.mp h with right_error | ⟨b, right_ok, h⟩
    · exact .right (left.sort_of_toTerm old scope a left_ok) (Expr.clashes_of_toTerm old scope right right_error)
    · obtain ⟨refuses, left_truth, right_truth⟩ := BinaryOp.apply_undefined.mp h
      exact .binary refuses (left_truth ▸ left.sort_of_toTerm old scope a left_ok)
        (right_truth ▸ right.sort_of_toTerm old scope b right_ok)
  | .bool op operands =>
    rcases bind_eq_error.mp h with operands_error | ⟨parts, -, h⟩
    · exact .bool (someClash_of_toTerms old scope operands operands_error)
    · exact absurd h BoolOp.apply_defined
  | .compare first rest =>
    rcases bind_eq_error.mp h with first_error | ⟨a, first_ok, h⟩
    · exact .first (Expr.clashes_of_toTerm old scope first first_error)
    rcases bind_eq_error.mp h with rest_error | ⟨parts, rest_ok, h⟩
    · exact .chain (first.sort_of_toTerm old scope a first_ok)
        (chainClashes_of_toComparisons old scope a rest rest_error)
    · exact absurd h (joinComparisons_ok rest_ok _)
  | .ifElse test body other =>
    rcases bind_eq_error.mp h with test_error | ⟨c, test_ok, h⟩
    · exact .test (Expr.clashes_of_toTerm old scope test test_error)
    rcases bind_eq_error.mp h with body_error | ⟨a, body_ok, h⟩
    · exact .body (test.sort_of_toTerm old scope c test_ok) (Expr.clashes_of_toTerm old scope body body_error)
    rcases bind_eq_error.mp h with other_error | ⟨b, other_ok, h⟩
    · exact .other (test.sort_of_toTerm old scope c test_ok) (body.sort_of_toTerm old scope a body_ok)
        (Expr.clashes_of_toTerm old scope other other_error)
    · exact absurd h ite_defined
  | .call callee args keywords =>
    rcases Expr.toTerm_call_error h with ⟨irregular, -⟩ |
      ⟨rfl, rfl, outside | ⟨n, arity⟩ | ⟨before, arg, rfl, rfl, h⟩⟩ |
      ⟨rfl, function, rfl, notOld, args_error | ⟨ts, args_ok, h⟩⟩
    · cases irregular
    · cases outside
    · cases arity
    · exact .old rfl (Expr.clashes_of_toTerm (some before) before arg h)
    · exact .args notOld (someClash_of_toTerms old scope args args_error)
    · obtain ⟨sorts, writable⟩ := sorts_of_toTerms old scope args ts args_ok
      exact .helper sorts writable (applyHelper_undefined.mp h)
  | .other kind parts => simp [Expr.toTerm] at h
termination_by sizeOf e
theorem someClash_of_toTerms (old : Option Scope) (scope : Scope) (es : List Expr)
    (h : toTerms old scope es = .error .undefinedOperator) : SomeClash (old.map Scope.typing) scope.typing es := by
  match es with
  | [] => cases h
  | e :: rest =>
    rcases bind_eq_error.mp h with head_error | ⟨t, head_ok, h⟩
    · exact .head (Expr.clashes_of_toTerm old scope e head_error)
    rcases bind_eq_error.mp h with rest_error | ⟨ts, -, h⟩
    · exact .tail (e.sort_of_toTerm old scope t head_ok) (someClash_of_toTerms old scope rest rest_error)
    · cases h
termination_by sizeOf es
theorem chainClashes_of_toComparisons (old : Option Scope) (scope : Scope) (a : SomeTerm)
    (rest : List (CompareOp × Expr)) (h : toComparisons old scope a rest = .error .undefinedOperator) :
    ChainClashes (old.map Scope.typing) scope.typing a.ty rest := by
  match rest with
  | [] => cases h
  | (op, e) :: rest =>
    rcases bind_eq_error.mp h with operand_error | ⟨b, operand_ok, h⟩
    · exact .operand (Expr.clashes_of_toTerm old scope e operand_error)
    have operand_sort := e.sort_of_toTerm old scope b operand_ok
    rcases bind_eq_error.mp h with part_error | ⟨part, part_ok, h⟩
    · obtain ⟨refuses, left_truth, right_truth⟩ := CompareOp.apply_undefined.mp part_error
      rw [left_truth]
      exact .compared refuses (right_truth ▸ operand_sort)
    rcases bind_eq_error.mp h with rest_error | ⟨parts, -, h⟩
    · refine .tail operand_sort ?_ (chainClashes_of_toComparisons old scope b rest rest_error)
      have compared := op.sort_apply a b
      rw [part_ok, sortOfTerm?_ok] at compared
      split at compared
      · assumption
      · cases compared
    · cases h
termination_by sizeOf rest
end

theorem Accepts.toTerm {old : Option Scope} {scope : Scope} {e : Expr} {ty : Ty}
    (h : Accepts (old.map Scope.typing) scope.typing e ty) : ∃ t, e.toTerm old scope = .ok t ∧ t.ty = ty :=
  h.1.toTerm old scope e ty h.2

mutual
theorem Clashes.toTerm (old : Option Scope) (scope : Scope) (e : Expr)
    (h : Clashes (old.map Scope.typing) scope.typing e) : e.toTerm old scope = .error .undefinedOperator := by
  match e with
  | .constant c => cases h
  | .name id => cases h
  | .field owner name => cases h
  | .unary op operand =>
    cases h with
    | operand operand_clashes => exact bind_eq_error.mpr (.inl (Clashes.toTerm old scope operand operand_clashes))
    | neg accepts =>
      obtain ⟨a, operand_ok, truth⟩ := accepts.toTerm
      exact bind_eq_error.mpr (.inr ⟨a, operand_ok, UnaryOp.apply_undefined.mpr ⟨rfl, truth⟩⟩)
  | .binary op left right =>
    cases h with
    | left left_clashes => exact bind_eq_error.mpr (.inl (Clashes.toTerm old scope left left_clashes))
    | right left_accepts right_clashes =>
      obtain ⟨a, left_ok, -⟩ := left_accepts.toTerm
      refine bind_eq_error.mpr (.inr ⟨a, left_ok, bind_eq_error.mpr (.inl ?_)⟩)
      exact Clashes.toTerm old scope right right_clashes
    | binary refuses left_accepts right_accepts =>
      obtain ⟨a, left_ok, left_truth⟩ := left_accepts.toTerm
      obtain ⟨b, right_ok, right_truth⟩ := right_accepts.toTerm
      refine bind_eq_error.mpr (.inr ⟨a, left_ok, bind_eq_error.mpr (.inr ⟨b, right_ok, ?_⟩)⟩)
      exact BinaryOp.apply_undefined.mpr ⟨refuses, left_truth, right_truth⟩
  | .bool op operands =>
    cases h with
    | bool operands_clash => exact bind_eq_error.mpr (.inl (SomeClash.toTerms old scope operands operands_clash))
  | .compare first rest =>
    cases h with
    | first first_clashes => exact bind_eq_error.mpr (.inl (Clashes.toTerm old scope first first_clashes))
    | chain first_accepts rest_clashes =>
      obtain ⟨a, first_ok, rfl⟩ := first_accepts.toTerm
      refine bind_eq_error.mpr (.inr ⟨a, first_ok, bind_eq_error.mpr (.inl ?_)⟩)
      exact ChainClashes.toComparisons old scope a rest rest_clashes
  | .ifElse test body other =>
    cases h with
    | test test_clashes => exact bind_eq_error.mpr (.inl (Clashes.toTerm old scope test test_clashes))
    | body test_accepts body_clashes =>
      obtain ⟨c, test_ok, -⟩ := test_accepts.toTerm
      refine bind_eq_error.mpr (.inr ⟨c, test_ok, bind_eq_error.mpr (.inl ?_)⟩)
      exact Clashes.toTerm old scope body body_clashes
    | other test_accepts body_accepts other_clashes =>
      obtain ⟨c, test_ok, -⟩ := test_accepts.toTerm
      obtain ⟨a, body_ok, -⟩ := body_accepts.toTerm
      refine bind_eq_error.mpr (.inr ⟨c, test_ok, bind_eq_error.mpr (.inr ⟨a, body_ok, ?_⟩)⟩)
      exact bind_eq_error.mpr (.inl (Clashes.toTerm old scope other other_clashes))
  | .call callee args keywords =>
    cases h with
    | old allowed operand_clashes =>
      obtain ⟨before, rfl, rfl⟩ := Option.map_eq_some_iff.mp allowed
      rw [Expr.toTerm.eq_def]
      exact Clashes.toTerm (some before) before _ operand_clashes
    | args notOld args_clash =>
      rw [Expr.toTerm.eq_def]
      simp only [notOld, if_false]
      exact bind_eq_error.mpr (.inl (SomeClash.toTerms old scope args args_clash))
    | helper sorts writable refuses =>
      rename_i function _
      obtain ⟨ts, args_ok, rfl⟩ := sorts.toTerms old scope args _ writable
      have notOld : function ≠ "old" := by
        rintro rfl
        simp [helperRefuses] at refuses
      rw [Expr.toTerm.eq_def]
      simp only [notOld, if_false]
      exact bind_eq_error.mpr (.inr ⟨ts, args_ok, applyHelper_undefined.mpr refuses⟩)
  | .other kind parts => cases h
termination_by sizeOf e
theorem SomeClash.toTerms (old : Option Scope) (scope : Scope) (es : List Expr)
    (h : SomeClash (old.map Scope.typing) scope.typing es) :
    Clause.toTerms old scope es = .error .undefinedOperator := by
  match es with
  | [] => cases h
  | e :: rest =>
    cases h with
    | head head_clashes => exact bind_eq_error.mpr (.inl (Clashes.toTerm old scope e head_clashes))
    | tail head_accepts tail_clashes =>
      obtain ⟨t, head_ok, -⟩ := head_accepts.toTerm
      refine bind_eq_error.mpr (.inr ⟨t, head_ok, bind_eq_error.mpr (.inl ?_)⟩)
      exact SomeClash.toTerms old scope rest tail_clashes
termination_by sizeOf es
theorem ChainClashes.toComparisons (old : Option Scope) (scope : Scope) (a : SomeTerm)
    (rest : List (CompareOp × Expr)) (h : ChainClashes (old.map Scope.typing) scope.typing a.ty rest) :
    Clause.toComparisons old scope a rest = .error .undefinedOperator := by
  match rest with
  | [] =>
    generalize a.ty = ty at h
    cases h
  | (op, e) :: rest =>
    generalize left : a.ty = ty at h
    cases h with
    | operand operand_clashes => exact bind_eq_error.mpr (.inl (Clashes.toTerm old scope e operand_clashes))
    | compared refuses operand_accepts =>
      obtain ⟨b, operand_ok, right⟩ := operand_accepts.toTerm
      refine bind_eq_error.mpr (.inr ⟨b, operand_ok, bind_eq_error.mpr (.inl ?_)⟩)
      exact CompareOp.apply_undefined.mpr ⟨refuses, left, right⟩
    | tail operand_accepts admits tail_clashes =>
      obtain ⟨b, operand_ok, rfl⟩ := operand_accepts.toTerm
      subst left
      obtain ⟨part, part_ok, -⟩ := sortOfTerm?_eq_some.mp ((op.sort_apply a b).trans (if_pos admits))
      refine bind_eq_error.mpr (.inr ⟨b, operand_ok, bind_eq_error.mpr (.inr ⟨part, part_ok, ?_⟩)⟩)
      exact bind_eq_error.mpr (.inl (ChainClashes.toComparisons old scope b rest tail_clashes))
termination_by sizeOf rest
end

end Covenant.Clause
