import Covenant.Proofs.Clause.Clash

namespace Covenant.Clause

mutual
def Expr.Supported : Expr → Prop
  | .constant (.bool _) | .constant (.int _) | .constant (.float _) => True
  | .constant _ => False
  | .name _ => True
  | .field owner _ => ∃ id, owner = .name id
  | .unary op operand => op ≠ .invert ∧ operand.Supported
  | .binary op left right => op.isSupported = true ∧ left.Supported ∧ right.Supported
  | .bool _ operands => AllSupported operands
  | .compare first rest => first.Supported ∧ ChainSupported rest
  | .ifElse test body other => test.Supported ∧ body.Supported ∧ other.Supported
  | .call callee args keywords =>
    keywords = false ∧ (∃ function ∈ "old" :: helpers.map (·.1), callee = .name function) ∧ AllSupported args
  | .other _ _ => False
def AllSupported : List Expr → Prop
  | [] => True
  | e :: rest => e.Supported ∧ AllSupported rest
def ChainSupported : List (CompareOp × Expr) → Prop
  | [] => True
  | (op, e) :: rest => op.isSupported = true ∧ e.Supported ∧ ChainSupported rest
end

/-- Why a clause has no term: what is wrong with it, or what it may lack. -/
inductive Blamed (supported writable : Prop) : Error → Prop
  | wrong {err : Error} (semantic : err.severity = .semantic) : Blamed supported writable err
  | unsupported {err : Error} (unsupported : err.severity = .unsupported) (lacks : ¬ supported) :
      Blamed supported writable err
  | clash : Blamed supported writable .undefinedOperator
  | long (lacks : ¬ writable) : Blamed supported writable .longNumber

theorem Blamed.mono {s s' w w' : Prop} {err : Error} (h : Blamed s w err) (hs : s' → s) (hw : w' → w) :
    Blamed s' w' err := by
  cases h with
  | wrong semantic => exact .wrong semantic
  | unsupported unsupported lacks => exact .unsupported unsupported fun s => lacks (hs s)
  | clash => exact .clash
  | long lacks => exact .long fun w => lacks (hw w)

theorem blamed_of_operandError? {s w : Prop} {refused : Bool} {sort : Option Ty} {err : Error}
    (h : operandError? refused sort = some err) : Blamed s w err := by
  unfold operandError? at h
  split_ifs at h
  · cases h
    exact .clash
  · cases h
    exact .wrong rfl

theorem BinaryOp.blamed_apply {w : Prop} {op : BinaryOp} {a b : SomeTerm} {err : Error}
    (h : op.apply a b = .error err) : Blamed (op.isSupported = true) w err := by
  rw [← errorOf?_eq_some, BinaryOp.error_apply] at h
  split at h
  · exact blamed_of_operandError? h
  · rename_i unsupported
    cases h
    exact .unsupported rfl unsupported

theorem UnaryOp.blamed_apply {w : Prop} {op : UnaryOp} {a : SomeTerm} {err : Error} (h : op.apply a = .error err) :
    Blamed (op ≠ .invert) w err := by
  rw [← errorOf?_eq_some, UnaryOp.error_apply] at h
  split at h
  · rename_i isInvert
    cases h
    exact .unsupported rfl fun differs => differs isInvert
  · exact blamed_of_operandError? h

theorem CompareOp.blamed_apply {w : Prop} {op : CompareOp} {a b : SomeTerm} {err : Error}
    (h : op.apply a b = .error err) : Blamed (op.isSupported = true) w err := by
  rw [← errorOf?_eq_some, CompareOp.error_apply] at h
  split at h
  · exact blamed_of_operandError? h
  · rename_i unsupported
    cases h
    exact .unsupported rfl unsupported

theorem BoolOp.blamed_apply {s w : Prop} {op : BoolOp} {parts : List SomeTerm} {err : Error}
    (h : op.apply parts = .error err) : Blamed s w err := by
  rw [← errorOf?_eq_some, BoolOp.error_apply] at h
  exact blamed_of_operandError? h

theorem blamed_ite {s w : Prop} {c a b : SomeTerm} {err : Error} (h : ofOperands (c.ite a b) = .error err) :
    Blamed s w err := by
  rw [← errorOf?_eq_some, error_ite] at h
  exact blamed_of_operandError? h

theorem blamed_applyHelper {w : Prop} {function : String} {args : List SomeTerm} {err : Error}
    (h : applyHelper function args = .error err) : Blamed (function ∈ helpers.map (·.1)) w err := by
  rw [← errorOf?_eq_some, error_applyHelper] at h
  split at h
  · rename_i unknown
    cases h
    refine .unsupported rfl fun known => ?_
    obtain ⟨⟨name, arity⟩, member, rfl⟩ := List.mem_map.mp known
    rw [List.lookup_eq_none_iff] at unknown
    simpa using unknown _ member
  · split at h
    · exact blamed_of_operandError? h
    · cases h
      exact .wrong rfl

theorem Constant.blamed_toTerm {c : Constant} {err : Error} (h : c.toTerm = .error err) :
    Blamed (Expr.constant c).Supported (Expr.constant c).Writable err := by
  cases c with
  | bool b => cases h
  | int n =>
    simp only [Constant.toTerm] at h
    split at h
    · rename_i long
      cases h
      exact .long fun writable => by simp [Expr.Writable, long] at writable
    · cases h
  | float x =>
    simp only [Constant.toTerm] at h
    split at h
    · cases h
    · cases h
      exact .wrong rfl
  | _ =>
    cases h
    exact .unsupported rfl id

theorem Scope.blamed_value {s w : Prop} {scope : Scope} {name : String} {err : Error}
    (h : scope.value name = .error err) : Blamed s w err := by
  unfold Scope.value at h
  split at h <;> cases h
  · exact .wrong rfl
  · exact .wrong rfl

theorem Scope.blamed_field {s w : Prop} {scope : Scope} {owner name : String} {err : Error}
    (h : scope.field owner name = .error err) : Blamed s w err := by
  unfold Scope.field at h
  split at h
  · split at h <;> cases h
    exact .wrong rfl
  · cases h
    exact .wrong rfl

mutual
theorem Expr.blamed_toTerm (old : Option Scope) (scope : Scope) (e : Expr) (err : Error)
    (h : e.toTerm old scope = .error err) : Blamed e.Supported e.Writable err := by
  match e with
  | .constant c => exact Constant.blamed_toTerm h
  | .name id => exact Scope.blamed_value h
  | .field owner name =>
    cases owner with
    | name ownerName => exact Scope.blamed_field h
    | _ =>
      simp only [Expr.toTerm, Except.error.injEq] at h
      subst h
      exact .unsupported rfl nofun
  | .unary op operand =>
    rcases bind_eq_error.mp h with operand_error | ⟨a, -, h⟩
    · exact (Expr.blamed_toTerm old scope operand err operand_error).mono And.right id
    · exact (UnaryOp.blamed_apply h).mono And.left id
  | .binary op left right =>
    rcases bind_eq_error.mp h with left_error | ⟨a, -, h⟩
    · exact (Expr.blamed_toTerm old scope left err left_error).mono (·.2.1) And.left
    rcases bind_eq_error.mp h with right_error | ⟨b, -, h⟩
    · exact (Expr.blamed_toTerm old scope right err right_error).mono (·.2.2) And.right
    · exact (BinaryOp.blamed_apply h).mono And.left id
  | .bool op operands =>
    rcases bind_eq_error.mp h with operands_error | ⟨parts, -, h⟩
    · exact blamed_toTerms old scope operands err operands_error
    · exact BoolOp.blamed_apply h
  | .compare first rest =>
    rcases bind_eq_error.mp h with first_error | ⟨a, -, h⟩
    · exact (Expr.blamed_toTerm old scope first err first_error).mono And.left And.left
    rcases bind_eq_error.mp h with rest_error | ⟨parts, rest_ok, h⟩
    · exact (blamed_toComparisons old scope a rest err rest_error).mono And.right And.right
    · exact absurd h (joinComparisons_ok rest_ok err)
  | .ifElse test body other =>
    rcases bind_eq_error.mp h with test_error | ⟨c, -, h⟩
    · exact (Expr.blamed_toTerm old scope test err test_error).mono And.left And.left
    rcases bind_eq_error.mp h with body_error | ⟨a, -, h⟩
    · exact (Expr.blamed_toTerm old scope body err body_error).mono (·.2.1) (·.2.1)
    rcases bind_eq_error.mp h with other_error | ⟨b, -, h⟩
    · exact (Expr.blamed_toTerm old scope other err other_error).mono (·.2.2) (·.2.2)
    · exact blamed_ite h
  | .call callee args keywords =>
    rcases Expr.toTerm_call_error h with ⟨rfl, irregular⟩ | ⟨rfl, rfl, rfl | ⟨n, rfl⟩ | ⟨before, arg, rfl, rfl, h⟩⟩ |
      ⟨rfl, function, rfl, notOld, args_error | ⟨ts, -, h⟩⟩
    · refine .unsupported rfl ?_
      rintro ⟨plain, ⟨function, -, callee_eq⟩, -⟩
      exact irregular ⟨plain, function, callee_eq⟩
    · exact .wrong rfl
    · exact .wrong rfl
    · exact (Expr.blamed_toTerm (some before) before arg err h).mono (·.2.2.1) And.left
    · exact (blamed_toTerms old scope args err args_error).mono (·.2.2) id
    · refine (blamed_applyHelper h).mono ?_ id
      rintro ⟨-, ⟨name, known, callee_eq⟩, -⟩
      cases callee_eq
      exact (List.mem_cons.mp known).resolve_left notOld
  | .other kind parts =>
    simp only [Expr.toTerm, Except.error.injEq] at h
    subst h
    exact .unsupported rfl id
termination_by sizeOf e
theorem blamed_toTerms (old : Option Scope) (scope : Scope) (es : List Expr) (err : Error)
    (h : toTerms old scope es = .error err) : Blamed (AllSupported es) (AllWritable es) err := by
  match es with
  | [] => cases h
  | e :: rest =>
    rcases bind_eq_error.mp h with head_error | ⟨t, -, h⟩
    · exact (Expr.blamed_toTerm old scope e err head_error).mono And.left And.left
    rcases bind_eq_error.mp h with rest_error | ⟨ts, -, h⟩
    · exact (blamed_toTerms old scope rest err rest_error).mono And.right And.right
    · cases h
termination_by sizeOf es
theorem blamed_toComparisons (old : Option Scope) (scope : Scope) (a : SomeTerm) (rest : List (CompareOp × Expr))
    (err : Error) (h : toComparisons old scope a rest = .error err) :
    Blamed (ChainSupported rest) (ChainWritable rest) err := by
  match rest with
  | [] => cases h
  | (op, e) :: rest =>
    rcases bind_eq_error.mp h with operand_error | ⟨b, -, h⟩
    · exact (Expr.blamed_toTerm old scope e err operand_error).mono (·.2.1) And.left
    rcases bind_eq_error.mp h with part_error | ⟨part, -, h⟩
    · exact (CompareOp.blamed_apply part_error).mono And.left id
    rcases bind_eq_error.mp h with rest_error | ⟨parts, -, h⟩
    · exact (blamed_toComparisons old scope b rest err rest_error).mono (·.2.2) And.right
    · cases h
termination_by sizeOf rest
end

/-! ## Clauses as texts -/

def Error.IsDoubt (err : Error) : Prop := err.severity = .unsupported ∨ err.severity = .semantic

namespace Context

variable {context : Context} {text : String}

def Clashes (context : Context) (e : Expr) : Prop :=
  Clause.Clashes (context.old.map Scope.typing) context.current.typing e

/-- The text does not fall under one of the exceptions. -/
structure Proper (context : Context) (text : String) : Prop where
  plain : '\x00' ∉ text.toList
  shallow : ∀ e ∈ parse text, e.depth ≤ depthLimit
  writable : ∀ e ∈ parse text, e.Writable
  smooth : ∀ e ∈ parse text, ¬ context.Clashes e

theorem term_eq_error {err : Error} (plain : '\x00' ∉ text.toList) (h : context.term text = .error err) :
    (parse text = none ∧ err = .malformed) ∨ ∃ e, parse text = some e ∧
      ((depthLimit < e.depth ∧ err = .tooDeep) ∨
        e.depth ≤ depthLimit ∧ e.toTerm context.old context.current = .error err) := by
  unfold Context.term at h
  rw [if_neg (by simpa using plain)] at h
  split at h
  · rename_i malformed
    cases h
    exact .inl ⟨malformed, rfl⟩
  · rename_i e parsed
    refine .inr ⟨e, parsed, ?_⟩
    split at h
    · rename_i deep
      cases h
      exact .inl ⟨deep, rfl⟩
    · rename_i shallow
      exact .inr ⟨Nat.le_of_not_lt shallow, h⟩

theorem clashes_iff {e : Expr} : e.toTerm context.old context.current = .error .undefinedOperator ↔ context.Clashes e :=
  ⟨e.clashes_of_toTerm _ _, fun clashes => clashes.toTerm _ _⟩

theorem term_undefined_iff {e : Expr} (plain : '\x00' ∉ text.toList) (parsed : parse text = some e)
    (shallow : e.depth ≤ depthLimit) : context.term text = .error .undefinedOperator ↔ context.Clashes e := by
  rw [← clashes_iff, Context.term, if_neg (by simpa using plain), parsed]
  simp only [Nat.not_lt_of_le shallow, if_false]

theorem Proper.doubt {err : Error} (proper : context.Proper text) (h : context.term text = .error err) :
    err.IsDoubt := by
  rcases term_eq_error proper.plain h with ⟨-, rfl⟩ | ⟨e, parsed, ⟨deep, rfl⟩ | ⟨-, h⟩⟩
  · exact .inr rfl
  · exact absurd (proper.shallow e parsed) (Nat.not_le_of_lt deep)
  · cases e.blamed_toTerm _ _ err h with
    | wrong semantic => exact .inr semantic
    | unsupported unsupported => exact .inl unsupported
    | clash => exact absurd (clashes_iff.mp h) (proper.smooth e parsed)
    | long lacks => exact absurd (proper.writable e parsed) lacks

theorem boolTerm_eq_error {err : Error} (h : context.boolTerm text = .error err) :
    context.term text = .error err ∨ err = .notBoolean := by
  rcases bind_eq_error.mp h with term_error | ⟨⟨_ | k, x⟩, -, h⟩
  · exact .inl term_error
  · cases h
  · cases h
    exact .inr rfl

theorem Proper.boolDoubt {err : Error} (proper : context.Proper text) (h : context.boolTerm text = .error err) :
    err.IsDoubt := by
  rcases boolTerm_eq_error h with term_error | rfl
  · exact proper.doubt term_error
  · exact .inr rfl

theorem Proper.illTyped {e : Expr} (proper : context.Proper text) (parsed : parse text = some e)
    (supported : e.Supported) (untyped : ∀ ty, ¬ context.Sorts e ty) :
    ∃ err, context.term text = .error err ∧ err.severity = .semantic := by
  cases h : context.term text with
  | ok t =>
    obtain ⟨f, reads, sorts⟩ := (context.term_iff_sorts text t.ty).mp ⟨t.term, h⟩
    have same : f = e := Option.some_inj.mp (reads.parsed.symm.trans parsed)
    subst same
    exact absurd sorts (untyped t.ty)
  | error err =>
    refine ⟨err, rfl, ?_⟩
    rcases term_eq_error proper.plain h with ⟨-, rfl⟩ | ⟨f, parsed', ⟨deep, rfl⟩ | ⟨-, h⟩⟩
    · rfl
    · exact absurd (proper.shallow f parsed') (Nat.not_le_of_lt deep)
    · have same : f = e := Option.some_inj.mp (parsed'.symm.trans parsed)
      subst same
      cases f.blamed_toTerm _ _ err h with
      | wrong semantic => exact semantic
      | unsupported _ lacks => exact absurd supported lacks
      | clash => exact absurd (clashes_iff.mp h) (proper.smooth f parsed)
      | long lacks => exact absurd (proper.writable f parsed) lacks

theorem Proper.notTruth {e : Expr} (proper : context.Proper text) (parsed : parse text = some e)
    (supported : e.Supported) (untrue : ¬ context.Sorts e .bool) :
    ∃ err, context.boolTerm text = .error err ∧ err.severity = .semantic := by
  cases h : context.term text with
  | error err =>
    have unsorted (ty : Ty) : ¬ context.Sorts e ty := by
      intro sorts
      have reads : Reads text e := ⟨proper.plain, parsed, proper.shallow e parsed, proper.writable e parsed⟩
      obtain ⟨x, made⟩ := (context.term_iff_sorts text ty).mpr ⟨e, reads, sorts⟩
      rw [h] at made
      cases made
    obtain ⟨err', failed, semantic⟩ := proper.illTyped parsed supported unsorted
    exact ⟨err', bind_eq_error.mpr (.inl failed), semantic⟩
  | ok t =>
    obtain ⟨_ | k, x⟩ := t
    · obtain ⟨f, reads, sorts⟩ := (context.term_iff_sorts text .bool).mp ⟨x, h⟩
      cases reads.parsed.symm.trans parsed
      exact absurd sorts untrue
    · exact ⟨.notBoolean, bind_eq_error.mpr (.inr ⟨_, h, rfl⟩), rfl⟩

/-- A clause without a term is wrong or unsupported, and wrong if all its constructs are supported. -/
structure Contained (context : Context) (text : String) : Prop where
  term : ∀ err, context.term text = .error err → err.IsDoubt
  truth : ∀ err, context.boolTerm text = .error err → err.IsDoubt
  illTyped : ∀ e, parse text = some e → e.Supported → (∀ ty, ¬ context.Sorts e ty) →
    ∃ err, context.term text = .error err ∧ err.severity = .semantic
  notTruth : ∀ e, parse text = some e → e.Supported → ¬ context.Sorts e .bool →
    ∃ err, context.boolTerm text = .error err ∧ err.severity = .semantic

theorem Proper.contained (proper : context.Proper text) : context.Contained text where
  term _ := proper.doubt
  truth _ := proper.boolDoubt
  illTyped _ := proper.illTyped
  notTruth _ := proper.notTruth

end Context

end Covenant.Clause
