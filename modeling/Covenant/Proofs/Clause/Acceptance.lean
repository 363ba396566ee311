import Covenant.Proofs.Clause.Formed
import Covenant.Proofs.Clause.Sorts
import Covenant.Proofs.Term.Ranks

/-!
# Which clauses are accepted

A clause is accepted exactly if the typing rules give it a sort, its whole numbers can be written out and it is not
nested too deeply. Over well sorted scopes its term is well sorted.
-/

namespace Covenant.Clause

def Binding.WellSorted : Binding → Prop
  | .value t => t.term.WellSorted
  | .owner fields => ∀ f ∈ fields, f.2.term.WellSorted

def Scope.WellSorted (scope : Scope) : Prop := ∀ b ∈ scope, b.2.WellSorted

section

variable {scope : Scope} {t : SomeTerm}

theorem Scope.WellSorted.value (sorted : scope.WellSorted) {name : String} (h : scope.value name = .ok t) :
    t.term.WellSorted := by
  unfold Scope.value at h
  split at h
  · rename_i u found
    cases h
    exact sorted _ (mem_of_lookup found)
  · cases h
  · cases h

theorem Scope.WellSorted.field (sorted : scope.WellSorted) {owner name : String}
    (h : scope.field owner name = .ok t) : t.term.WellSorted := by
  unfold Scope.field at h
  split at h
  · rename_i fields found
    have fields_sorted := sorted _ (mem_of_lookup found)
    split at h
    · rename_i u member
      cases h
      exact fields_sorted _ (mem_of_lookup member)
    · cases h
  · cases h

theorem Constant.wellSorted_toTerm {c : Constant} (h : c.toTerm = .ok t) : t.term.WellSorted := by
  cases c with
  | bool b =>
    cases h
    exact .truth b
  | int n =>
    simp only [Constant.toTerm] at h
    split at h
    · cases h
    · cases h
      exact .int n
  | float x =>
    simp only [Constant.toTerm] at h
    split at h
    · cases h
      exact .real _
    · cases h
  | _ => cases h

end

mutual
theorem Expr.wellSorted_toTerm (old : Option Scope) (old_sorted : ∀ before ∈ old, before.WellSorted) (scope : Scope)
    (sorted : scope.WellSorted) (e : Expr) (formed : e.Formed) (t : SomeTerm) (h : e.toTerm old scope = .ok t) :
    t.term.WellSorted := by
  match e with
  | .constant c => exact Constant.wellSorted_toTerm h
  | .name id => exact sorted.value h
  | .field owner name =>
    obtain ⟨ownerName, rfl, h⟩ := Expr.toTerm_field h
    exact sorted.field h
  | .unary op operand =>
    obtain ⟨a, operand_ok, h⟩ := bind_eq_ok.mp h
    exact UnaryOp.wellSorted_apply h
      (Expr.wellSorted_toTerm old old_sorted scope sorted operand formed a operand_ok)
  | .binary op left right =>
    obtain ⟨a, left_ok, h⟩ := bind_eq_ok.mp h
    obtain ⟨b, right_ok, h⟩ := bind_eq_ok.mp h
    exact BinaryOp.wellSorted_apply h
      (Expr.wellSorted_toTerm old old_sorted scope sorted left formed.1 a left_ok)
      (Expr.wellSorted_toTerm old old_sorted scope sorted right formed.2 b right_ok)
  | .bool op operands =>
    obtain ⟨parts, operands_ok, h⟩ := bind_eq_ok.mp h
    obtain ⟨length, parts_sorted⟩ :=
      wellSorted_toTerms old old_sorted scope sorted operands formed.2 parts operands_ok
    exact BoolOp.wellSorted_apply h (length ▸ formed.1) parts_sorted
  | .compare first rest =>
    obtain ⟨a, first_ok, h⟩ := bind_eq_ok.mp h
    obtain ⟨parts, rest_ok, h⟩ := bind_eq_ok.mp h
    have first_sorted := Expr.wellSorted_toTerm old old_sorted scope sorted first formed.2.1 a first_ok
    obtain ⟨length, parts_sorted⟩ :=
      wellSorted_toComparisons old old_sorted scope sorted a first_sorted rest formed.2.2 parts rest_ok
    refine wellSorted_joinComparisons h ?_ parts_sorted
    rw [← List.length_pos_iff, length, List.length_pos_iff]
    exact formed.1
  | .ifElse test body other =>
    obtain ⟨c, test_ok, h⟩ := bind_eq_ok.mp h
    obtain ⟨a, body_ok, h⟩ := bind_eq_ok.mp h
    obtain ⟨b, other_ok, h⟩ := bind_eq_ok.mp h
    exact SomeTerm.wellSorted_ite (ofOperands_eq_ok h)
      (Expr.wellSorted_toTerm old old_sorted scope sorted test formed.1 c test_ok)
      (Expr.wellSorted_toTerm old old_sorted scope sorted body formed.2.1 a body_ok)
      (Expr.wellSorted_toTerm old old_sorted scope sorted other formed.2.2 b other_ok)
  | .call callee args keywords =>
    obtain ⟨rfl, ⟨before, arg, rfl, rfl, rfl, h⟩ | ⟨function, ts, rfl, notOld, args_ok, h⟩⟩ := Expr.toTerm_call h
    · exact Expr.wellSorted_toTerm _ old_sorted before (old_sorted before rfl) arg formed.1 t h
    · obtain ⟨-, ts_sorted⟩ := wellSorted_toTerms old old_sorted scope sorted args formed ts args_ok
      exact wellSorted_applyHelper h ts_sorted
  | .other kind parts => simp [Expr.toTerm] at h
termination_by sizeOf e
theorem wellSorted_toTerms (old : Option Scope) (old_sorted : ∀ before ∈ old, before.WellSorted) (scope : Scope)
    (sorted : scope.WellSorted) (es : List Expr) (formed : AllFormed es) (ts : List SomeTerm)
    (h : toTerms old scope es = .ok ts) : ts.length = es.length ∧ ∀ t ∈ ts, t.term.WellSorted := by
  match es with
  | [] =>
    cases h
    exact ⟨rfl, nofun⟩
  | e :: rest =>
    obtain ⟨t, head_ok, h⟩ := bind_eq_ok.mp h
    obtain ⟨us, rest_ok, made⟩ := bind_eq_ok.mp h
    cases made
    have head_sorted := Expr.wellSorted_toTerm old old_sorted scope sorted e formed.1 t head_ok
    obtain ⟨length, rest_sorted⟩ := wellSorted_toTerms old old_sorted scope sorted rest formed.2 us rest_ok
    exact ⟨congrArg Nat.succ length, List.forall_mem_cons.mpr ⟨head_sorted, rest_sorted⟩⟩
termination_by sizeOf es
theorem wellSorted_toComparisons (old : Option Scope) (old_sorted : ∀ before ∈ old, before.WellSorted) (scope : Scope)
    (sorted : scope.WellSorted) (a : SomeTerm) (ha : a.term.WellSorted) (rest : List (CompareOp × Expr))
    (formed : ChainFormed rest) (parts : List SomeTerm) (h : toComparisons old scope a rest = .ok parts) :
    parts.length = rest.length ∧ ∀ t ∈ parts, t.term.WellSorted := by
  match rest with
  | [] =>
    cases h
    exact ⟨rfl, nofun⟩
  | (op, e) :: rest =>
    obtain ⟨b, operand_ok, h⟩ := bind_eq_ok.mp h
    obtain ⟨part, part_ok, h⟩ := bind_eq_ok.mp h
    obtain ⟨others, rest_ok, made⟩ := bind_eq_ok.mp h
    cases made
    have hb := Expr.wellSorted_toTerm old old_sorted scope sorted e formed.1 b operand_ok
    obtain ⟨length, others_sorted⟩ :=
      wellSorted_toComparisons old old_sorted scope sorted b hb rest formed.2 others rest_ok
    refine ⟨congrArg Nat.succ length, List.forall_mem_cons.mpr ⟨?_, others_sorted⟩⟩
    exact CompareOp.wellSorted_apply part_ok ha hb
termination_by sizeOf rest
end

/-! ## Clauses as texts -/

/-- The text says the expression, and there is nothing in it that is too long or too deep. -/
structure Reads (text : String) (e : Expr) : Prop where
  plain : '\x00' ∉ text.toList
  parsed : parse text = some e
  shallow : e.depth ≤ depthLimit
  writable : e.Writable

namespace Context

variable {context : Context}

def WellSorted (context : Context) : Prop :=
  context.current.WellSorted ∧ ∀ before ∈ context.old, before.WellSorted

def Sorts (context : Context) (e : Expr) (ty : Ty) : Prop :=
  HasSort (context.old.map Scope.typing) context.current.typing e ty

theorem toTerm_iff_sorts (context : Context) (e : Expr) (ty : Ty) :
    (∃ x : Term ty, e.toTerm context.old context.current = .ok ⟨ty, x⟩) ↔ context.Sorts e ty ∧ e.Writable := by
  constructor
  · rintro ⟨x, h⟩
    exact Expr.sort_of_toTerm _ _ e _ h
  · rintro ⟨sorts, writable⟩
    obtain ⟨⟨_, x⟩, h, rfl⟩ := sorts.toTerm context.old context.current e ty writable
    exact ⟨x, h⟩

theorem term_eq_ok {text : String} {t : SomeTerm} :
    context.term text = .ok t ↔
      '\x00' ∉ text.toList ∧ ∃ e, parse text = some e ∧ e.depth ≤ depthLimit ∧
        e.toTerm context.old context.current = .ok t := by
  unfold Context.term
  by_cases null : '\x00' ∈ text.toList
  · simp [null]
  · cases parsed : parse text with
    | none => simp [null]
    | some e =>
      by_cases deep : depthLimit < e.depth
      · simp [null, deep]
      · simp [null, deep, Nat.le_of_not_lt deep]

theorem term_iff_sorts (context : Context) (text : String) (ty : Ty) :
    (∃ x : Term ty, context.term text = .ok ⟨ty, x⟩) ↔ ∃ e, Reads text e ∧ context.Sorts e ty := by
  constructor
  · rintro ⟨x, h⟩
    obtain ⟨plain, e, parsed, shallow, h⟩ := term_eq_ok.mp h
    obtain ⟨sorts, writable⟩ := (context.toTerm_iff_sorts e ty).mp ⟨x, h⟩
    exact ⟨e, ⟨plain, parsed, shallow, writable⟩, sorts⟩
  · rintro ⟨e, reads, sorts⟩
    obtain ⟨x, h⟩ := (context.toTerm_iff_sorts e ty).mpr ⟨sorts, reads.writable⟩
    exact ⟨x, term_eq_ok.mpr ⟨reads.plain, e, reads.parsed, reads.shallow, h⟩⟩

theorem boolTerm_eq_ok {text : String} {x : Term .bool} :
    context.boolTerm text = .ok x ↔ context.term text = .ok (.bool x) := by
  unfold boolTerm
  cases context.term text with
  | error err => simp [bind, Except.bind]
  | ok t =>
    obtain ⟨_ | k, y⟩ := t
    · simp
    · simp

structure AcceptsSorted (context : Context) : Prop where
  /-- An expression has a term of a sort exactly if the rules give it the sort and its numbers can be written. -/
  expression : ∀ (e : Expr) (ty : Ty), (∃ x : Term ty, e.toTerm context.old context.current = .ok ⟨ty, x⟩) ↔
    context.Sorts e ty ∧ e.Writable
  sorted : ∀ (e : Expr) (t : SomeTerm), e.Formed → e.toTerm context.old context.current = .ok t → t.term.WellSorted
  text : ∀ text ty, (∃ x : Term ty, context.term text = .ok ⟨ty, x⟩) ↔ ∃ e, Reads text e ∧ context.Sorts e ty
  truth : ∀ text, (∃ x, context.boolTerm text = .ok x) ↔ ∃ e, Reads text e ∧ context.Sorts e .bool
  read : ∀ text t, context.term text = .ok t → t.term.WellSorted
  readTruth : ∀ text x, context.boolTerm text = .ok x → context.term text = .ok (.bool x)

theorem clauses_accepted_iff_sorted (context : Context) (sorted : context.WellSorted) : context.AcceptsSorted where
  expression := context.toTerm_iff_sorts
  sorted e t formed h := e.wellSorted_toTerm _ sorted.2 _ sorted.1 formed t h
  text := context.term_iff_sorts
  truth text := by
    simp only [boolTerm_eq_ok]
    exact context.term_iff_sorts text .bool
  read text t h := by
    obtain ⟨-, e, parsed, -, h⟩ := term_eq_ok.mp h
    exact e.wellSorted_toTerm _ sorted.2 _ sorted.1 (parse_formed parsed) t h
  readTruth _ _ := boolTerm_eq_ok.mp

end Context

def balance : Context where
  current := [("share", .value ⟨.real, .var "share" .real⟩), ("this", .owner [("sum", ⟨.int, .int 3⟩)])]
  old := some [("this", .owner [("sum", ⟨.int, .var "this.sum" .int⟩)])]

/-- The clause `implies(share < 1, old(this.sum) % 2 == this.sum)`. -/
def halved : Expr :=
  .call (.name "implies")
    [.compare (.name "share") [(.lt, .constant (.int 1))],
      .compare (.binary .mod (.call (.name "old") [.field (.name "this") "sum"] false) (.constant (.int 2)))
        [(.eq, .field (.name "this") "sum")]] false

theorem halved_accepted : balance.WellSorted ∧
    ∃ x : Term .bool, halved.toTerm balance.old balance.current = .ok (.bool x) ∧ x.WellSorted := by
  have sorted : balance.WellSorted := by
    simp only [Context.WellSorted, Scope.WellSorted, balance, List.forall_mem_cons, List.not_mem_nil,
      false_imp_iff, implies_true, Option.mem_some_iff, forall_eq', Binding.WellSorted, and_true]
    exact ⟨⟨.variable "share" .real, .int 3⟩, .variable "this.sum" .int⟩
  have before : HasSort (balance.old.map Scope.typing) balance.current.typing
      (.call (.name "old") [.field (.name "this") "sum"] false) .int := .old rfl (.field rfl rfl)
  have sorts : balance.Sorts halved .bool :=
    .helper (.cons (.compare (.name rfl) (.cons .whole rfl .nil))
      (.cons (.compare (.binary before .whole rfl) (.cons (.field rfl rfl) rfl .nil)) .nil)) rfl
  have writable : halved.Writable := by
    simp only [halved, Expr.Writable, AllWritable, ChainWritable]
    decide +kernel
  have formed : halved.Formed := by simp [halved, Expr.Formed, AllFormed, ChainFormed]
  have accepts := balance.clauses_accepted_iff_sorted sorted
  obtain ⟨x, made⟩ := (accepts.expression halved .bool).mpr ⟨sorts, writable⟩
  exact ⟨sorted, x, made, accepts.sorted halved _ formed made⟩

/-- A whole number of four thousand hexadecimal digits has a sort and no term. -/
theorem long_number_has_no_term :
    HasSort none (Scope.typing []) (.constant (.int (Nat.pow 16 4000 - 1))) .int ∧
      (Expr.constant (.int (Nat.pow 16 4000 - 1))).toTerm none [] = .error .longNumber := by
  have long : Text.exceedsDigits (Nat.pow 16 4000 - 1 : Nat) = true := by decide +kernel
  refine ⟨.whole, ?_⟩
  rw [Expr.toTerm, Constant.toTerm, if_pos long]

end Covenant.Clause
