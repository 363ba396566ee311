import Covenant.Proofs.Clause.Scope
import Covenant.Proofs.Clause.Terms

namespace Covenant.Clause

def Scope.Extends (small large : Scope) : Prop := ∀ name b, small.find? name = some b → large.find? name = some b

/-- Both scopes of a context are extended; a context does not gain or lose an old scope. -/
inductive Context.Extends : Context → Context → Prop
  | current {small large : Scope} (h : small.Extends large) : Extends ⟨small, none⟩ ⟨large, none⟩
  | both {small large old old' : Scope} (h : small.Extends large) (before : old.Extends old') :
      Extends ⟨small, some old⟩ ⟨large, some old'⟩

namespace Scope.Extends

variable {small large : Scope}

theorem value (h : small.Extends large) {name : String} {t : SomeTerm} (found : small.value name = .ok t) :
    large.value name = .ok t := by
  unfold Scope.value at found ⊢
  cases bound : small.find? name with
  | none =>
    rw [bound] at found
    cases found
  | some b =>
    rw [bound] at found
    rw [h name b bound]
    exact found

theorem field (h : small.Extends large) {owner name : String} {t : SomeTerm} (found : small.field owner name = .ok t) :
    large.field owner name = .ok t := by
  unfold Scope.field at found ⊢
  cases bound : small.find? owner with
  | none =>
    rw [bound] at found
    cases found
  | some b =>
    rw [bound] at found
    rw [h owner b bound]
    exact found

theorem bind (h : small.Extends large) (name : String) (b : Binding) :
    (small.bind name b).Extends (large.bind name b) := by
  intro x c found
  rw [find?_bind] at found ⊢
  split
  · rename_i same
    rwa [if_pos same] at found
  · rename_i differs
    rw [if_neg differs] at found
    exact h x c found

end Scope.Extends

variable {small large : Scope} {old old' : Option Scope}

theorem Context.Extends.scope (h : Context.Extends ⟨small, old⟩ ⟨large, old'⟩) : small.Extends large := by
  cases h <;> assumption

theorem Context.Extends.below {before : Scope} (h : Context.Extends ⟨small, old⟩ ⟨large, old'⟩)
    (present : old = some before) :
    ∃ before', old' = some before' ∧ Context.Extends ⟨before, old⟩ ⟨before', old'⟩ := by
  cases h with
  | current => cases present
  | both _ older =>
    cases present
    exact ⟨_, rfl, .both older older⟩

mutual
theorem Expr.toTerm_extends {e : Expr} {t : SomeTerm} {small large : Scope} (h : e.toTerm old small = .ok t)
    (larger : Context.Extends ⟨small, old⟩ ⟨large, old'⟩) : e.toTerm old' large = .ok t := by
  match e with
  | .constant c => exact h
  | .name id => exact larger.scope.value h
  | .field owner name =>
    obtain ⟨ownerName, rfl, found⟩ := Expr.toTerm_field h
    exact larger.scope.field found
  | .unary op operand =>
    obtain ⟨a, operand_ok, applied⟩ := bind_eq_ok.mp h
    exact bind_eq_ok.mpr ⟨a, Expr.toTerm_extends operand_ok larger, applied⟩
  | .binary op left right =>
    obtain ⟨a, left_ok, h⟩ := bind_eq_ok.mp h
    obtain ⟨b, right_ok, applied⟩ := bind_eq_ok.mp h
    refine bind_eq_ok.mpr ⟨a, Expr.toTerm_extends left_ok larger, ?_⟩
    exact bind_eq_ok.mpr ⟨b, Expr.toTerm_extends right_ok larger, applied⟩
  | .bool op operands =>
    obtain ⟨parts, operands_ok, applied⟩ := bind_eq_ok.mp h
    exact bind_eq_ok.mpr ⟨parts, toTerms_extends operands_ok larger, applied⟩
  | .compare first rest =>
    obtain ⟨a, first_ok, h⟩ := bind_eq_ok.mp h
    obtain ⟨parts, rest_ok, joined⟩ := bind_eq_ok.mp h
    refine bind_eq_ok.mpr ⟨a, Expr.toTerm_extends first_ok larger, ?_⟩
    exact bind_eq_ok.mpr ⟨parts, toComparisons_extends rest_ok larger, joined⟩
  | .ifElse test body other =>
    obtain ⟨c, test_ok, h⟩ := bind_eq_ok.mp h
    obtain ⟨a, body_ok, h⟩ := bind_eq_ok.mp h
    obtain ⟨b, other_ok, joined⟩ := bind_eq_ok.mp h
    refine bind_eq_ok.mpr ⟨c, Expr.toTerm_extends test_ok larger, ?_⟩
    refine bind_eq_ok.mpr ⟨a, Expr.toTerm_extends body_ok larger, ?_⟩
    exact bind_eq_ok.mpr ⟨b, Expr.toTerm_extends other_ok larger, joined⟩
  | .call callee args keywords =>
    obtain ⟨rfl, ⟨before, arg, rfl, present, rfl, arg_ok⟩ | ⟨function, ts, rfl, notOld, args_ok, applied⟩⟩ :=
      Expr.toTerm_call h
    · obtain ⟨before', present', below⟩ := larger.below present
      have below_ok := Expr.toTerm_extends arg_ok below
      simpa [Expr.toTerm, present'] using below_ok
    · rw [Expr.toTerm.eq_def]
      simp only [notOld, if_false]
      exact bind_eq_ok.mpr ⟨ts, toTerms_extends args_ok larger, applied⟩
  | .other kind parts => simp [Expr.toTerm] at h
termination_by sizeOf e
theorem toTerms_extends {es : List Expr} {ts : List SomeTerm} {small large : Scope} (h : toTerms old small es = .ok ts)
    (larger : Context.Extends ⟨small, old⟩ ⟨large, old'⟩) : toTerms old' large es = .ok ts := by
  match es with
  | [] => exact h
  | e :: rest =>
    obtain ⟨t, head_ok, h⟩ := bind_eq_ok.mp h
    obtain ⟨us, rest_ok, made⟩ := bind_eq_ok.mp h
    refine bind_eq_ok.mpr ⟨t, Expr.toTerm_extends head_ok larger, ?_⟩
    exact bind_eq_ok.mpr ⟨us, toTerms_extends rest_ok larger, made⟩
termination_by sizeOf es
theorem toComparisons_extends {a : SomeTerm} {rest : List (CompareOp × Expr)} {parts : List SomeTerm}
    {small large : Scope} (h : toComparisons old small a rest = .ok parts)
    (larger : Context.Extends ⟨small, old⟩ ⟨large, old'⟩) : toComparisons old' large a rest = .ok parts := by
  match rest with
  | [] => exact h
  | (op, e) :: rest =>
    obtain ⟨b, operand_ok, h⟩ := bind_eq_ok.mp h
    obtain ⟨part, compared, h⟩ := bind_eq_ok.mp h
    obtain ⟨others, rest_ok, made⟩ := bind_eq_ok.mp h
    refine bind_eq_ok.mpr ⟨b, Expr.toTerm_extends operand_ok larger, ?_⟩
    refine bind_eq_ok.mpr ⟨part, compared, ?_⟩
    exact bind_eq_ok.mpr ⟨others, toComparisons_extends rest_ok larger, made⟩
termination_by sizeOf rest
end

/-! ## Texts -/

namespace Context.Extends

variable {small large : Context}

theorem term (h : small.Extends large) {text : String} {t : SomeTerm} (found : small.term text = .ok t) :
    large.term text = .ok t := by
  unfold Context.term at found ⊢
  split at found
  · cases found
  · rename_i plain
    rw [if_neg plain]
    cases parsed : parse text with
    | none =>
      rw [parsed] at found
      cases found
    | some e =>
      simp only [parsed] at found ⊢
      split at found
      · cases found
      · rename_i shallow
        rw [if_neg shallow]
        exact Expr.toTerm_extends found h

theorem boolTerm (h : small.Extends large) {text : String} {x : Term .bool} (found : small.boolTerm text = .ok x) :
    large.boolTerm text = .ok x := by
  obtain ⟨t, term_ok, made⟩ := bind_eq_ok.mp found
  exact bind_eq_ok.mpr ⟨t, h.term term_ok, made⟩

end Context.Extends

end Covenant.Clause
