import Covenant.Clause.Parse

namespace Covenant.Clause

mutual
def Expr.Formed : Expr → Prop
  | .constant _ => True
  | .name _ => True
  | .field _ _ => True
  | .unary _ operand => operand.Formed
  | .binary _ left right => left.Formed ∧ right.Formed
  | .bool _ operands => 2 ≤ operands.length ∧ AllFormed operands
  | .compare first rest => rest ≠ [] ∧ first.Formed ∧ ChainFormed rest
  | .ifElse test body other => test.Formed ∧ body.Formed ∧ other.Formed
  | .call _ args _ => AllFormed args
  | .other _ _ => True
def AllFormed : List Expr → Prop
  | [] => True
  | e :: rest => e.Formed ∧ AllFormed rest
def ChainFormed : List (CompareOp × Expr) → Prop
  | [] => True
  | (_, e) :: rest => e.Formed ∧ ChainFormed rest
end

namespace Reader

variable {α β : Type} {P : α → Prop} {Q : β → Prop}

def Yields (r : Reader α) (P : α → Prop) : Prop := ∀ ts a rest, r.run ts = some (a, rest) → P a

theorem Yields.of_pure {a : α} (h : P a) : (pure a : Reader α).Yields P := by
  rintro ts b rest ⟨⟩
  exact h

theorem Yields.of_failure : (failure : Reader α).Yields P := nofun

theorem Yields.bind {x : Reader α} {f : α → Reader β} (hx : x.Yields P) (hf : ∀ a, P a → (f a).Yields Q) :
    (x >>= f).Yields Q := by
  intro ts b rest ran
  rw [StateT.run_bind] at ran
  obtain ⟨⟨a, middle⟩, read, ran⟩ := Option.bind_eq_some_iff.mp ran
  exact hf a (hx ts a middle read) middle b rest ran

theorem Yields.after {x : Reader α} {f : α → Reader β} (hf : ∀ a, (f a).Yields Q) : (x >>= f).Yields Q :=
  Yields.bind (P := fun _ => True) (fun _ _ _ _ => trivial) fun a _ => hf a

theorem Yields.of_failure_bind {f : α → Reader β} : (failure >>= f).Yields Q :=
  Yields.bind (P := fun _ => False) .of_failure nofun

end Reader

open Reader

structure ReadsFormed (fuel : Nat) : Prop where
  expression : (expression fuel).Yields Expr.Formed
  disjunction : (disjunction fuel).Yields Expr.Formed
  conjunction : (conjunction fuel).Yields Expr.Formed
  moreOperands : ∀ connective, (moreOperands fuel connective).Yields AllFormed
  inversion : (inversion fuel).Yields Expr.Formed
  comparisons : (comparisons fuel).Yields ChainFormed
  binary : ∀ level, (binary fuel level).Yields Expr.Formed
  binaryRest : ∀ level left, left.Formed → (binaryRest fuel level left).Yields Expr.Formed
  factor : (factor fuel).Yields Expr.Formed
  primary : (primary fuel).Yields Expr.Formed
  primaryRest : ∀ start, start.Formed → (primaryRest fuel start).Yields Expr.Formed
  arguments : ∀ first phase, (arguments fuel first phase).Yields fun r => AllFormed r.1
  argumentEnd : ∀ phase, (argumentEnd fuel phase).Yields fun r => AllFormed r.1
  namedExpression : (namedExpression fuel).Yields Expr.Formed
  atom : (atom fuel).Yields Expr.Formed
  group : (group fuel).Yields Expr.Formed
  display : (display fuel).Yields Expr.Formed
  braces : (braces fuel).Yields Expr.Formed
  element : (element fuel).Yields Expr.Formed

theorem ReadsFormed.zero : ReadsFormed 0 := by
  constructor <;> intros <;> exact Yields.of_failure

namespace ReadsFormed

variable {fuel : Nat}

theorem expression_succ (h : ReadsFormed fuel) : (Clause.expression (fuel + 1)).Yields Expr.Formed := by
  rw [Clause.expression]
  refine .after fun lambda => ?_
  split
  · exact .after fun _ => .after fun _ => .of_pure trivial
  · refine .bind h.disjunction fun body body_formed => .after fun condition => ?_
    split
    · refine .bind h.disjunction fun test test_formed => .after fun _ => ?_
      exact .bind h.expression fun other other_formed => .of_pure ⟨test_formed, body_formed, other_formed⟩
    · exact .of_pure body_formed

theorem disjunction_succ (h : ReadsFormed fuel) : (Clause.disjunction (fuel + 1)).Yields Expr.Formed := by
  rw [Clause.disjunction]
  refine .bind h.conjunction fun first first_formed => .bind (h.moreOperands "or") fun rest rest_formed => ?_
  cases rest with
  | nil => exact .of_pure first_formed
  | cons e es => exact .of_pure ⟨Nat.le_add_left 2 es.length, first_formed, rest_formed⟩

theorem conjunction_succ (h : ReadsFormed fuel) : (Clause.conjunction (fuel + 1)).Yields Expr.Formed := by
  rw [Clause.conjunction]
  refine .bind h.inversion fun first first_formed => .bind (h.moreOperands "and") fun rest rest_formed => ?_
  cases rest with
  | nil => exact .of_pure first_formed
  | cons e es => exact .of_pure ⟨Nat.le_add_left 2 es.length, first_formed, rest_formed⟩

theorem moreOperands_succ (h : ReadsFormed fuel) (connective : String) :
    (Clause.moreOperands (fuel + 1) connective).Yields AllFormed := by
  rw [Clause.moreOperands]
  refine .after fun found => ?_
  split
  · split
    · refine .bind h.conjunction fun e formed => .bind (h.moreOperands connective) fun es rest_formed => ?_
      exact .of_pure ⟨formed, rest_formed⟩
    · refine .bind h.inversion fun e formed => .bind (h.moreOperands connective) fun es rest_formed => ?_
      exact .of_pure ⟨formed, rest_formed⟩
  · exact .of_pure trivial

theorem inversion_succ (h : ReadsFormed fuel) : (Clause.inversion (fuel + 1)).Yields Expr.Formed := by
  rw [Clause.inversion]
  refine .after fun negated => ?_
  split
  · exact .bind h.inversion fun e formed => .of_pure formed
  · refine .bind (h.binary 0) fun first first_formed => .bind h.comparisons fun rest rest_formed => ?_
    cases rest with
    | nil => exact .of_pure first_formed
    | cons part parts => exact .of_pure ⟨nofun, first_formed, rest_formed⟩

theorem comparisons_succ (h : ReadsFormed fuel) : (Clause.comparisons (fuel + 1)).Yields ChainFormed := by
  rw [Clause.comparisons]
  refine .after fun found => ?_
  cases found with
  | none => exact .of_pure trivial
  | some op =>
    refine .bind (h.binary 0) fun e formed => .bind h.comparisons fun rest rest_formed => ?_
    exact .of_pure ⟨formed, rest_formed⟩

theorem binaryRest_succ (h : ReadsFormed fuel) (level : Nat) (left : Expr) (left_formed : left.Formed) :
    (Clause.binaryRest (fuel + 1) level left).Yields Expr.Formed := by
  rw [Clause.binaryRest]
  refine .after fun found => ?_
  split
  · split
    · exact .of_pure left_formed
    · refine .after fun _ => .bind (h.binary _) fun right right_formed => ?_
      exact h.binaryRest _ _ ⟨left_formed, right_formed⟩
  · exact .of_pure left_formed

theorem factor_succ (h : ReadsFormed fuel) : (Clause.factor (fuel + 1)).Yields Expr.Formed := by
  have powered (base : Expr) (formed : base.Formed) : (do
      if ← symbol? "**" then return .binary .pow base (← Clause.factor fuel)
      return base : Reader Expr).Yields Expr.Formed := by
    refine .after fun found => ?_
    split
    · exact .bind h.factor fun e e_formed => .of_pure ⟨formed, e_formed⟩
    · exact .of_pure formed
  rw [Clause.factor]
  refine .after fun found => ?_
  split
  · exact .after fun _ => .bind h.factor fun e formed => .of_pure formed
  · refine .after fun awaited => ?_
    split
    · exact .after fun _ => powered _ trivial
    · exact .bind h.primary powered

theorem primaryRest_succ (h : ReadsFormed fuel) (start : Expr) (formed : start.Formed) :
    (Clause.primaryRest (fuel + 1) start).Yields Expr.Formed := by
  rw [Clause.primaryRest]
  refine .after fun dot => ?_
  split
  · exact .after fun name => h.primaryRest _ trivial
  · refine .after fun bracket => ?_
    split
    · exact .after fun _ => h.primaryRest _ trivial
    · refine .after fun call => ?_
      split
      · exact .bind (h.arguments true .positional) fun args args_formed => h.primaryRest _ args_formed
      · exact .of_pure formed

theorem arguments_succ (h : ReadsFormed fuel) (first : Bool) (phase : ArgumentPhase) :
    (Clause.arguments (fuel + 1) first phase).Yields fun r => AllFormed r.1 := by
  rw [Clause.arguments]
  refine .after fun closed => ?_
  split
  · exact .of_pure trivial
  refine .after fun keyword => ?_
  split
  · refine .after fun _ => .after fun _ => .after fun _ => ?_
    exact .bind (h.argumentEnd _) fun args formed => .of_pure formed
  refine .after fun mapping => ?_
  split
  · exact .after fun _ => .bind (h.argumentEnd _) fun args formed => .of_pure formed
  refine .after fun starred => ?_
  split
  · split
    · exact .of_failure_bind
    · exact .after fun _ => .bind (h.argumentEnd _) fun args formed => .of_pure ⟨trivial, formed⟩
  · split
    · exact .of_failure_bind
    · refine .bind h.namedExpression fun e formed => .after fun loop => ?_
      split
      · exact .after fun _ => .after fun _ => .of_pure ⟨trivial, trivial⟩
      · exact .bind (h.argumentEnd _) fun args args_formed => .of_pure ⟨formed, args_formed⟩

theorem argumentEnd_succ (h : ReadsFormed fuel) (phase : ArgumentPhase) :
    (Clause.argumentEnd (fuel + 1) phase).Yields fun r => AllFormed r.1 := by
  rw [Clause.argumentEnd]
  refine .after fun comma => ?_
  split
  · exact h.arguments false phase
  · exact .after fun _ => .of_pure trivial

theorem namedExpression_succ (h : ReadsFormed fuel) : (Clause.namedExpression (fuel + 1)).Yields Expr.Formed := by
  rw [Clause.namedExpression]
  refine .after fun named => ?_
  split
  · exact .after fun _ => .after fun _ => .after fun _ => .of_pure trivial
  · exact h.expression

theorem atom_succ (h : ReadsFormed fuel) : (Clause.atom (fuel + 1)).Yields Expr.Formed := by
  rw [Clause.atom]
  refine .after fun found => ?_
  split
  case h_7 => exact .after fun _ => h.group
  case h_8 => exact .after fun _ => h.display
  case h_9 => exact .after fun _ => h.braces
  case h_10 =>
    refine .after fun tokens => ?_
    dsimp only
    split
    · exact .of_failure
    · exact .after fun _ => .of_pure trivial
    · exact .after fun _ => .after fun _ => .of_pure trivial
  all_goals exact .after fun _ => .of_pure trivial

theorem group_succ (h : ReadsFormed fuel) : (Clause.group (fuel + 1)).Yields Expr.Formed := by
  rw [Clause.group]
  refine .after fun closed => ?_
  split
  · exact .of_pure trivial
  refine .after fun yielding => ?_
  split
  · refine .after fun delegating => ?_
    split
    · exact .after fun _ => .after fun _ => .of_pure trivial
    · refine .after fun bare => ?_
      split
      · exact .after fun _ => .after fun _ => .of_pure trivial
      · exact .after fun _ => .of_pure trivial
  refine .after fun starred => .bind h.element fun e formed => .after fun comma => ?_
  split
  · exact .after fun _ => .of_pure trivial
  · split
    · exact .of_failure_bind
    · refine .after fun loop => ?_
      split
      · exact .after fun _ => .after fun _ => .of_pure trivial
      · exact .after fun _ => .of_pure formed

theorem element_succ (h : ReadsFormed fuel) : (Clause.element (fuel + 1)).Yields Expr.Formed := by
  rw [Clause.element]
  refine .after fun starred => ?_
  split
  · exact .after fun _ => .of_pure trivial
  · exact h.namedExpression

theorem display_succ (fuel : Nat) : (Clause.display (fuel + 1)).Yields Expr.Formed := by
  rw [Clause.display]
  refine .after fun closed => ?_
  split
  · exact .of_pure trivial
  refine .after fun starred => .after fun first => .after fun loop => ?_
  split
  · exact .after fun _ => .after fun _ => .of_pure trivial
  · exact .after fun _ => .of_pure trivial

theorem braces_succ (fuel : Nat) : (Clause.braces (fuel + 1)).Yields Expr.Formed := by
  rw [Clause.braces]
  refine .after fun closed => ?_
  split
  · exact .of_pure trivial
  refine .after fun unpacked => ?_
  split
  · exact .after fun _ => .of_pure trivial
  refine .after fun _ => .after fun _ => .after fun starred => .after fun _ => .after fun colon => ?_
  split
  · refine .after fun _ => .after fun _ => .after fun loop => ?_
    split
    · exact .after fun _ => .after fun _ => .of_pure trivial
    · exact .after fun _ => .of_pure trivial
  · refine .after fun loop => ?_
    split
    · exact .after fun _ => .after fun _ => .of_pure trivial
    · exact .after fun _ => .of_pure trivial

theorem succ (h : ReadsFormed fuel) : ReadsFormed (fuel + 1) where
  expression := h.expression_succ
  disjunction := h.disjunction_succ
  conjunction := h.conjunction_succ
  moreOperands := h.moreOperands_succ
  inversion := h.inversion_succ
  comparisons := h.comparisons_succ
  binary level := .bind h.factor (h.binaryRest level)
  binaryRest := h.binaryRest_succ
  factor := h.factor_succ
  primary := .bind h.atom h.primaryRest
  primaryRest := h.primaryRest_succ
  arguments := h.arguments_succ
  argumentEnd := h.argumentEnd_succ
  namedExpression := h.namedExpression_succ
  atom := h.atom_succ
  group := h.group_succ
  display := display_succ fuel
  braces := braces_succ fuel
  element := h.element_succ

theorem all (fuel : Nat) : ReadsFormed fuel := by
  induction fuel with
  | zero => exact .zero
  | succ fuel ih => exact ih.succ

end ReadsFormed

theorem clauseExpressions_formed (fuel n : Nat) : (clauseExpressions fuel n).Yields fun r => AllFormed r.1 := by
  induction n with
  | zero => exact .of_failure
  | succ n ih =>
    rw [clauseExpressions]
    refine .bind (ReadsFormed.all fuel).expression fun first first_formed => .after fun comma => ?_
    split
    · refine .after fun next => ?_
      split
      · exact .of_pure ⟨first_formed, trivial⟩
      · exact .of_pure ⟨first_formed, trivial⟩
      · exact .bind ih fun rest rest_formed => .of_pure ⟨first_formed, rest_formed⟩
    · exact .of_pure ⟨first_formed, trivial⟩

theorem parse_formed {text : String} {e : Expr} (h : parse text = some e) : e.Formed := by
  unfold parse at h
  obtain ⟨all, -, h⟩ := Option.bind_eq_some_iff.mp h
  obtain ⟨⟨⟨es, many⟩, rest⟩, read, h⟩ := Option.bind_eq_some_iff.mp h
  have formed : AllFormed es := clauseExpressions_formed _ _ _ _ _ read
  dsimp only at h
  split at h
  · cases h
  · split at h
    · cases h
      exact formed.1
    · cases h
      trivial

end Covenant.Clause
