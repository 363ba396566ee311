import Covenant.Term.Tree
import Covenant.Proofs.Clause.Terms

namespace Covenant

namespace Tree

/-- The declarations of the operators: the sorts of the arguments and of the result. -/
inductive Rank : String → List Ty → Ty → Prop
  | not : Rank "not" [.bool] .bool
  | implies : Rank "=>" [.bool, .bool] .bool
  | and (n : Nat) : Rank "and" (List.replicate (n + 2) .bool) .bool
  | or (n : Nat) : Rank "or" (List.replicate (n + 2) .bool) .bool
  | eq (ty : Ty) : Rank "=" [ty, ty] .bool
  | distinct (ty : Ty) : Rank "distinct" [ty, ty] .bool
  | ite (ty : Ty) : Rank "if" [.bool, ty, ty] ty
  | neg (k : Numeric) : Rank "-" [.num k] (.num k)
  | sub (k : Numeric) : Rank "-" [.num k, .num k] (.num k)
  | add (k : Numeric) : Rank "+" [.num k, .num k] (.num k)
  | mul (k : Numeric) : Rank "*" [.num k, .num k] (.num k)
  | lt (k : Numeric) : Rank "<" [.num k, .num k] .bool
  | le (k : Numeric) : Rank "<=" [.num k, .num k] .bool
  | div : Rank "div" [.int, .int] .int
  | mod : Rank "mod" [.int, .int] .int
  | quot : Rank "/" [.real, .real] .real
  | toReal : Rank "to_real" [.int] .real

inductive WellSorted : Tree → Ty → Prop
  | numeral (n : Int) : WellSorted (.node [.atom "int", .atom (Value.intText n)]) .int
  | decimal (q : Rat) : WellSorted (.node [.atom "real", .atom (ratText q)]) .real
  | truth (b : Bool) : WellSorted (.node [.atom "bool", .truth b]) .bool
  | variable (name : String) (ty : Ty) : WellSorted (.node [.atom "var", .atom name, .atom ty.name]) ty
  | apply {operator : String} {args : List Tree} {sorts : List Ty} {ty : Ty} (rank : Rank operator sorts ty)
      (sorted : List.Forall₂ WellSorted args sorts) : WellSorted (.op operator args) ty

theorem WellSorted.unary {operator : String} {x : Tree} {a ty : Ty} (rank : Rank operator [a] ty)
    (hx : x.WellSorted a) : (op operator [x]).WellSorted ty :=
  .apply rank (.cons hx .nil)

theorem WellSorted.binary {operator : String} {x y : Tree} {a b ty : Ty} (rank : Rank operator [a, b] ty)
    (hx : x.WellSorted a) (hy : y.WellSorted b) : (op operator [x, y]).WellSorted ty :=
  .apply rank (.cons hx (.cons hy .nil))

end Tree

def Term.WellSorted {ty : Ty} (t : Term ty) : Prop := t.toTree.WellSorted ty

namespace Term.WellSorted

open Covenant.Tree (Rank)
open Covenant.Tree.WellSorted (unary binary)

variable {ty : Ty} {k : Numeric}

theorem int (n : Int) : (Term.int n).WellSorted := .numeral n
theorem real (q : Rat) : (Term.real q).WellSorted := .decimal q

theorem zero (k : Numeric) : (Term.zero k).WellSorted := by
  cases k
  · exact int 0
  · exact real 0

theorem ite {c : Term .bool} {a b : Term ty} (hc : c.WellSorted) (ha : a.WellSorted) (hb : b.WellSorted) :
    (Term.ite c a b).WellSorted :=
  .apply (.ite ty) (.cons hc (.cons ha (.cons hb .nil)))

theorem indicator {b : Term .bool} (h : b.WellSorted) : b.indicator.WellSorted := h.ite (int 1) (int 0)

theorem realIndicator {b : Term .bool} (h : b.WellSorted) : b.realIndicator.WellSorted := h.ite (real 1) (real 0)

theorem toReal {a : Term .int} (h : a.WellSorted) : (Term.toReal a).WellSorted := unary .toReal h

theorem neg {a : Term (.num k)} (h : a.WellSorted) : (Term.neg a).WellSorted := unary (.neg k) h

theorem not {a : Term .bool} (h : a.WellSorted) : (Term.not a).WellSorted := unary .not h

section

variable {a b : Term (.num k)} (ha : a.WellSorted) (hb : b.WellSorted)

include ha hb

theorem add : (Term.add a b).WellSorted := binary (.add k) ha hb
theorem sub : (Term.sub a b).WellSorted := binary (.sub k) ha hb
theorem mul : (Term.mul a b).WellSorted := binary (.mul k) ha hb
theorem lt : (Term.lt a b).WellSorted := binary (.lt k) ha hb
theorem le : (Term.le a b).WellSorted := binary (.le k) ha hb

end

theorem eq {a b : Term ty} (ha : a.WellSorted) (hb : b.WellSorted) : (Term.eq a b).WellSorted := by
  unfold Term.WellSorted
  rw [Term.toTree]
  split
  · exact binary (.eq ty) hb ha
  · exact binary (.eq ty) ha hb

theorem distinct {a b : Term ty} (ha : a.WellSorted) (hb : b.WellSorted) : (Term.distinct a b).WellSorted := by
  unfold Term.WellSorted
  rw [Term.toTree]
  split
  · exact binary (.distinct ty) hb ha
  · exact binary (.distinct ty) ha hb

theorem trees {xs : List (Term .bool)} (h : ∀ x ∈ xs, x.WellSorted) :
    List.Forall₂ Tree.WellSorted (Term.toTrees xs) (List.replicate xs.length .bool) := by
  induction xs with
  | nil => exact .nil
  | cons x rest ih =>
    obtain ⟨head, tail⟩ := List.forall_mem_cons.mp h
    exact .cons head (ih tail)

theorem and {xs : List (Term .bool)} (many : 2 ≤ xs.length) (h : ∀ x ∈ xs, x.WellSorted) :
    (Term.and xs).WellSorted := by
  obtain ⟨n, length⟩ := Nat.exists_eq_add_of_le' many
  exact .apply (.and n) (length ▸ trees h)

theorem or {xs : List (Term .bool)} (many : 2 ≤ xs.length) (h : ∀ x ∈ xs, x.WellSorted) :
    (Term.or xs).WellSorted := by
  obtain ⟨n, length⟩ := Nat.exists_eq_add_of_le' many
  exact .apply (.or n) (length ▸ trees h)

end Term.WellSorted

/-! ## Operands of different sorts -/

namespace SomeTerm

variable {a b c t : SomeTerm}

theorem wellSorted_pair (ha : a.term.WellSorted) (hb : b.term.WellSorted) :
    (a.pair b).left.WellSorted ∧ (a.pair b).right.WellSorted := by
  obtain ⟨_ | _ | _, a⟩ := a <;> obtain ⟨_ | _ | _, b⟩ := b
  · exact ⟨ha, hb⟩
  · exact ⟨.indicator ha, hb⟩
  · exact ⟨.realIndicator ha, hb⟩
  · exact ⟨ha, .indicator hb⟩
  · exact ⟨ha, hb⟩
  · exact ⟨.toReal ha, hb⟩
  · exact ⟨ha, .realIndicator hb⟩
  · exact ⟨ha, .toReal hb⟩
  · exact ⟨ha, hb⟩

theorem wellSorted_numbers {p : NumberPair} (h : a.numbers b = .ok p) (ha : a.term.WellSorted)
    (hb : b.term.WellSorted) : p.left.WellSorted ∧ p.right.WellSorted := by
  have sorted := wellSorted_pair ha hb
  unfold numbers at h
  split at h
  · cases h
  · rename_i paired
    cases h
    rw [paired] at sorted
    exact sorted

theorem wellSorted_of_numbers {f : NumberPair → SomeTerm} (h : (a.numbers b >>= fun p => pure (f p)) = .ok t)
    (ha : a.term.WellSorted) (hb : b.term.WellSorted)
    (sorted : ∀ p : NumberPair, p.left.WellSorted → p.right.WellSorted → (f p).term.WellSorted) :
    t.term.WellSorted := by
  obtain ⟨p, paired, made⟩ := bind_eq_ok.mp h
  obtain ⟨left, right⟩ := wellSorted_numbers paired ha hb
  cases made
  exact sorted p left right

theorem wellSorted_counted (ha : a.term.WellSorted) : a.counted.term.WellSorted := by
  obtain ⟨_ | k, a⟩ := a
  · exact .indicator ha
  · exact ha

theorem wellSorted_truth {x : Term .bool} (h : a.truth = .ok x) (ha : a.term.WellSorted) : x.WellSorted := by
  obtain ⟨_ | k, a⟩ := a <;> cases h
  exact ha

theorem wellSorted_truths {parts : List SomeTerm} {xs : List (Term .bool)} (h : parts.mapM truth = .ok xs)
    (sorted : ∀ t ∈ parts, t.term.WellSorted) : xs.length = parts.length ∧ ∀ x ∈ xs, x.WellSorted := by
  induction parts generalizing xs with
  | nil =>
    cases h
    exact ⟨rfl, nofun⟩
  | cons part rest ih =>
    rw [List.mapM_cons] at h
    obtain ⟨x, head, h⟩ := bind_eq_ok.mp h
    obtain ⟨ys, tail, made⟩ := bind_eq_ok.mp h
    cases made
    obtain ⟨head_sorted, tail_sorted⟩ := List.forall_mem_cons.mp sorted
    obtain ⟨length, ys_sorted⟩ := ih tail tail_sorted
    refine ⟨congrArg Nat.succ length, List.forall_mem_cons.mpr ⟨?_, ys_sorted⟩⟩
    exact wellSorted_truth head head_sorted

theorem wellSorted_widened {x : Term .real} (h : a.widened = .ok x) (ha : a.term.WellSorted) : x.WellSorted := by
  obtain ⟨_ | _ | _, a⟩ := a <;> cases h
  · exact .realIndicator ha
  · exact .toReal ha

theorem wellSorted_add (h : a.add b = .ok t) (ha : a.term.WellSorted) (hb : b.term.WellSorted) :
    t.term.WellSorted := by
  obtain ⟨_ | k, a⟩ := a
  · exact wellSorted_of_numbers h (.indicator ha) (wellSorted_counted hb) fun _ => .add
  · exact wellSorted_of_numbers h ha hb fun _ => .add

theorem wellSorted_mul (h : a.mul b = .ok t) (ha : a.term.WellSorted) (hb : b.term.WellSorted) :
    t.term.WellSorted := by
  obtain ⟨_ | k, a⟩ := a <;> obtain ⟨_ | l, b⟩ := b
  · cases h
    exact .ite ha (.indicator hb) (.int 0)
  · cases h
    exact .ite ha hb (.zero l)
  · cases h
    exact .ite hb ha (.zero k)
  · exact wellSorted_of_numbers h ha hb fun _ => .mul

theorem wellSorted_ite (h : c.ite a b = .ok t) (hc : c.term.WellSorted) (ha : a.term.WellSorted)
    (hb : b.term.WellSorted) : t.term.WellSorted := by
  obtain ⟨x, truth, made⟩ := bind_eq_ok.mp h
  cases made
  obtain ⟨left, right⟩ := wellSorted_pair ha hb
  exact (wellSorted_truth truth hc).ite left right

theorem wellSorted_min (h : a.min b = .ok t) (ha : a.term.WellSorted) (hb : b.term.WellSorted) :
    t.term.WellSorted := by
  obtain ⟨c, compared, chosen⟩ := bind_eq_ok.mp h
  have hc : c.term.WellSorted := wellSorted_of_numbers compared ha hb fun _ => .le
  exact wellSorted_ite chosen hc ha hb

theorem wellSorted_max (h : a.max b = .ok t) (ha : a.term.WellSorted) (hb : b.term.WellSorted) :
    t.term.WellSorted := by
  obtain ⟨c, compared, chosen⟩ := bind_eq_ok.mp h
  have hc : c.term.WellSorted := wellSorted_of_numbers compared ha hb fun _ left right => right.le left
  exact wellSorted_ite chosen hc ha hb

theorem wellSorted_abs (h : a.abs = .ok t) (ha : a.term.WellSorted) : t.term.WellSorted := by
  obtain ⟨_ | k, a⟩ := a <;> cases h
  exact .ite ((Term.WellSorted.zero k).le ha) ha (.neg ha)

theorem wellSorted_implies (h : a.implies b = .ok t) (ha : a.term.WellSorted) (hb : b.term.WellSorted) :
    t.term.WellSorted := by
  obtain ⟨x, left, h⟩ := bind_eq_ok.mp h
  obtain ⟨y, right, made⟩ := bind_eq_ok.mp h
  cases made
  exact .binary .implies (wellSorted_truth left ha) (wellSorted_truth right hb)

end SomeTerm

namespace Clause

variable {a b t : SomeTerm}

theorem UnaryOp.wellSorted_apply {op : UnaryOp} (h : op.apply a = .ok t) (ha : a.term.WellSorted) :
    t.term.WellSorted := by
  cases op with
  | neg =>
    replace h := ofOperands_eq_ok h
    obtain ⟨_ | k, a⟩ := a <;> cases h
    exact .neg ha
  | pos =>
    cases h
    exact ha
  | not =>
    obtain ⟨x, truth, made⟩ := bind_eq_ok.mp (ofOperands_eq_ok h)
    cases made
    exact .not (SomeTerm.wellSorted_truth truth ha)
  | invert => cases h

theorem BinaryOp.wellSorted_apply {op : BinaryOp} (h : op.apply a b = .ok t) (ha : a.term.WellSorted)
    (hb : b.term.WellSorted) : t.term.WellSorted := by
  cases op
  case add => exact SomeTerm.wellSorted_add (ofOperands_eq_ok h) ha hb
  case mul => exact SomeTerm.wellSorted_mul (ofOperands_eq_ok h) ha hb
  case sub => exact SomeTerm.wellSorted_of_numbers (ofOperands_eq_ok h) ha hb fun _ => .sub
  case floorDiv =>
    obtain ⟨⟨k, x, y⟩, paired, made⟩ := bind_eq_ok.mp (ofOperands_eq_ok h)
    obtain ⟨left, right⟩ := SomeTerm.wellSorted_numbers paired ha hb
    cases k with
    | int =>
      cases made
      exact .binary .div left right
    | real =>
      cases made
      exact .binary .quot left right
  case mod =>
    obtain ⟨⟨k, x, y⟩, paired, made⟩ := bind_eq_ok.mp (ofOperands_eq_ok h)
    obtain ⟨left, right⟩ := SomeTerm.wellSorted_numbers paired ha hb
    cases k with
    | int =>
      cases made
      exact .binary .mod left right
    | real => cases made
  case div =>
    obtain ⟨x, left, h⟩ := bind_eq_ok.mp (ofOperands_eq_ok h)
    obtain ⟨y, right, made⟩ := bind_eq_ok.mp h
    cases made
    exact .binary .quot (SomeTerm.wellSorted_widened left ha) (SomeTerm.wellSorted_widened right hb)
  all_goals cases h

theorem CompareOp.wellSorted_apply {op : CompareOp} (h : op.apply a b = .ok t) (ha : a.term.WellSorted)
    (hb : b.term.WellSorted) : t.term.WellSorted := by
  cases op
  case lt => exact SomeTerm.wellSorted_of_numbers (ofOperands_eq_ok h) ha hb fun _ => .lt
  case le => exact SomeTerm.wellSorted_of_numbers (ofOperands_eq_ok h) ha hb fun _ => .le
  case gt => exact SomeTerm.wellSorted_of_numbers (ofOperands_eq_ok h) ha hb fun _ left right => right.lt left
  case ge => exact SomeTerm.wellSorted_of_numbers (ofOperands_eq_ok h) ha hb fun _ left right => right.le left
  case eq =>
    cases h
    obtain ⟨left, right⟩ := SomeTerm.wellSorted_pair ha hb
    exact left.eq right
  case ne =>
    cases h
    obtain ⟨left, right⟩ := SomeTerm.wellSorted_pair ha hb
    exact left.distinct right
  all_goals cases h

theorem BoolOp.wellSorted_apply {op : BoolOp} {parts : List SomeTerm} (h : op.apply parts = .ok t)
    (many : 2 ≤ parts.length) (sorted : ∀ p ∈ parts, p.term.WellSorted) : t.term.WellSorted := by
  cases op with
  | and =>
    obtain ⟨xs, truths, made⟩ := bind_eq_ok.mp (ofOperands_eq_ok h)
    obtain ⟨length, xs_sorted⟩ := SomeTerm.wellSorted_truths truths sorted
    cases made
    exact .and (length ▸ many) xs_sorted
  | or =>
    obtain ⟨xs, truths, made⟩ := bind_eq_ok.mp (ofOperands_eq_ok h)
    obtain ⟨length, xs_sorted⟩ := SomeTerm.wellSorted_truths truths sorted
    cases made
    exact .or (length ▸ many) xs_sorted

theorem wellSorted_joinComparisons {parts : List SomeTerm} (h : joinComparisons parts = .ok t)
    (nonempty : parts ≠ []) (sorted : ∀ p ∈ parts, p.term.WellSorted) : t.term.WellSorted := by
  obtain _ | ⟨p, _ | ⟨q, rest⟩⟩ := parts
  · exact absurd rfl nonempty
  · cases h
    exact sorted _ List.mem_cons_self
  · have joined : BoolOp.and.apply (p :: q :: rest) = .ok t := h
    exact BoolOp.wellSorted_apply joined (Nat.le_add_left 2 rest.length) sorted

theorem wellSorted_applyHelper {function : String} {args : List SomeTerm} (h : applyHelper function args = .ok t)
    (sorted : ∀ p ∈ args, p.term.WellSorted) : t.term.WellSorted := by
  rcases applyHelper_ok h with ⟨rfl, a, b, rfl, made⟩ | ⟨rfl, a, rfl, made⟩ | ⟨rfl, a, b, rfl, made⟩ |
    ⟨rfl, a, b, rfl, made⟩
  all_goals simp only [List.mem_cons, List.not_mem_nil, or_false, forall_eq_or_imp, forall_eq] at sorted
  · exact SomeTerm.wellSorted_implies made sorted.1 sorted.2
  · exact SomeTerm.wellSorted_abs made sorted
  · exact SomeTerm.wellSorted_min made sorted.1 sorted.2
  · exact SomeTerm.wellSorted_max made sorted.1 sorted.2

end Clause

end Covenant
