import Covenant.Term.Enclosure
import Covenant.Proofs.Term.Assign
import Mathlib.Algebra.Order.Ring.Int

namespace Covenant

open Numeric

/-! ## Intervals -/

namespace Interval

variable {k : Numeric} {a b : Interval k} {x y : k.Val}

def Holds (a : Interval k) (x : k.Val) : Prop :=
  (∀ l ∈ a.low, rat l ≤ rat x) ∧ ∀ h ∈ a.high, rat x ≤ rat h

theorem holds_all : (all : Interval k).Holds x := ⟨nofun, nofun⟩

theorem holds_point (x : k.Val) : (point x).Holds x := by
  constructor <;>
  · intro n member
    cases member
    exact le_rfl

theorem eq_of_point? {n : k.Val} (known : a.point? = some n) (h : a.Holds x) : x = n := by
  obtain ⟨low, high⟩ := a
  cases low with
  | none => cases known
  | some l =>
    cases high with
    | none => cases known
    | some u =>
      simp only [point?, Numeric.same_eq_decide, decide_eq_true_eq, Option.ite_none_right_eq_some,
        Option.some.injEq] at known
      obtain ⟨same, rfl⟩ := known
      have above := h.1 l rfl
      have below := h.2 u rfl
      rw [← same] at below
      exact rat_injective (le_antisymm below above)

theorem both_eq_some {op : k.Val → k.Val → k.Val} {x? y? : Option k.Val} {n : k.Val} (h : n ∈ both op x? y?) :
    ∃ x ∈ x?, ∃ y ∈ y?, n = op x y := by
  cases x? with
  | none => cases h
  | some x =>
    cases y? with
    | none => cases h
    | some y =>
      cases h
      exact ⟨x, rfl, y, rfl, rfl⟩

theorem holds_neg (h : a.Holds x) : a.neg.Holds (Numeric.neg x) := by
  constructor
  · intro n member
    obtain ⟨m, high, rfl⟩ := Option.mem_map.mp member
    rw [rat_neg, rat_neg]
    exact neg_le_neg (h.2 m high)
  · intro n member
    obtain ⟨m, low, rfl⟩ := Option.mem_map.mp member
    rw [rat_neg, rat_neg]
    exact neg_le_neg (h.1 m low)

theorem holds_add (left : a.Holds x) (right : b.Holds y) : (a.add b).Holds (Numeric.add x y) := by
  constructor
  · intro n member
    obtain ⟨l, low, m, low', rfl⟩ := both_eq_some member
    rw [rat_add, rat_add]
    exact add_le_add (left.1 l low) (right.1 m low')
  · intro n member
    obtain ⟨l, high, m, high', rfl⟩ := both_eq_some member
    rw [rat_add, rat_add]
    exact add_le_add (left.2 l high) (right.2 m high')

theorem holds_sub (left : a.Holds x) (right : b.Holds y) : (a.sub b).Holds (Numeric.sub x y) := by
  constructor
  · intro n member
    obtain ⟨l, low, m, high, rfl⟩ := both_eq_some member
    rw [rat_sub, rat_sub]
    exact sub_le_sub (left.1 l low) (right.2 m high)
  · intro n member
    obtain ⟨l, high, m, low, rfl⟩ := both_eq_some member
    rw [rat_sub, rat_sub]
    exact sub_le_sub (left.2 l high) (right.1 m low)

theorem rat_smaller (x y : k.Val) : rat (smaller x y) = min (rat x) (rat y) := by
  unfold smaller
  rw [le_eq_decide]
  by_cases le : rat x ≤ rat y
  · simp [le]
  · simp [le, (not_le.mp le).le]

theorem rat_larger (x y : k.Val) : rat (larger x y) = max (rat x) (rat y) := by
  unfold larger
  rw [le_eq_decide]
  by_cases le : rat x ≤ rat y
  · simp [le]
  · simp [le, (not_le.mp le).le]

theorem holds_hull_left (h : a.Holds x) : (hull a b).Holds x := by
  constructor
  · intro n member
    obtain ⟨l, low, m, -, rfl⟩ := both_eq_some member
    rw [rat_smaller]
    exact (min_le_left _ _).trans (h.1 l low)
  · intro n member
    obtain ⟨l, high, m, -, rfl⟩ := both_eq_some member
    rw [rat_larger]
    exact (h.2 l high).trans (le_max_left _ _)

theorem holds_hull_right (h : b.Holds x) : (hull a b).Holds x := by
  constructor
  · intro n member
    obtain ⟨l, -, m, low, rfl⟩ := both_eq_some member
    rw [rat_smaller]
    exact (min_le_right _ _).trans (h.1 m low)
  · intro n member
    obtain ⟨l, -, m, high, rfl⟩ := both_eq_some member
    rw [rat_larger]
    exact (h.2 m high).trans (le_max_right _ _)

theorem product_above {l h m n p q : Rat} (lp : l ≤ p) (ph : p ≤ h) (mq : m ≤ q) (qn : q ≤ n) :
    min (min (l * m) (l * n)) (min (h * m) (h * n)) ≤ p * q := by
  simp only [min_le_iff]
  rcases le_total 0 q with nonneg | nonpos
  · have byLeft : l * q ≤ p * q := mul_le_mul_of_nonneg_right lp nonneg
    rcases le_total 0 l with positive | negative
    · exact .inl (.inl ((mul_le_mul_of_nonneg_left mq positive).trans byLeft))
    · exact .inl (.inr ((mul_le_mul_of_nonpos_left qn negative).trans byLeft))
  · have byRight : h * q ≤ p * q := mul_le_mul_of_nonpos_right ph nonpos
    rcases le_total 0 h with positive | negative
    · exact .inr (.inl ((mul_le_mul_of_nonneg_left mq positive).trans byRight))
    · exact .inr (.inr ((mul_le_mul_of_nonpos_left qn negative).trans byRight))

theorem product_below {l h m n p q : Rat} (lp : l ≤ p) (ph : p ≤ h) (mq : m ≤ q) (qn : q ≤ n) :
    p * q ≤ max (max (l * m) (l * n)) (max (h * m) (h * n)) := by
  have above := product_above (neg_le_neg ph) (neg_le_neg lp) mq qn
  simp only [neg_mul, min_le_iff, neg_le_neg_iff] at above
  simp only [le_max_iff]
  rcases above with (hm | hn) | (lm | ln)
  · exact .inr (.inl hm)
  · exact .inr (.inr hn)
  · exact .inl (.inl lm)
  · exact .inl (.inr ln)

theorem holds_mul (left : a.Holds x) (right : b.Holds y) : (a.mul b).Holds (Numeric.mul x y) := by
  unfold mul
  split
  · rename_i l h m n low high low' high'
    have lx := left.1 l low
    have xh := left.2 h high
    have my := right.1 m low'
    have yn := right.2 n high'
    constructor
    · intro bound member
      cases member
      simp only [rat_smaller, rat_mul]
      exact product_above lx xh my yn
    · intro bound member
      cases member
      simp only [rat_larger, rat_mul]
      exact product_below lx xh my yn
  · exact holds_all

theorem rat_le_int {m n : Int} : rat (k := .int) m ≤ rat (k := .int) n ↔ m ≤ n := Int.cast_le

theorem holds_map {a : Interval .int} {x : Int} {f : Int → Int} (rises : ∀ m n, m ≤ n → f m ≤ f n) (h : a.Holds x) :
    Holds (k := .int) ⟨a.low.map f, a.high.map f⟩ (f x) := by
  constructor
  · intro n member
    obtain ⟨m, low, rfl⟩ := Option.mem_map.mp member
    exact rat_le_int.mpr (rises m x (rat_le_int.mp (h.1 m low)))
  · intro n member
    obtain ⟨m, high, rfl⟩ := Option.mem_map.mp member
    exact rat_le_int.mpr (rises x m (rat_le_int.mp (h.2 m high)))

theorem holds_map_falling {a : Interval .int} {x : Int} {f : Int → Int} (falls : ∀ m n, m ≤ n → f n ≤ f m)
    (h : a.Holds x) : Holds (k := .int) ⟨a.high.map f, a.low.map f⟩ (f x) := by
  constructor
  · intro n member
    obtain ⟨m, high, rfl⟩ := Option.mem_map.mp member
    exact rat_le_int.mpr (falls x m (rat_le_int.mp (h.2 m high)))
  · intro n member
    obtain ⟨m, low, rfl⟩ := Option.mem_map.mp member
    exact rat_le_int.mpr (falls m x (rat_le_int.mp (h.1 m low)))

theorem holds_div {a b : Interval .int} {x y v : Int} (left : a.Holds x) (right : b.Holds y)
    (value : y ≠ 0 → v = x / y) : (a.div b).Holds v := by
  unfold div
  split
  · rename_i d known
    have same : y = d := eq_of_point? known right
    subst same
    split
    · rename_i positive
      rw [value positive.ne']
      exact holds_map (fun m n le => Int.ediv_le_ediv positive le) left
    · split
      · rename_i negative
        rw [value negative.ne]
        refine holds_map_falling (fun m n le => ?_) left
        have flipped := Int.ediv_le_ediv (Int.neg_pos_of_neg negative) le
        rw [Int.ediv_neg, Int.ediv_neg] at flipped
        exact neg_le_neg_iff.mp flipped
      · exact holds_all
  · exact holds_all

theorem holds_remainder {x y : Int} (nonzero : y ≠ 0) :
    Holds (k := .int) ⟨some (0 : Int), some ((y.natAbs : Int) - 1)⟩ (x % y) := by
  constructor
  · intro n member
    cases member
    exact rat_le_int.mpr (Int.emod_nonneg x nonzero)
  · intro n member
    cases member
    exact rat_le_int.mpr (Int.le_sub_one_of_lt (Int.emod_lt x nonzero))

theorem holds_mod {a b : Interval .int} {x y v : Int} (left : a.Holds x) (right : b.Holds y)
    (value : y ≠ 0 → v = x % y) : (a.mod b).Holds v := by
  unfold mod
  split
  · rename_i d known
    have same : y = d := eq_of_point? known right
    subst same
    simp only
    split
    · exact holds_all
    · rename_i size
      have nonzero : y ≠ 0 := fun zero => size (by simp [zero])
      rw [value nonzero]
      split
      · rename_i l u low high
        split
        · rename_i within
          -- a numerator below the divisor is its own remainder
          have nonneg : 0 ≤ x := within.1.trans (rat_le_int.mp (left.1 l low))
          have small : x < y.natAbs := (rat_le_int.mp (left.2 u high)).trans_lt within.2
          have own : x % y = x := by
            rw [← Int.emod_abs, ← Int.natCast_natAbs]
            exact Int.emod_eq_of_lt nonneg small
          rw [own]
          exact left
        · exact holds_remainder nonzero
      · exact holds_remainder nonzero
  · exact holds_all

theorem holds_toReal {a : Interval .int} {x : Int} (h : a.Holds x) : a.toReal.Holds (Rat.ofInt x) := by
  constructor
  · intro n member
    obtain ⟨m, low, rfl⟩ := Option.mem_map.mp member
    exact h.1 m low
  · intro n member
    obtain ⟨m, high, rfl⟩ := Option.mem_map.mp member
    exact h.2 m high

theorem lt_of_below (h : a.below b = true) (left : a.Holds x) (right : b.Holds y) : rat x < rat y := by
  unfold below at h
  split at h
  · rename_i u l high low
    rw [lt_eq_decide, decide_eq_true_eq] at h
    exact ((left.2 u high).trans_lt h).trans_le (right.1 l low)
  · cases h

theorem le_of_notAbove (h : a.notAbove b = true) (left : a.Holds x) (right : b.Holds y) : rat x ≤ rat y := by
  unfold notAbove at h
  split at h
  · rename_i u l high low
    rw [le_eq_decide, decide_eq_true_eq] at h
    exact ((left.2 u high).trans h).trans (right.1 l low)
  · cases h

theorem lt_sound {v : Bool} (h : a.lt b = some v) (left : a.Holds x) (right : b.Holds y) : Numeric.lt x y = v := by
  unfold Interval.lt at h
  rw [lt_eq_decide]
  split at h
  · rename_i below
    cases h
    exact decide_eq_true (lt_of_below below left right)
  · split at h
    · rename_i notAbove
      cases h
      exact decide_eq_false (not_lt.mpr (le_of_notAbove notAbove right left))
    · cases h

theorem le_sound {v : Bool} (h : a.le b = some v) (left : a.Holds x) (right : b.Holds y) : Numeric.le x y = v := by
  unfold Interval.le at h
  rw [le_eq_decide]
  split at h
  · rename_i notAbove
    cases h
    exact decide_eq_true (le_of_notAbove notAbove left right)
  · split at h
    · rename_i below
      cases h
      exact decide_eq_false (not_le.mpr (lt_of_below below right left))
    · cases h

theorem eq_sound {v : Bool} (h : a.eq b = some v) (left : a.Holds x) (right : b.Holds y) :
    Ty.same (t := .num k) x y = v := by
  unfold Interval.eq at h
  split at h
  · rename_i apart
    cases h
    rw [Numeric.same_eq_decide, decide_eq_false_iff_not]
    rcases Bool.or_eq_true_iff.mp apart with below | below
    · exact (lt_of_below below left right).ne
    · exact (lt_of_below below right left).ne'
  · split at h
    · rename_i m n isLeft isRight
      cases h
      rw [eq_of_point? isLeft left, eq_of_point? isRight right]
    · cases h

end Interval

/-! ## Terms -/

def Ty.Encloses : (t : Ty) → t.Enclosure → t.Val → Prop
  | .bool, e, v => ∀ b ∈ (e : Option Bool), v = b
  | .num _, a, x => a.Holds x

def Box.Holds (box : Box) (i : Interpretation) : Prop :=
  ∀ name l h, box name = some (l, h) → l ≤ i.var name .int ∧ i.var name .int ≤ h

namespace Term

variable {i : Interpretation} {box : Box} {t : Ty}

theorem encloses_var (inside : box.Holds i) (name : String) (ty : Ty) :
    ty.Encloses (enclosedVar box name ty) (i.var name ty) := by
  match ty with
  | .bool => exact nofun
  | .num .real => exact Interval.holds_all
  | .num .int =>
    unfold enclosedVar
    split
    · rename_i l h range
      obtain ⟨low, high⟩ := inside name l h range
      constructor
      · intro n member
        cases member
        exact Interval.rat_le_int.mpr low
      · intro n member
        cases member
        exact Interval.rat_le_int.mpr high
    · exact Interval.holds_all

theorem encloses_bool {e : Option Bool} {v : Bool} : Ty.Encloses .bool e v ↔ e = none ∨ e = some v := by
  cases e with
  | none => exact ⟨fun _ => .inl rfl, fun _ => nofun⟩
  | some b =>
    constructor
    · intro h
      exact .inr (congrArg some (h b rfl).symm)
    · rintro (h | h) b member
      · cases h
      · cases h
        exact Option.some.inj member

theorem encloses_ite {c : Option Bool} {p : Bool} {a b : t.Enclosure} {x y : t.Val} (test : Ty.Encloses .bool c p)
    (left : t.Encloses a x) (right : t.Encloses b y) :
    t.Encloses (enclosedIte c a b) (if p then x else y) := by
  rcases encloses_bool.mp test with rfl | rfl
  · match t with
    | .bool =>
      rcases encloses_bool.mp left with rfl | rfl
      · exact nofun
      · rcases encloses_bool.mp right with rfl | rfl
        · exact nofun
        · refine encloses_bool.mpr ?_
          cases p <;> cases x <;> cases y <;> simp [enclosedIte]
    | .num k =>
      cases p with
      | true => exact Interval.holds_hull_left left
      | false => exact Interval.holds_hull_right right
  · cases p with
    | true => exact left
    | false => exact right

theorem eq_of_enclosedEq {a b : t.Enclosure} {x y : t.Val} {v : Bool} (h : enclosedEq a b = some v)
    (left : t.Encloses a x) (right : t.Encloses b y) : Ty.same x y = v := by
  match t with
  | .bool =>
    rcases encloses_bool.mp left with rfl | rfl
    · cases h
    · rcases encloses_bool.mp right with rfl | rfl
      · cases h
      · exact Option.some.inj h
  | .num k => exact Interval.eq_sound h left right

mutual
theorem encloses_enclose (inside : box.Holds i) {t : Ty} (a : Term t) : t.Encloses (enclose box a) (a.eval i) := by
  match a with
  | .int n => exact Interval.holds_point (k := .int) n
  | .real q => exact Interval.holds_point (k := .real) q
  | .bool b => exact fun _ member => Option.some.inj member
  | .var name ty => exact encloses_var inside name ty
  | .neg a => exact Interval.holds_neg (encloses_enclose inside a)
  | .add a b => exact Interval.holds_add (encloses_enclose inside a) (encloses_enclose inside b)
  | .sub a b => exact Interval.holds_sub (encloses_enclose inside a) (encloses_enclose inside b)
  | .mul a b => exact Interval.holds_mul (encloses_enclose inside a) (encloses_enclose inside b)
  | .div a b =>
    refine Interval.holds_div (encloses_enclose inside a) (encloses_enclose inside b) fun nonzero => ?_
    simp only [eval, nonzero, if_false]
  | .mod a b =>
    refine Interval.holds_mod (encloses_enclose inside a) (encloses_enclose inside b) fun nonzero => ?_
    simp only [eval, nonzero, if_false]
  | .quot a b => exact Interval.holds_all
  | .toReal a => exact Interval.holds_toReal (encloses_enclose inside a)
  | .ite c a b =>
    exact encloses_ite (encloses_enclose inside c) (encloses_enclose inside a) (encloses_enclose inside b)
  | .and parts => exact encloseAll_sound inside parts
  | .or parts => exact encloseAny_sound inside parts
  | .not a =>
    rw [enclose, eval]
    rcases encloses_bool.mp (encloses_enclose inside a) with undecided | decided
    · rw [undecided]
      exact nofun
    · rw [decided]
      exact encloses_bool.mpr (.inr rfl)
  | .implies a b =>
    have left := encloses_bool.mp (encloses_enclose inside a)
    have right := encloses_bool.mp (encloses_enclose inside b)
    rw [enclose, eval]
    refine encloses_bool.mpr ?_
    rcases left with left | left <;> rcases right with right | right <;> simp only [left, right] <;>
      cases eval i a <;> cases eval i b <;> simp
  | .eq a b =>
    exact fun _ member => eq_of_enclosedEq member (encloses_enclose inside a) (encloses_enclose inside b)
  | .distinct a b =>
    intro v member
    obtain ⟨same, decided, rfl⟩ := Option.mem_map.mp member
    rw [eval, eq_of_enclosedEq decided (encloses_enclose inside a) (encloses_enclose inside b)]
  | .lt a b => exact fun _ member => Interval.lt_sound member (encloses_enclose inside a) (encloses_enclose inside b)
  | .le a b => exact fun _ member => Interval.le_sound member (encloses_enclose inside a) (encloses_enclose inside b)
theorem encloseAll_sound (inside : box.Holds i) (parts : List (Term .bool)) :
    Ty.Encloses .bool (encloseAll box parts) (evalAll i parts) := by
  match parts with
  | [] => exact encloses_bool.mpr (.inr rfl)
  | a :: rest =>
    have left := encloses_bool.mp (encloses_enclose inside a)
    have right := encloses_bool.mp (encloseAll_sound inside rest)
    rw [encloseAll, evalAll]
    refine encloses_bool.mpr ?_
    rcases left with left | left <;> rcases right with right | right <;> simp only [left, right] <;>
      cases eval i a <;> cases evalAll i rest <;> simp
theorem encloseAny_sound (inside : box.Holds i) (parts : List (Term .bool)) :
    Ty.Encloses .bool (encloseAny box parts) (evalAny i parts) := by
  match parts with
  | [] => exact encloses_bool.mpr (.inr rfl)
  | a :: rest =>
    have left := encloses_bool.mp (encloses_enclose inside a)
    have right := encloses_bool.mp (encloseAny_sound inside rest)
    rw [encloseAny, evalAny]
    refine encloses_bool.mpr ?_
    rcases left with left | left <;> rcases right with right | right <;> simp only [left, right] <;>
      cases eval i a <;> cases evalAny i rest <;> simp
end

theorem not_refuted (inside : box.Holds i) {constraints : List (Term .bool)} (h : ∀ c ∈ constraints, c.eval i = true) :
    refuted box constraints = false := by
  induction constraints with
  | nil => rfl
  | cons c rest ih =>
    obtain ⟨holds, others⟩ := List.forall_mem_cons.mp h
    rw [refuted, ih others, Bool.or_false, beq_eq_false_iff_ne]
    intro isFalse
    have value := encloses_enclose inside c false isFalse
    rw [holds] at value
    cases value

end Term

end Covenant
