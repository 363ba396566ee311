import Covenant.Term.Search
import Covenant.Proofs.Term.Enclosure
import Covenant.Proofs.Term.Tame

/-!
# The search finds a solution if there is one

For tame constraints on truth values and whole numbers of a range the search is exact. It finds nothing only if there is
no solution, although it passes over parts of the range, and what it finds is a solution.
-/

namespace Covenant.Search

open Term (Tame AllTame IsLiteral)

variable {i j : Interpretation} {xs ys : List Variable} {cs left : List (Term .bool)} {r : Range}

/-! ## Interpretations that agree with an assignment -/

theorem extend_empty : i.extend .empty = i := rfl

theorem extend_own {x : Variable} {v : x.ty.Val} (own : i.var x.name x.ty = v) : i.extend (.single x v) = i := by
  have same : (i.extend (.single x v)).var = i.var := by
    funext name ty
    by_cases here : name = x.name ∧ ty = x.ty
    · obtain ⟨rfl, rfl⟩ := here
      simp [Interpretation.extend, Assignment.single, own]
    · exact Term.extend_single x v name ty here
  calc i.extend (.single x v) = { i with var := (i.extend (.single x v)).var } := rfl
    _ = i := by rw [same]

theorem extend_here (x : Variable) (v : x.ty.Val) : (i.extend (.single x v)).var x.name x.ty = v := by
  simp [Interpretation.extend, Assignment.single]

theorem extend_other {x y : Variable} (v : x.ty.Val) (differs : y ≠ x) :
    (i.extend (.single x v)).var y.name y.ty = i.var y.name y.ty := by
  refine Term.extend_single x v y.name y.ty fun same => differs ?_
  obtain ⟨name, ty⟩ := y
  obtain ⟨rfl, rfl⟩ := same
  rfl

/-! ## Fixing a variable -/

def Open (xs : List Variable) (cs : List (Term .bool)) : Prop := ∀ c ∈ cs, Tame xs c ∧ ¬ Tame [] c

theorem mem_assignAll {known : Assignment} {c : Term .bool} :
    c ∈ Term.assignAll known cs ↔ ∃ d ∈ cs, d.assign known = c := by
  induction cs with
  | nil => simp [Term.assignAll]
  | cons d rest ih => simp [Term.assignAll, ih, eq_comm]

theorem settle_none (h : settle cs = none) : .bool false ∈ cs := by
  fun_induction settle cs with
  | case1 => cases h
  | case2 rest ih => exact List.mem_cons_of_mem _ (ih h)
  | case3 rest => exact List.mem_cons_self
  | case4 c rest _ _ ih => exact List.mem_cons_of_mem _ (ih (Option.map_eq_none_iff.mp h))

theorem mem_of_settle {c : Term .bool} (h : settle cs = some left) : c ∈ left ↔ c ∈ cs ∧ c ≠ .bool true := by
  fun_induction settle cs generalizing left with
  | case1 =>
    cases h
    simp
  | case2 rest ih =>
    rw [ih h, List.mem_cons]
    constructor
    · rintro ⟨member, undecided⟩
      exact ⟨.inr member, undecided⟩
    · rintro ⟨rfl | member, undecided⟩
      · exact absurd rfl undecided
      · exact ⟨member, undecided⟩
  | case3 rest => cases h
  | case4 d rest notTrue _ ih =>
    obtain ⟨others, settled, rfl⟩ := Option.map_eq_some_iff.mp h
    rw [List.mem_cons, ih settled, List.mem_cons]
    constructor
    · rintro (rfl | ⟨member, undecided⟩)
      · exact ⟨.inl rfl, notTrue⟩
      · exact ⟨.inr member, undecided⟩
    · rintro ⟨rfl | member, undecided⟩
      · exact .inl rfl
      · exact .inr ⟨member, undecided⟩

theorem settle_not_false (h : settle cs = some left) : .bool false ∉ cs := by
  fun_induction settle cs generalizing left with
  | case1 => exact List.not_mem_nil
  | case2 rest ih => exact fun member => ih h (List.mem_of_ne_of_mem (by simp) member)
  | case3 rest => cases h
  | case4 d rest _ notFalse ih =>
    obtain ⟨others, settled, rfl⟩ := Option.map_eq_some_iff.mp h
    exact fun member => ih settled (List.mem_of_ne_of_mem (Ne.symm notFalse) member)

variable {known : Assignment}

theorem fix_none (h : fix known cs = none) : ∃ c ∈ cs, ∀ i : Interpretation, c.eval (i.extend known) = false := by
  obtain ⟨c, member, folded⟩ := mem_assignAll.mp (settle_none h)
  refine ⟨c, member, fun i => ?_⟩
  rw [← Term.eval_assign, folded]
  rfl

theorem fix_some (h : fix known cs = some left) :
    (∀ c ∈ left, c.eval i = true) ↔ ∀ c ∈ cs, c.eval (i.extend known) = true := by
  constructor
  · intro all c member
    rw [← Term.eval_assign]
    by_cases decided : c.assign known = .bool true
    · rw [decided]
      rfl
    · exact all _ ((mem_of_settle h).mpr ⟨mem_assignAll.mpr ⟨c, member, rfl⟩, decided⟩)
  · intro all c member
    obtain ⟨d, inConstraints, rfl⟩ := mem_assignAll.mp ((mem_of_settle h).mp member).1
    rw [Term.eval_assign]
    exact all d inConstraints

theorem fix_open (h : fix known cs = some left) (tame : ∀ c ∈ cs, Tame xs c)
    (rest : ∀ y ∈ xs, known y.name y.ty = none → y ∈ ys) : Open ys left := by
  intro c member
  obtain ⟨folded, notTrue⟩ := (mem_of_settle h).mp member
  obtain ⟨d, inConstraints, rfl⟩ := mem_assignAll.mp folded
  refine ⟨Term.tame_assign rest d (tame d inConstraints), fun closed => ?_⟩
  -- a constraint without variables would be a literal, and none is left
  obtain ⟨_ | _, decided⟩ := Term.literal_assign d (tame d inConstraints) closed
  · rw [decided] at folded
    exact settle_not_false h folded
  · exact notTrue decided

theorem fix_single_open {x : Variable} {v : x.ty.Val} (h : fix (.single x v) cs = some left)
    (isOpen : Open (x :: xs) cs) : Open xs left := by
  refine fix_open h (fun c member => (isOpen c member).1) fun y member unknown => ?_
  rcases List.mem_cons.mp member with rfl | member
  · simp [Assignment.single] at unknown
  · exact member

/-! ## Values of a range -/

def Range.Contains (r : Range) : (ty : Ty) → ty.Val → Prop
  | .bool, _ => True
  | .num .int, n => r.low ≤ n ∧ n ≤ r.high
  | .num .real, _ => False

section

variable {α : Type} {possible : Int → Nat → Bool} {f : Int → Option α}

theorem firstWithin_some {fuel count : Nat} {start : Int} {a : α}
    (h : firstWithin possible f fuel start count = some a) : ∃ n, start ≤ n ∧ n < start + count ∧ f n = some a := by
  induction fuel generalizing start count with
  | zero => cases h
  | succ fuel ih =>
    rw [firstWithin] at h
    split at h
    · cases h
    · split at h
      · exact ⟨start, le_rfl, by omega, h⟩
      · split at h
        · cases h
        · dsimp only at h
          split at h
          · rename_i found
            cases h
            obtain ⟨n, low, high, success⟩ := ih found
            exact ⟨n, low, by omega, success⟩
          · obtain ⟨n, low, high, success⟩ := ih h
            exact ⟨n, by omega, by omega, success⟩

/-- A success is not passed over, if a part that it lies in is always taken for possible. -/
theorem firstWithin_isSome {fuel count : Nat} {start n : Int} (enough : count ≤ fuel) (low : start ≤ n)
    (high : n < start + count) (success : (f n).isSome = true)
    (passes : ∀ (first : Int) (size : Nat), first ≤ n → n < first + size → possible first size = true) :
    (firstWithin possible f fuel start count).isSome = true := by
  induction fuel generalizing start count with
  | zero => omega
  | succ fuel ih =>
    rw [firstWithin]
    split
    · omega
    · split
      · have only : n = start := by omega
        rw [← only]
        exact success
      · split
        · rename_i refused
          rw [passes start count low high] at refused
          simp at refused
        · dsimp only
          split
          · rfl
          · rename_i nothing
            by_cases inFirst : n < start + (count / 2 : Nat)
            · have found := ih (by omega) low inFirst
              rw [nothing] at found
              cases found
            · exact ih (by omega) (by omega) (by omega)

end

section

variable {α : Type} {possible : Int → Nat → Bool} {f : (ty : Ty) → ty.Val → Option α} {ty : Ty}

theorem first_some {a : α} (h : r.first possible f ty = some a) : ∃ v, r.Contains ty v ∧ f ty v = some a := by
  match ty with
  | .bool =>
    rcases Option.or_eq_some_iff.mp h with found | ⟨-, found⟩
    · exact ⟨false, trivial, found⟩
    · exact ⟨true, trivial, found⟩
  | .num .int =>
    obtain ⟨n, low, high, success⟩ := firstWithin_some h
    have upper : n ≤ r.high := by
      unfold Range.size at high
      omega
    exact ⟨n, ⟨low, upper⟩, success⟩
  | .num .real => cases h

theorem first_bool_isSome {v : Bool} (success : (f .bool v).isSome = true) :
    (r.first possible f .bool).isSome = true := by
  rw [Range.first, Option.isSome_or]
  cases v <;> simp [success]

theorem first_int_isSome {n : Int} (contains : r.Contains .int n) (success : (f .int n).isSome = true)
    (passes : ∀ (first : Int) (size : Nat), first ≤ n → n < first + size → possible first size = true) :
    (r.first possible f .int).isSome = true := by
  have low : r.low ≤ n := contains.1
  have high : n ≤ r.high := contains.2
  refine firstWithin_isSome le_rfl low ?_ success passes
  unfold Range.size
  omega

theorem least_some {a : α} (h : r.least f ty = some a) : ∃ v, r.Contains ty v ∧ f ty v = some a := by
  match ty with
  | .bool => exact ⟨false, trivial, h⟩
  | .num .int =>
    rw [Range.least] at h
    split at h
    · cases h
    · rename_i nonempty
      have upper : r.low ≤ r.high := by
        unfold Range.size at nonempty
        omega
      exact ⟨r.low, ⟨le_rfl, upper⟩, h⟩
  | .num .real => cases h

theorem least_isSome {v : ty.Val} (contains : r.Contains ty v)
    (success : ∀ v, r.Contains ty v → (f ty v).isSome = true) : (r.least f ty).isSome = true := by
  match ty with
  | .bool => exact success false trivial
  | .num .int =>
    have ordered : r.low ≤ r.high := contains.1.trans contains.2
    have nonempty : r.size ≠ 0 := by
      unfold Range.size
      omega
    rw [Range.least, if_neg nonempty]
    exact success r.low ⟨le_rfl, ordered⟩
  | .num .real => cases contains

end

/-! ## The search -/

def Within (r : Range) (xs : List Variable) (i : Interpretation) : Prop :=
  ∀ x ∈ xs, r.Contains x.ty (i.var x.name x.ty)

def attempt (r : Range) (rest : List Variable) (name : String) (cs : List (Term .bool)) (ty : Ty) (v : ty.Val) :
    Option (List (Variable × Solved) × List (Term .bool)) :=
  match fix (.single ⟨name, ty⟩ v) cs with
  | none => none
  | some left => (search r rest left).map fun (values, left) => ((⟨name, ty⟩, solved ty v) :: values, left)

theorem search_cons {x : Variable} {rest : List Variable} (bounded : x.ty ≠ .real) :
    search r (x :: rest) cs =
      if Term.mentionsAny x cs then
        r.first (fun start count => !Term.refuted (narrowed (r.box rest) x.name start count) cs)
          (attempt r rest x.name cs) x.ty
      else r.least (attempt r rest x.name cs) x.ty := by
  obtain ⟨name, ty⟩ := x
  rw [search]
  simp only [bounded, if_false]
  rfl

theorem attempt_some {x : Variable} {rest : List Variable} {v : x.ty.Val} {values : List (Variable × Solved)}
    (h : attempt r rest x.name cs x.ty v = some (values, left)) :
    ∃ settled others, fix (.single x v) cs = some settled ∧ search r rest settled = some (others, left) ∧
      values = (x, solved x.ty v) :: others := by
  unfold attempt at h
  split at h
  · cases h
  · rename_i settled fixed
    obtain ⟨⟨others, left⟩, found, made⟩ := Option.map_eq_some_iff.mp h
    cases made
    exact ⟨settled, others, fixed, found, rfl⟩

def valuesOf (i : Interpretation) (xs : List Variable) : List (Variable × Solved) :=
  xs.map fun x => (x, solved x.ty (i.var x.name x.ty))

def AgreeOn (xs : List Variable) (i j : Interpretation) : Prop :=
  ∀ x ∈ xs, j.var x.name x.ty = i.var x.name x.ty

theorem eq_nil_of_open (h : Open [] cs) : cs = [] :=
  List.eq_nil_iff_forall_not_mem.mpr fun c member => (h c member).2 (h c member).1

theorem search_sound {values : List (Variable × Solved)} (bounded : ∀ x ∈ xs, x.ty ≠ .real) (distinct : xs.Nodup)
    (isOpen : Open xs cs) (h : search r xs cs = some (values, left)) :
    ∃ i, values = valuesOf i xs ∧ ∀ j, AgreeOn xs i j → Within r xs j ∧ ∀ c ∈ cs, c.eval j = true := by
  induction xs generalizing cs values left with
  | nil =>
    cases eq_nil_of_open isOpen
    cases h
    exact ⟨.zeros, rfl, fun j _ => ⟨nofun, nofun⟩⟩
  | cons x rest ih =>
    obtain ⟨xBounded, restBounded⟩ := List.forall_mem_cons.mp bounded
    obtain ⟨fresh, restDistinct⟩ := List.nodup_cons.mp distinct
    obtain ⟨v, contains, tried⟩ : ∃ v, r.Contains x.ty v ∧ attempt r rest x.name cs x.ty v = some (values, left) := by
      rw [search_cons xBounded] at h
      split at h
      · exact first_some h
      · exact least_some h
    obtain ⟨settled, others, fixed, found, rfl⟩ := attempt_some tried
    obtain ⟨i, rfl, solves⟩ := ih restBounded restDistinct (fix_single_open fixed isOpen) found
    have unchanged : ∀ y ∈ rest, (i.extend (.single x v)).var y.name y.ty = i.var y.name y.ty := fun y member =>
      extend_other v fun same => fresh (same ▸ member)
    -- the solution for the rest, changed at `x` only, which the rest does not contain
    refine ⟨i.extend (.single x v), ?_, ?_⟩
    · rw [valuesOf, valuesOf, List.map_cons, extend_here]
      congr 1
      exact List.map_congr_left fun y member => by rw [unchanged y member]
    · intro j agree
      obtain ⟨here, others⟩ := List.forall_mem_cons.mp agree
      rw [extend_here] at here
      obtain ⟨within, settledHold⟩ := solves j fun y member => (others y member).trans (unchanged y member)
      refine ⟨List.forall_mem_cons.mpr ⟨here ▸ contains, within⟩, ?_⟩
      have hold := (fix_some fixed).mp settledHold
      rwa [extend_own here] at hold

/-! ## Completeness -/

theorem box_holds {x : Variable} {rest : List Variable} (within : Within r rest i) {start : Int} {count : Nat}
    (low : start ≤ i.var x.name .int) (high : i.var x.name .int < start + count) :
    (narrowed (r.box rest) x.name start count).Holds i := by
  intro name l h range
  unfold narrowed at range
  split at range
  · rename_i same
    subst same
    cases range
    exact ⟨low, Int.le_sub_one_of_lt high⟩
  · unfold Range.box at range
    split at range
    · rename_i declared
      cases range
      obtain ⟨⟨_, _⟩, member, isInt⟩ := List.any_eq_true.mp declared
      obtain ⟨rfl, rfl⟩ : _ = name ∧ _ = Ty.int := by simpa using isInt
      exact within _ member
    · cases range

theorem not_mentioned {x : Variable} (h : ¬ Term.mentionsAny x cs = true) : ∀ c ∈ cs, c.mentions x = false := by
  induction cs with
  | nil => exact nofun
  | cons d rest ih =>
    rw [Term.mentionsAny, Bool.or_eq_true, not_or] at h
    exact List.forall_mem_cons.mpr ⟨Bool.eq_false_iff.mpr h.1, ih h.2⟩

theorem attempt_isSome {x : Variable} {rest : List Variable} {v : x.ty.Val} (isOpen : Open (x :: rest) cs)
    (own : i.var x.name x.ty = v) (holds : ∀ c ∈ cs, c.eval i = true)
    (found : ∀ settled, Open rest settled → (∀ c ∈ settled, c.eval i = true) → (search r rest settled).isSome = true) :
    (attempt r rest x.name cs x.ty v).isSome = true := by
  unfold attempt
  split
  · rename_i violated
    obtain ⟨c, member, isFalse⟩ := fix_none violated
    have value := isFalse i
    rw [extend_own own, holds c member] at value
    cases value
  · rename_i settled fixed
    rw [Option.isSome_map]
    refine found settled (fix_single_open fixed isOpen) ((fix_some fixed).mpr ?_)
    rwa [extend_own own]

theorem search_complete (isOpen : Open xs cs) (within : Within r xs i) (holds : ∀ c ∈ cs, c.eval i = true) :
    (search r xs cs).isSome = true := by
  induction xs generalizing cs i with
  | nil =>
    cases eq_nil_of_open isOpen
    rfl
  | cons x rest ih =>
    obtain ⟨contains, restWithin⟩ := List.forall_mem_cons.mp within
    have bounded : x.ty ≠ .real := fun isReal => by
      obtain ⟨name, ty⟩ := x
      subst isReal
      exact contains
    rw [search_cons bounded]
    split
    · have success : (attempt r rest x.name cs x.ty (i.var x.name x.ty)).isSome = true :=
        attempt_isSome isOpen rfl holds fun settled isOpen holds => ih isOpen restWithin holds
      obtain ⟨name, _ | _ | _⟩ := x
      · exact first_bool_isSome success
      · -- a part of the range that is passed over contains no solution
        refine first_int_isSome contains success fun first size low high => ?_
        rw [Term.not_refuted (box_holds restWithin low high) holds]
        rfl
      · cases bounded rfl
    · rename_i unmentioned
      refine least_isSome contains fun v inRange => ?_
      -- no constraint speaks of the variable, so it may have any value
      refine attempt_isSome isOpen (extend_here (i := i) x v) ?_ fun settled isOpen holds => ih isOpen ?_ holds
      · intro c member
        rw [Term.eval_single v c (not_mentioned unmentioned c member)]
        exact holds c member
      · intro y member
        by_cases same : y = x
        · subst same
          rw [extend_here]
          exact inRange
        · rw [extend_other v same]
          exact restWithin y member

/-! ## Solving -/

theorem lookup_valuesOf {x : Variable} (h : x ∈ xs) :
    (valuesOf i xs).lookup x = some (solved x.ty (i.var x.name x.ty)) := by
  induction xs with
  | nil => cases h
  | cons y rest ih =>
    rw [valuesOf, List.map_cons, List.lookup_cons]
    by_cases same : x = y
    · subst same
      simp
    · rw [beq_eq_false_iff_ne.mpr same]
      exact ih ((List.mem_cons.mp h).resolve_left same)

theorem report_valuesOf :
    report xs (valuesOf i xs) left = xs.map fun x => (x.name, solved x.ty (i.var x.name x.ty)) := by
  refine List.map_congr_left fun x member => ?_
  rw [lookup_valuesOf member]

section

variable (tame : ∀ c ∈ cs, Tame xs c)

include tame

theorem solve_complete (within : Within r xs i) (holds : ∀ c ∈ cs, c.eval i = true) :
    (solve r xs cs).isSome = true := by
  unfold solve
  cases folded : fix .empty cs with
  | none =>
    obtain ⟨c, member, isFalse⟩ := fix_none folded
    have value := isFalse i
    rw [extend_empty, holds c member] at value
    cases value
  | some left =>
    have isOpen : Open xs left := fix_open folded tame fun y member _ => member
    have found := search_complete isOpen within ((fix_some folded).mpr holds)
    obtain ⟨⟨values, rest⟩, result⟩ := Option.isSome_iff_exists.mp found
    simp [result]

theorem solve_sound (bounded : ∀ x ∈ xs, x.ty ≠ .real) (distinct : xs.Nodup) {values : List (String × Solved)}
    (h : solve r xs cs = some values) :
    ∃ i, values = (xs.map fun x => (x.name, solved x.ty (i.var x.name x.ty))) ∧
      ∀ j, AgreeOn xs i j → Within r xs j ∧ ∀ c ∈ cs, c.eval j = true := by
  obtain ⟨left, folded, h⟩ := Option.bind_eq_some_iff.mp h
  obtain ⟨⟨found, rest⟩, result, made⟩ := Option.bind_eq_some_iff.mp h
  cases made
  have isOpen : Open xs left := fix_open folded tame fun y member _ => member
  obtain ⟨i, rfl, solves⟩ := search_sound bounded distinct isOpen result
  refine ⟨i, report_valuesOf, fun j agree => ?_⟩
  obtain ⟨within, hold⟩ := solves j agree
  exact ⟨within, (fix_some folded).mp hold⟩

end

end Covenant.Search
