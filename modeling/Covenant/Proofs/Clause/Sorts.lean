import Covenant.Proofs.Clause.Terms

namespace Covenant

def Ty.join : Ty → Ty → Ty
  | .bool, .bool => .bool
  | .num .real, _ => .real
  | _, .num .real => .real
  | _, _ => .int

def Ty.counted : Ty → Ty
  | .bool => .int
  | ty => ty

def Ty.areTruths (a b : Ty) : Bool := a = .bool && b = .bool

/-- All bits of the exponent of a machine number are set in the numbers that are not finite. -/
def Decimal.IsFinite (x : Float) : Prop := x.toBits.toNat / Nat.pow 2 52 % Nat.pow 2 11 ≠ 2047

theorem Decimal.shortestValue?_isSome (x : Float) : (shortestValue? x).isSome ↔ IsFinite x := by
  by_cases finite : IsFinite x
  · simp only [finite, iff_true]
    unfold IsFinite at finite
    unfold shortestValue? parts
    simp only [if_neg finite]
    split_ifs <;> rfl
  · simp only [finite, iff_false]
    have special : x.toBits.toNat / Nat.pow 2 52 % Nat.pow 2 11 = 2047 := not_not.mp finite
    unfold shortestValue? parts
    simp only [special, if_true]
    split_ifs <;> simp

namespace Clause

/-! ## The tables of the operators -/

def BinaryOp.sort? (op : BinaryOp) (a b : Ty) : Option Ty :=
  match op with
  | .add | .mul => some (a.counted.join b.counted)
  | .sub | .floorDiv => if a.areTruths b then none else some (a.join b)
  | .mod => if a.areTruths b ∨ a = .real ∨ b = .real then none else some .int
  | .div => if a = .real ∨ b = .real then none else some .real
  | _ => none

def UnaryOp.sort? : UnaryOp → Ty → Option Ty
  | .neg, .num k => some (.num k)
  | .pos, ty => some ty
  | .not, .bool => some .bool
  | _, _ => none

def CompareOp.admits (op : CompareOp) (a b : Ty) : Bool :=
  match op with
  | .lt | .le | .gt | .ge => !a.areTruths b
  | .eq | .ne => true
  | _ => false

def helperSort? (function : String) (args : List Ty) : Option Ty :=
  match function, args with
  | "implies", [.bool, .bool] => some .bool
  | "abs", [.num k] => some (.num k)
  | "min", [a, b] => if a.areTruths b then none else some (a.join b)
  | "max", [a, b] => if a.areTruths b then none else some (a.join b)
  | _, _ => none

/-! ## The rules -/

inductive Kind where
  | value (ty : Ty)
  | owner (fields : String → Option Ty)

abbrev Typing := String → Option Kind

mutual
/-- The expression has the sort where names are bound as the typing says; `old` is for names below `old(...)`. -/
inductive HasSort (old : Option Typing) : Typing → Expr → Ty → Prop
  | truth {Γ : Typing} {b : Bool} : HasSort old Γ (.constant (.bool b)) .bool
  | whole {Γ : Typing} {n : Nat} : HasSort old Γ (.constant (.int n)) .int
  | fraction {Γ : Typing} {x : Float} (finite : Decimal.IsFinite x) : HasSort old Γ (.constant (.float x)) .real
  | name {Γ : Typing} {id : String} {ty : Ty} (bound : Γ id = some (.value ty)) : HasSort old Γ (.name id) ty
  | field {Γ : Typing} {owner name : String} {fields : String → Option Ty} {ty : Ty}
      (bound : Γ owner = some (.owner fields)) (has : fields name = some ty) :
      HasSort old Γ (.field (.name owner) name) ty
  | unary {Γ : Typing} {op : UnaryOp} {e : Expr} {a ty : Ty} (operand : HasSort old Γ e a)
      (takes : op.sort? a = some ty) : HasSort old Γ (.unary op e) ty
  | binary {Γ : Typing} {op : BinaryOp} {l r : Expr} {a b ty : Ty} (left : HasSort old Γ l a)
      (right : HasSort old Γ r b) (takes : op.sort? a b = some ty) : HasSort old Γ (.binary op l r) ty
  | bool {Γ : Typing} {op : BoolOp} {es : List Expr} {tys : List Ty} (operands : HaveSorts old Γ es tys)
      (truths : ∀ ty ∈ tys, ty = .bool) : HasSort old Γ (.bool op es) .bool
  | compare {Γ : Typing} {e : Expr} {rest : List (CompareOp × Expr)} {a : Ty} (first : HasSort old Γ e a)
      (chain : Compares old Γ a rest) : HasSort old Γ (.compare e rest) .bool
  | ifElse {Γ : Typing} {c l r : Expr} {a b : Ty} (test : HasSort old Γ c .bool) (body : HasSort old Γ l a)
      (other : HasSort old Γ r b) : HasSort old Γ (.ifElse c l r) (a.join b)
  | old {Γ before : Typing} {e : Expr} {ty : Ty} (allowed : old = some before) (operand : HasSort old before e ty) :
      HasSort old Γ (.call (.name "old") [e] false) ty
  | helper {Γ : Typing} {function : String} {es : List Expr} {tys : List Ty} {ty : Ty}
      (args : HaveSorts old Γ es tys) (takes : helperSort? function tys = some ty) :
      HasSort old Γ (.call (.name function) es false) ty
inductive HaveSorts (old : Option Typing) : Typing → List Expr → List Ty → Prop
  | nil {Γ : Typing} : HaveSorts old Γ [] []
  | cons {Γ : Typing} {e : Expr} {ty : Ty} {es : List Expr} {tys : List Ty} (head : HasSort old Γ e ty)
      (tail : HaveSorts old Γ es tys) : HaveSorts old Γ (e :: es) (ty :: tys)
inductive Compares (old : Option Typing) : Typing → Ty → List (CompareOp × Expr) → Prop
  | nil {Γ : Typing} {a : Ty} : Compares old Γ a []
  | cons {Γ : Typing} {op : CompareOp} {e : Expr} {a b : Ty} {rest : List (CompareOp × Expr)}
      (operand : HasSort old Γ e b) (admits : op.admits a b = true) (tail : Compares old Γ b rest) :
      Compares old Γ a ((op, e) :: rest)
end

mutual
def Expr.Writable : Expr → Prop
  | .constant (.int n) => Text.exceedsDigits n = false
  | .constant _ => True
  | .name _ => True
  | .field _ _ => True
  | .unary _ operand => operand.Writable
  | .binary _ left right => left.Writable ∧ right.Writable
  | .bool _ operands => AllWritable operands
  | .compare first rest => first.Writable ∧ ChainWritable rest
  | .ifElse test body other => test.Writable ∧ body.Writable ∧ other.Writable
  | .call _ args _ => AllWritable args
  | .other _ parts => AllWritable parts
def AllWritable : List Expr → Prop
  | [] => True
  | e :: rest => e.Writable ∧ AllWritable rest
def ChainWritable : List (CompareOp × Expr) → Prop
  | [] => True
  | (_, e) :: rest => e.Writable ∧ ChainWritable rest
end

/-! ## Operators have terms where their tables have sorts -/

def sortOfTerm? {ε : Type} (r : Except ε SomeTerm) : Option Ty := r.toOption.map (·.ty)

@[simp] theorem sortOfTerm?_ok {ε : Type} (t : SomeTerm) : sortOfTerm? (.ok t : Except ε SomeTerm) = some t.ty := rfl

@[simp] theorem sortOfTerm?_error {ε : Type} (err : ε) : sortOfTerm? (.error err) = none := rfl

theorem sortOfTerm?_eq_some {ε : Type} {r : Except ε SomeTerm} {ty : Ty} :
    sortOfTerm? r = some ty ↔ ∃ t, r = .ok t ∧ t.ty = ty := by
  cases r <;> simp

@[simp] theorem sortOfTerm?_ofOperands (r : Except OperandError SomeTerm) :
    sortOfTerm? (ofOperands r) = sortOfTerm? r := by
  obtain (_ | _) | t := r <;> rfl

variable {a b c t : SomeTerm}

theorem BinaryOp.sort_apply (op : BinaryOp) (a b : SomeTerm) : sortOfTerm? (op.apply a b) = op.sort? a.ty b.ty := by
  obtain ⟨_ | _ | _, a⟩ := a <;> obtain ⟨_ | _ | _, b⟩ := b <;> cases op <;> rfl

theorem UnaryOp.sort_apply (op : UnaryOp) (a : SomeTerm) : sortOfTerm? (op.apply a) = op.sort? a.ty := by
  obtain ⟨_ | _ | _, a⟩ := a <;> cases op <;> rfl

theorem CompareOp.sort_apply (op : CompareOp) (a b : SomeTerm) :
    sortOfTerm? (op.apply a b) = if op.admits a.ty b.ty then some .bool else none := by
  obtain ⟨_ | _ | _, a⟩ := a <;> obtain ⟨_ | _ | _, b⟩ := b <;> cases op <;> rfl

theorem sort_ite (c a b : SomeTerm) :
    sortOfTerm? (c.ite a b) = if c.ty = .bool then some (a.ty.join b.ty) else none := by
  obtain ⟨_ | _ | _, c⟩ := c <;> obtain ⟨_ | _ | _, a⟩ := a <;> obtain ⟨_ | _ | _, b⟩ := b <;> rfl

theorem sort_applyHelper (function : String) (args : List SomeTerm) :
    sortOfTerm? (applyHelper function args) = helperSort? function (args.map (·.ty)) := by
  by_cases known : function ∈ ["implies", "abs", "min", "max"]
  · simp only [List.mem_cons, List.not_mem_nil, or_false] at known
    obtain rfl | rfl | rfl | rfl := known
    all_goals obtain _ | ⟨⟨_ | _ | _, a⟩, _ | ⟨⟨_ | _ | _, b⟩, _ | ⟨c, rest⟩⟩⟩ := args <;> rfl
  · simp only [List.mem_cons, List.not_mem_nil, or_false, not_or] at known
    obtain ⟨notImplies, notAbs, notMin, notMax⟩ := known
    simp [applyHelper, helperSort?, notImplies, notAbs, notMin, notMax]

theorem truths_cases (parts : List SomeTerm) :
    ((∀ t ∈ parts, t.ty = .bool) ∧ ∃ xs, parts.mapM SomeTerm.truth = .ok xs) ∨
      (∃ t ∈ parts, t.ty ≠ .bool) ∧ parts.mapM SomeTerm.truth = .error .illTyped := by
  induction parts with
  | nil => exact .inl ⟨nofun, [], rfl⟩
  | cons part rest ih =>
    rw [List.mapM_cons]
    obtain ⟨_ | k, x⟩ := part
    · obtain ⟨truths, xs, eq⟩ | ⟨⟨t, member, number⟩, eq⟩ := ih
      · refine .inl ⟨?_, x :: xs, ?_⟩
        · simpa using truths
        · rw [eq]
          rfl
      · refine .inr ⟨⟨t, List.mem_cons_of_mem _ member, number⟩, ?_⟩
        rw [eq]
        rfl
    · exact .inr ⟨⟨_, List.mem_cons_self, nofun⟩, rfl⟩

theorem sort_and (parts : List SomeTerm) :
    sortOfTerm? (SomeTerm.and parts) = if ∀ t ∈ parts, t.ty = .bool then some .bool else none := by
  obtain ⟨truths, xs, eq⟩ | ⟨⟨t, member, number⟩, eq⟩ := truths_cases parts
  · rw [SomeTerm.and, eq, if_pos truths]
    rfl
  · rw [SomeTerm.and, eq, if_neg fun truths => number (truths t member)]
    rfl

theorem sort_or (parts : List SomeTerm) :
    sortOfTerm? (SomeTerm.or parts) = if ∀ t ∈ parts, t.ty = .bool then some .bool else none := by
  obtain ⟨truths, xs, eq⟩ | ⟨⟨t, member, number⟩, eq⟩ := truths_cases parts
  · rw [SomeTerm.or, eq, if_pos truths]
    rfl
  · rw [SomeTerm.or, eq, if_neg fun truths => number (truths t member)]
    rfl

theorem BoolOp.sort_apply (op : BoolOp) (parts : List SomeTerm) :
    sortOfTerm? (op.apply parts) = if ∀ t ∈ parts, t.ty = .bool then some .bool else none := by
  cases op with
  | and => rw [BoolOp.apply, sortOfTerm?_ofOperands, sort_and]
  | or => rw [BoolOp.apply, sortOfTerm?_ofOperands, sort_or]

theorem sort_joinComparisons {parts : List SomeTerm} (truths : ∀ t ∈ parts, t.ty = .bool) :
    sortOfTerm? (joinComparisons parts) = some .bool := by
  unfold joinComparisons
  split
  · rw [sortOfTerm?_ok, truths _ List.mem_cons_self]
  · rw [sortOfTerm?_ofOperands, sort_and, if_pos truths]

/-! ## Scopes -/

def Binding.kind : Binding → Kind
  | .value t => .value t.ty
  | .owner fields => .owner fun name => (fields.lookup name).map (·.ty)

def Scope.typing (scope : Scope) : Typing := fun name => (scope.find? name).map Binding.kind

theorem Scope.sort_value {scope : Scope} {name : String} {ty : Ty} :
    sortOfTerm? (scope.value name) = some ty ↔ scope.typing name = some (.value ty) := by
  unfold Scope.value Scope.typing
  cases scope.find? name with
  | none => simp
  | some b => cases b <;> simp [Binding.kind]

theorem Scope.sort_field {scope : Scope} {owner name : String} {ty : Ty} :
    sortOfTerm? (scope.field owner name) = some ty ↔
      ∃ fields, scope.typing owner = some (.owner fields) ∧ fields name = some ty := by
  unfold Scope.field Scope.typing
  cases scope.find? owner with
  | none => simp
  | some b =>
    cases b with
    | value t => simp [Binding.kind]
    | owner fields => cases found : fields.lookup name <;> simp [Binding.kind, found]

/-! ## Expressions -/

theorem Constant.sort_toTerm {old : Option Typing} {Γ : Typing} {c : Constant} {ty : Ty} :
    sortOfTerm? c.toTerm = some ty ↔ HasSort old Γ (.constant c) ty ∧ (Expr.constant c).Writable := by
  constructor
  · intro h
    cases c with
    | bool b =>
      cases h
      exact ⟨.truth, trivial⟩
    | int n =>
      simp only [Constant.toTerm] at h
      split at h
      · cases h
      · rename_i short
        cases h
        exact ⟨.whole, by simpa [Expr.Writable] using short⟩
    | float x =>
      simp only [Constant.toTerm] at h
      split at h
      · rename_i q shortest
        cases h
        exact ⟨.fraction ((Decimal.shortestValue?_isSome x).mp (by rw [shortest]; rfl)), trivial⟩
      · cases h
    | _ => cases h
  · rintro ⟨sorted, writable⟩
    cases sorted with
    | truth => rfl
    | whole =>
      simp only [Expr.Writable] at writable
      simp [Constant.toTerm, writable]
    | @fraction _ x finite =>
      obtain ⟨q, shortest⟩ := Option.isSome_iff_exists.mp ((Decimal.shortestValue?_isSome x).mpr finite)
      simp [Constant.toTerm, shortest]

mutual
theorem Expr.sort_of_toTerm (old : Option Scope) (scope : Scope) (e : Expr) (t : SomeTerm)
    (h : e.toTerm old scope = .ok t) :
    HasSort (old.map Scope.typing) scope.typing e t.ty ∧ e.Writable := by
  match e with
  | .constant c => exact Constant.sort_toTerm.mp (sortOfTerm?_eq_some.mpr ⟨t, h, rfl⟩)
  | .name id => exact ⟨.name (Scope.sort_value.mp (sortOfTerm?_eq_some.mpr ⟨t, h, rfl⟩)), trivial⟩
  | .field owner name =>
    obtain ⟨ownerName, rfl, h⟩ := Expr.toTerm_field h
    obtain ⟨fields, bound, has⟩ := Scope.sort_field.mp (sortOfTerm?_eq_some.mpr ⟨t, h, rfl⟩)
    exact ⟨.field bound has, trivial⟩
  | .unary op operand =>
    obtain ⟨a, operand_ok, h⟩ := bind_eq_ok.mp h
    obtain ⟨operand_sort, writable⟩ := Expr.sort_of_toTerm old scope operand a operand_ok
    have takes := op.sort_apply a
    rw [h] at takes
    exact ⟨.unary operand_sort takes.symm, writable⟩
  | .binary op left right =>
    obtain ⟨a, left_ok, h⟩ := bind_eq_ok.mp h
    obtain ⟨b, right_ok, h⟩ := bind_eq_ok.mp h
    obtain ⟨left_sort, left_writable⟩ := Expr.sort_of_toTerm old scope left a left_ok
    obtain ⟨right_sort, right_writable⟩ := Expr.sort_of_toTerm old scope right b right_ok
    have takes := op.sort_apply a b
    rw [h] at takes
    exact ⟨.binary left_sort right_sort takes.symm, left_writable, right_writable⟩
  | .bool op operands =>
    obtain ⟨parts, operands_ok, h⟩ := bind_eq_ok.mp h
    obtain ⟨operands_sorts, writable⟩ := sorts_of_toTerms old scope operands parts operands_ok
    have made := op.sort_apply parts
    rw [h, sortOfTerm?_ok] at made
    split at made
    · rename_i truths
      rw [Option.some_inj] at made
      rw [made]
      exact ⟨.bool operands_sorts (by simpa using truths), writable⟩
    · cases made
  | .compare first rest =>
    obtain ⟨a, first_ok, h⟩ := bind_eq_ok.mp h
    obtain ⟨parts, rest_ok, h⟩ := bind_eq_ok.mp h
    obtain ⟨first_sort, first_writable⟩ := Expr.sort_of_toTerm old scope first a first_ok
    obtain ⟨rest_compares, rest_writable, truths⟩ := compares_of_toComparisons old scope a rest parts rest_ok
    have made := sort_joinComparisons truths
    rw [h, sortOfTerm?_ok, Option.some_inj] at made
    rw [made]
    exact ⟨.compare first_sort rest_compares, first_writable, rest_writable⟩
  | .ifElse test body other =>
    obtain ⟨c, test_ok, h⟩ := bind_eq_ok.mp h
    obtain ⟨a, body_ok, h⟩ := bind_eq_ok.mp h
    obtain ⟨b, other_ok, h⟩ := bind_eq_ok.mp h
    obtain ⟨test_sort, test_writable⟩ := Expr.sort_of_toTerm old scope test c test_ok
    obtain ⟨body_sort, body_writable⟩ := Expr.sort_of_toTerm old scope body a body_ok
    obtain ⟨other_sort, other_writable⟩ := Expr.sort_of_toTerm old scope other b other_ok
    have made := sort_ite c a b
    rw [ofOperands_eq_ok h, sortOfTerm?_ok] at made
    split at made
    · rename_i truth
      rw [Option.some_inj] at made
      rw [made]
      exact ⟨.ifElse (truth ▸ test_sort) body_sort other_sort, test_writable, body_writable, other_writable⟩
    · cases made
  | .call callee args keywords =>
    obtain ⟨rfl, ⟨before, arg, rfl, rfl, rfl, h⟩ | ⟨function, ts, rfl, notOld, args_ok, h⟩⟩ := Expr.toTerm_call h
    · obtain ⟨arg_sort, writable⟩ := Expr.sort_of_toTerm (some before) before arg t h
      exact ⟨.old rfl arg_sort, writable, trivial⟩
    · obtain ⟨args_sorts, writable⟩ := sorts_of_toTerms old scope args ts args_ok
      have takes := sort_applyHelper function ts
      rw [h] at takes
      exact ⟨.helper args_sorts takes.symm, writable⟩
  | .other kind parts => simp [Expr.toTerm] at h
termination_by sizeOf e
theorem sorts_of_toTerms (old : Option Scope) (scope : Scope) (es : List Expr) (ts : List SomeTerm)
    (h : toTerms old scope es = .ok ts) :
    HaveSorts (old.map Scope.typing) scope.typing es (ts.map (·.ty)) ∧ AllWritable es := by
  match es with
  | [] =>
    cases h
    exact ⟨.nil, trivial⟩
  | e :: rest =>
    obtain ⟨t, head_ok, h⟩ := bind_eq_ok.mp h
    obtain ⟨us, rest_ok, made⟩ := bind_eq_ok.mp h
    cases made
    obtain ⟨head_sort, head_writable⟩ := Expr.sort_of_toTerm old scope e t head_ok
    obtain ⟨rest_sorts, rest_writable⟩ := sorts_of_toTerms old scope rest us rest_ok
    exact ⟨.cons head_sort rest_sorts, head_writable, rest_writable⟩
termination_by sizeOf es
theorem compares_of_toComparisons (old : Option Scope) (scope : Scope) (a : SomeTerm) (rest : List (CompareOp × Expr))
    (parts : List SomeTerm) (h : toComparisons old scope a rest = .ok parts) :
    Compares (old.map Scope.typing) scope.typing a.ty rest ∧ ChainWritable rest ∧ ∀ t ∈ parts, t.ty = .bool := by
  match rest with
  | [] =>
    cases h
    exact ⟨.nil, trivial, nofun⟩
  | (op, e) :: rest =>
    obtain ⟨b, operand_ok, h⟩ := bind_eq_ok.mp h
    obtain ⟨part, part_ok, h⟩ := bind_eq_ok.mp h
    obtain ⟨others, rest_ok, made⟩ := bind_eq_ok.mp h
    cases made
    obtain ⟨operand_sort, operand_writable⟩ := Expr.sort_of_toTerm old scope e b operand_ok
    obtain ⟨rest_compares, rest_writable, truths⟩ := compares_of_toComparisons old scope b rest others rest_ok
    have compared := op.sort_apply a b
    rw [part_ok, sortOfTerm?_ok] at compared
    split at compared
    · rename_i admits
      refine ⟨.cons operand_sort admits rest_compares, ⟨operand_writable, rest_writable⟩, ?_⟩
      exact List.forall_mem_cons.mpr ⟨Option.some_inj.mp compared, truths⟩
    · cases compared
termination_by sizeOf rest
end

mutual
theorem HasSort.toTerm (old : Option Scope) (scope : Scope) (e : Expr) (ty : Ty)
    (h : HasSort (old.map Scope.typing) scope.typing e ty) (writable : e.Writable) :
    ∃ t, e.toTerm old scope = .ok t ∧ t.ty = ty := by
  match e with
  | .constant c => exact sortOfTerm?_eq_some.mp (Constant.sort_toTerm.mpr ⟨h, writable⟩)
  | .name id =>
    cases h with
    | name bound => exact sortOfTerm?_eq_some.mp (Scope.sort_value.mpr bound)
  | .field owner name =>
    cases h with
    | field bound has => exact sortOfTerm?_eq_some.mp (Scope.sort_field.mpr ⟨_, bound, has⟩)
  | .unary op operand =>
    cases h with
    | unary operand_sort takes =>
      obtain ⟨a, operand_ok, rfl⟩ := HasSort.toTerm old scope operand _ operand_sort writable
      rw [Expr.toTerm, operand_ok, ok_bind]
      exact sortOfTerm?_eq_some.mp ((op.sort_apply a).trans takes)
  | .binary op left right =>
    cases h with
    | binary left_sort right_sort takes =>
      obtain ⟨a, left_ok, rfl⟩ := HasSort.toTerm old scope left _ left_sort writable.1
      obtain ⟨b, right_ok, rfl⟩ := HasSort.toTerm old scope right _ right_sort writable.2
      rw [Expr.toTerm, left_ok, ok_bind, right_ok, ok_bind]
      exact sortOfTerm?_eq_some.mp ((op.sort_apply a b).trans takes)
  | .bool op operands =>
    cases h with
    | bool operands_sorts truths =>
      obtain ⟨parts, operands_ok, rfl⟩ := HaveSorts.toTerms old scope operands _ operands_sorts writable
      rw [Expr.toTerm, operands_ok, ok_bind]
      refine sortOfTerm?_eq_some.mp ((op.sort_apply parts).trans (if_pos ?_))
      simpa using truths
  | .compare first rest =>
    cases h with
    | compare first_sort rest_compares =>
      obtain ⟨a, first_ok, rfl⟩ := HasSort.toTerm old scope first _ first_sort writable.1
      obtain ⟨parts, rest_ok⟩ := Compares.toComparisons old scope a rest rest_compares writable.2
      obtain ⟨-, -, truths⟩ := compares_of_toComparisons old scope a rest parts rest_ok
      rw [Expr.toTerm, first_ok, ok_bind, rest_ok, ok_bind]
      exact sortOfTerm?_eq_some.mp (sort_joinComparisons truths)
  | .ifElse test body other =>
    cases h with
    | ifElse test_sort body_sort other_sort =>
      obtain ⟨c, test_ok, truth⟩ := HasSort.toTerm old scope test _ test_sort writable.1
      obtain ⟨a, body_ok, rfl⟩ := HasSort.toTerm old scope body _ body_sort writable.2.1
      obtain ⟨b, other_ok, rfl⟩ := HasSort.toTerm old scope other _ other_sort writable.2.2
      rw [Expr.toTerm, test_ok, ok_bind, body_ok, ok_bind, other_ok, ok_bind]
      refine sortOfTerm?_eq_some.mp ?_
      rw [sortOfTerm?_ofOperands, sort_ite, if_pos truth]
  | .call callee args keywords =>
    cases h with
    | old allowed operand_sort =>
      obtain ⟨before, rfl, rfl⟩ := Option.map_eq_some_iff.mp allowed
      rw [Expr.toTerm.eq_def]
      exact HasSort.toTerm (some before) before _ ty operand_sort writable.1
    | helper args_sorts takes =>
      rename_i function _
      obtain ⟨ts, args_ok, rfl⟩ := HaveSorts.toTerms old scope args _ args_sorts writable
      have notOld : function ≠ "old" := by
        rintro rfl
        simp [helperSort?] at takes
      rw [Expr.toTerm.eq_def]
      simp only [notOld, if_false, args_ok, ok_bind]
      exact sortOfTerm?_eq_some.mp ((sort_applyHelper function ts).trans takes)
  | .other kind parts => cases h
termination_by sizeOf e
theorem HaveSorts.toTerms (old : Option Scope) (scope : Scope) (es : List Expr) (tys : List Ty)
    (h : HaveSorts (old.map Scope.typing) scope.typing es tys) (writable : AllWritable es) :
    ∃ ts, Clause.toTerms old scope es = .ok ts ∧ ts.map (·.ty) = tys := by
  match es with
  | [] =>
    cases h with
    | nil => exact ⟨[], rfl, rfl⟩
  | e :: rest =>
    cases h with
    | cons head_sort rest_sorts =>
      obtain ⟨t, head_ok, rfl⟩ := HasSort.toTerm old scope e _ head_sort writable.1
      obtain ⟨ts, rest_ok, rfl⟩ := HaveSorts.toTerms old scope rest _ rest_sorts writable.2
      refine ⟨t :: ts, ?_, rfl⟩
      rw [Clause.toTerms, head_ok, ok_bind, rest_ok]
      rfl
termination_by sizeOf es
theorem Compares.toComparisons (old : Option Scope) (scope : Scope) (a : SomeTerm) (rest : List (CompareOp × Expr))
    (h : Compares (old.map Scope.typing) scope.typing a.ty rest) (writable : ChainWritable rest) :
    ∃ parts, Clause.toComparisons old scope a rest = .ok parts := by
  match rest with
  | [] => exact ⟨[], rfl⟩
  | (op, e) :: rest =>
    cases h with
    | cons operand_sort admits tail =>
      obtain ⟨b, operand_ok, rfl⟩ := HasSort.toTerm old scope e _ operand_sort writable.1
      obtain ⟨part, part_ok, -⟩ := sortOfTerm?_eq_some.mp ((op.sort_apply a b).trans (if_pos admits))
      obtain ⟨parts, rest_ok⟩ := Compares.toComparisons old scope b rest tail writable.2
      refine ⟨part :: parts, ?_⟩
      rw [Clause.toComparisons, operand_ok, ok_bind, part_ok, ok_bind, rest_ok]
      rfl
termination_by sizeOf rest
end

end Clause

end Covenant
