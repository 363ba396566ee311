import Covenant.Proofs.Clause.Terms

namespace Covenant.Clause

mutual
def Expr.names : Expr → List String
  | .constant _ => []
  | .name id => [id]
  | .field owner _ => owner.names
  | .unary _ operand => operand.names
  | .binary _ left right => left.names ++ right.names
  | .bool _ operands => allNames operands
  | .compare first rest => first.names ++ chainNames rest
  | .ifElse test body other => test.names ++ (body.names ++ other.names)
  | .call _ args _ => allNames args
  | .other _ parts => allNames parts
def allNames : List Expr → List String
  | [] => []
  | e :: rest => e.names ++ allNames rest
def chainNames : List (CompareOp × Expr) → List String
  | [] => []
  | (_, e) :: rest => e.names ++ chainNames rest
end

variable {z : ZeroReading} {scope : Scope} {old : Option Environment} {env env' : Environment}

mutual
theorem Expr.value_congr {e : Expr} {t : SomeTerm} (h : e.toTerm none scope = .ok t)
    (agree : ∀ x ∈ e.names, env x = env' x) : e.value z old env = e.value z none env' := by
  match e with
  | .constant c => rfl
  | .name id =>
    have same := agree id (List.mem_singleton.mpr rfl)
    simp only [Expr.value, Environment.value?, same]
  | .field owner name =>
    obtain ⟨ownerName, rfl, -⟩ := Expr.toTerm_field h
    have same := agree ownerName (List.mem_singleton.mpr rfl)
    simp only [Expr.value, Environment.field?, same]
  | .unary op operand =>
    obtain ⟨a, operand_ok, -⟩ := bind_eq_ok.mp h
    simp only [Expr.value]
    rw [Expr.value_congr operand_ok agree]
  | .binary op left right =>
    obtain ⟨a, left_ok, h⟩ := bind_eq_ok.mp h
    obtain ⟨b, right_ok, -⟩ := bind_eq_ok.mp h
    simp only [Expr.names, List.forall_mem_append] at agree
    simp only [Expr.value]
    rw [Expr.value_congr left_ok agree.1, Expr.value_congr right_ok agree.2]
  | .bool op operands =>
    obtain ⟨parts, operands_ok, -⟩ := bind_eq_ok.mp h
    simp only [Expr.value]
    rw [values_congr operands_ok agree]
  | .compare first rest =>
    obtain ⟨a, first_ok, h⟩ := bind_eq_ok.mp h
    obtain ⟨parts, rest_ok, -⟩ := bind_eq_ok.mp h
    simp only [Expr.names, List.forall_mem_append] at agree
    simp only [Expr.value]
    rw [Expr.value_congr first_ok agree.1]
    congr 1
    funext v
    rw [chain_congr rest_ok agree.2]
  | .ifElse test body other =>
    obtain ⟨c, test_ok, h⟩ := bind_eq_ok.mp h
    obtain ⟨a, body_ok, h⟩ := bind_eq_ok.mp h
    obtain ⟨b, other_ok, -⟩ := bind_eq_ok.mp h
    simp only [Expr.names, List.forall_mem_append] at agree
    simp only [Expr.value]
    rw [Expr.value_congr test_ok agree.1, Expr.value_congr body_ok agree.2.1, Expr.value_congr other_ok agree.2.2]
  | .call callee args keywords =>
    obtain ⟨rfl, ⟨before, arg, rfl, absent, rfl, -⟩ | ⟨function, ts, rfl, notOld, args_ok, -⟩⟩ := Expr.toTerm_call h
    · cases absent
    · rw [Expr.value_helper _ _ _ _ notOld, Expr.value_helper _ _ _ _ notOld, values_congr args_ok agree]
  | .other kind parts => simp [Expr.toTerm] at h
termination_by sizeOf e
theorem values_congr {es : List Expr} {ts : List SomeTerm} (h : toTerms none scope es = .ok ts)
    (agree : ∀ x ∈ allNames es, env x = env' x) : values z old env es = values z none env' es := by
  match es with
  | [] => rfl
  | e :: rest =>
    obtain ⟨t, head_ok, h⟩ := bind_eq_ok.mp h
    obtain ⟨us, rest_ok, -⟩ := bind_eq_ok.mp h
    simp only [allNames, List.forall_mem_append] at agree
    simp only [values]
    rw [Expr.value_congr head_ok agree.1, values_congr rest_ok agree.2]
termination_by sizeOf es
theorem chain_congr {a : SomeTerm} {rest : List (CompareOp × Expr)} {parts : List SomeTerm} {v : SomeVal}
    (h : toComparisons none scope a rest = .ok parts) (agree : ∀ x ∈ chainNames rest, env x = env' x) :
    chain z old env v rest = chain z none env' v rest := by
  match rest with
  | [] => rfl
  | (op, e) :: rest =>
    obtain ⟨b, operand_ok, h⟩ := bind_eq_ok.mp h
    obtain ⟨part, -, h⟩ := bind_eq_ok.mp h
    obtain ⟨others, rest_ok, -⟩ := bind_eq_ok.mp h
    simp only [chainNames, List.forall_mem_append] at agree
    simp only [chain]
    rw [Expr.value_congr operand_ok agree.1]
    congr 1
    funext w
    rw [chain_congr rest_ok agree.2]
termination_by sizeOf rest
end

end Covenant.Clause
