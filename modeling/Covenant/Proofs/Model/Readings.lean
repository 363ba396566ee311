import Covenant.Proofs.Model.Spelling

namespace Covenant.Clause

def Scope.read (scope : Scope) : Spelling → Except Error SomeTerm
  | .bare name => scope.value name
  | .member owner field => scope.field owner field

mutual
/-- The names and fields that are looked up in the current scope. What stands below `old` is looked up elsewhere, and
the parts of an expression that is refused as it stands are not looked at. -/
def Expr.readings : Expr → List Spelling
  | .constant _ => []
  | .name id => [.bare id]
  | .field (.name owner) field => [.member owner field]
  | .field _ _ => []
  | .unary _ operand => operand.readings
  | .binary _ left right => left.readings ++ right.readings
  | .bool _ operands => allReadings operands
  | .compare first rest => first.readings ++ chainReadings rest
  | .ifElse test body other => test.readings ++ (body.readings ++ other.readings)
  | .call (.name function) args false => if function = "old" then [] else allReadings args
  | .call _ _ _ => []
  | .other _ _ => []
def allReadings : List Expr → List Spelling
  | [] => []
  | e :: rest => e.readings ++ allReadings rest
def chainReadings : List (CompareOp × Expr) → List Spelling
  | [] => []
  | (_, e) :: rest => e.readings ++ chainReadings rest
end

def Scope.Alike (scope scope' : Scope) : Prop := ∀ r, scope.read r = scope'.read r

theorem Scope.Alike.refl (scope : Scope) : scope.Alike scope := fun _ => rfl

theorem Expr.toTerm_old_call (old : Option Scope) (scope : Scope) (args : List Expr) :
    (Expr.call (.name "old") args false).toTerm old scope =
      match old, args with
      | none, _ => .error .oldOutside
      | some before, [arg] => arg.toTerm old before
      | some _, args => .error (.arity "old" 1 args.length) := by
  rw [Expr.toTerm.eq_def]
  cases old with
  | none => rfl
  | some before => rcases args with _ | ⟨_, _ | ⟨_, _⟩⟩ <;> rfl

theorem Expr.toTerm_helper_call (old : Option Scope) (scope : Scope) {function : String} (notOld : function ≠ "old")
    (args : List Expr) :
    (Expr.call (.name function) args false).toTerm old scope = toTerms old scope args >>= applyHelper function := by
  rw [Expr.toTerm.eq_def]
  simp only [notOld, if_false]

theorem Expr.readings_helper_call {function : String} (notOld : function ≠ "old") (args : List Expr) :
    (Expr.call (.name function) args false).readings = allReadings args := by
  rw [Expr.readings.eq_def]
  simp only [notOld, if_false]

mutual
theorem Expr.toTerm_congr {old old' : Option Scope} (older : Option.Rel Scope.Alike old old') {scope scope' : Scope}
    (e : Expr) (now : ∀ r ∈ e.readings, scope.read r = scope'.read r) : e.toTerm old scope = e.toTerm old' scope' := by
  match e with
  | .constant c => simp only [Expr.toTerm]
  | .name id => exact now (.bare id) (List.mem_singleton.mpr rfl)
  | .field owner field =>
    cases owner with
    | name id => exact now (.member id field) (List.mem_singleton.mpr rfl)
    | _ => simp only [Expr.toTerm]
  | .unary op operand =>
    simp only [Expr.toTerm]
    rw [Expr.toTerm_congr older operand now]
  | .binary op left right =>
    simp only [Expr.readings, List.forall_mem_append] at now
    simp only [Expr.toTerm]
    rw [Expr.toTerm_congr older left now.1, Expr.toTerm_congr older right now.2]
  | .bool op operands =>
    simp only [Expr.toTerm]
    rw [toTerms_congr older operands now]
  | .compare first rest =>
    simp only [Expr.readings, List.forall_mem_append] at now
    simp only [Expr.toTerm]
    rw [Expr.toTerm_congr older first now.1]
    congr 1
    funext a
    rw [toComparisons_congr older a rest now.2]
  | .ifElse test body other =>
    simp only [Expr.readings, List.forall_mem_append] at now
    simp only [Expr.toTerm]
    rw [Expr.toTerm_congr older test now.1, Expr.toTerm_congr older body now.2.1,
      Expr.toTerm_congr older other now.2.2]
  | .call callee args true => cases callee <;> simp only [Expr.toTerm]
  | .call callee args false =>
    cases callee with
    | name function =>
      by_cases isOld : function = "old"
      · -- the argument is read in the old scopes, which are alike in everything
        subst isOld
        rw [Expr.toTerm_old_call, Expr.toTerm_old_call]
        cases older with
        | none => rfl
        | some before =>
          by_cases single : ∃ arg, args = [arg]
          · obtain ⟨arg, rfl⟩ := single
            exact Expr.toTerm_congr (.some before) arg fun r _ => before r
          · rcases args with _ | ⟨arg, _ | ⟨second, others⟩⟩
            · rfl
            · exact absurd ⟨arg, rfl⟩ single
            · rfl
      · rw [Expr.readings_helper_call isOld] at now
        rw [Expr.toTerm_helper_call _ _ isOld, Expr.toTerm_helper_call _ _ isOld, toTerms_congr older args now]
    | _ => simp only [Expr.toTerm]
  | .other kind parts => simp only [Expr.toTerm]
termination_by sizeOf e
theorem toTerms_congr {old old' : Option Scope} (older : Option.Rel Scope.Alike old old') {scope scope' : Scope}
    (es : List Expr) (now : ∀ r ∈ allReadings es, scope.read r = scope'.read r) :
    toTerms old scope es = toTerms old' scope' es := by
  match es with
  | [] => simp only [toTerms]
  | e :: rest =>
    simp only [allReadings, List.forall_mem_append] at now
    simp only [toTerms]
    rw [Expr.toTerm_congr older e now.1, toTerms_congr older rest now.2]
termination_by sizeOf es
theorem toComparisons_congr {old old' : Option Scope} (older : Option.Rel Scope.Alike old old')
    {scope scope' : Scope} (a : SomeTerm) (rest : List (CompareOp × Expr))
    (now : ∀ r ∈ chainReadings rest, scope.read r = scope'.read r) :
    toComparisons old scope a rest = toComparisons old' scope' a rest := by
  match rest with
  | [] => simp only [toComparisons]
  | (op, e) :: rest =>
    simp only [chainReadings, List.forall_mem_append] at now
    simp only [toComparisons]
    rw [Expr.toTerm_congr older e now.1]
    congr 1
    funext b
    rw [toComparisons_congr older b rest now.2]
termination_by sizeOf rest
end

/-! ## Texts -/

structure Context.Alike (context context' : Context) : Prop where
  current : context.current.Alike context'.current
  old : Option.Rel Scope.Alike context.old context'.old

theorem Context.Alike.term {context context' : Context} (h : context.Alike context') (text : String) :
    context.term text = context'.term text := by
  unfold Context.term
  cases parse text with
  | none => rfl
  | some e =>
    simp only
    rw [Expr.toTerm_congr h.old e fun r _ => h.current r]

theorem Context.Alike.boolTerm {context context' : Context} (h : context.Alike context') (text : String) :
    context.boolTerm text = context'.boolTerm text := by
  unfold Context.boolTerm
  rw [h.term]

end Covenant.Clause

/-! ## Frames -/

namespace Covenant.Frame

open Clause (Error Scope)

def value? (f : Frame) (name : String) : Option SomeTerm :=
  (f.params.lookup name).or ((f.fields.lookup name).or (f.statics.lookup name))

def members? (f : Frame) (isStatic : Bool) (simpleName owner : String) : Option Terms :=
  if owner = simpleName then some f.statics
  else if owner = "this" ∧ isStatic = false then some f.fields
  else if (f.value? owner).isSome then none
  else f.owners.lookup owner

def reading (f : Frame) (isStatic : Bool) (simpleName : String) : Spelling → Except Error SomeTerm
  | .bare name =>
    if (f.members? isStatic simpleName name).isSome then .error (.notAValue name)
    else match f.value? name with
      | some t => .ok t
      | none => .error (.unknownName name)
  | .member owner field =>
    match f.members? isStatic simpleName owner with
    | some members =>
      match members.lookup field with
      | some t => .ok t
      | none => .error (.unknownField owner field)
    | none => .error (.noFields owner)

theorem read_scope {f : Frame} (distinct : f.Distinct) (isStatic : Bool) (simpleName : String) (r : Spelling) :
    (f.scope isStatic simpleName).read r = f.reading isStatic simpleName r := by
  have found (name : String) : (f.scope isStatic simpleName).find? name =
      ((f.members? isStatic simpleName name).map .owner).or ((f.value? name).map .value) := by
    rw [Frame.find?_scope distinct, members?]
    split
    · rfl
    · split
      · rfl
      · rw [← value?]
        cases f.value? name with
        | some t => rfl
        | none => simp
  cases r with
  | bare name =>
    simp only [Scope.read, Scope.value, found, reading]
    cases f.members? isStatic simpleName name with
    | some members => rfl
    | none => cases f.value? name <;> rfl
  | member owner field =>
    simp only [Scope.read, Scope.field, found, reading]
    cases f.members? isStatic simpleName owner with
    | some members => rfl
    | none => cases f.value? owner <;> rfl

end Covenant.Frame

namespace Covenant

open Clause (Scope)

def Spelling.first : Spelling → String
  | bare name => name
  | member owner _ => owner

theorem Clause.Scope.read_of_find? {scope scope' : Scope} {r : Spelling}
    (same : scope.find? r.first = scope'.find? r.first) : scope.read r = scope'.read r := by
  cases r with
  | bare name =>
    change scope.find? name = scope'.find? name at same
    simp only [Scope.read, Scope.value, same]
  | member owner field =>
    change scope.find? owner = scope'.find? owner at same
    simp only [Scope.read, Scope.field, same]

theorem find?_withResult (scope : Scope) (result : Option SomeTerm) (name : String) :
    (withResult scope result).find? name =
      if name = "result" ∧ result.isSome then result.map .value else scope.find? name := by
  cases result with
  | none => simp [withResult]
  | some t => simp [withResult, Scope.find?_bind]

theorem read_withResult (scope : Scope) (result : Option SomeTerm) (r : Spelling) :
    (withResult scope result).read r =
      if r.first = "result" ∧ result.isSome then (withResult Scope.empty result).read r else scope.read r := by
  split
  · rename_i hidden
    apply Scope.read_of_find?
    rw [find?_withResult, find?_withResult, if_pos hidden, if_pos hidden]
  · rename_i visible
    apply Scope.read_of_find?
    rw [find?_withResult, if_neg visible]

end Covenant
