import Covenant.Clause.Scope
import Covenant.Proofs.Basic

namespace Covenant.Clause.Scope

theorem find?_bind (scope : Scope) (name : String) (b : Binding) (x : String) :
    (scope.bind name b).find? x = if x = name then some b else scope.find? x := by
  induction scope with
  | nil => exact lookup_cons_eq name b [] x
  | cons entry rest ih =>
    obtain ⟨n, old⟩ := entry
    simp only [Scope.find?, Scope.bind] at ih ⊢
    split
    · rename_i same
      subst same
      rw [lookup_cons_eq, lookup_cons_eq]
      split <;> rfl
    · rename_i differs
      rw [lookup_cons_eq, lookup_cons_eq, ih]
      by_cases here : x = n
      · simp [here, differs]
      · simp [here]

theorem find?_bindValues (scope : Scope) (values : List (String × SomeTerm)) (x : String) :
    (scope.bindValues values).find? x = ((values.reverse.lookup x).map .value).or (scope.find? x) := by
  induction values generalizing scope with
  | nil => rfl
  | cons entry rest ih =>
    obtain ⟨n, t⟩ := entry
    have step : scope.bindValues ((n, t) :: rest) = (scope.bind n (.value t)).bindValues rest := rfl
    rw [step, ih, find?_bind, List.reverse_cons, List.lookup_append, lookup_cons_eq]
    cases rest.reverse.lookup x with
    | some u => rfl
    | none => by_cases here : x = n <;> simp [here]

theorem find?_bindNew (scope : Scope) (name : String) (b : Binding) (x : String) :
    (scope.bindNew name b).find? x = (scope.find? x).or (if x = name then some b else none) := by
  unfold bindNew
  split
  · rename_i bound
    by_cases here : x = name
    · subst here
      obtain ⟨c, found⟩ := Option.isSome_iff_exists.mp bound
      simp [found]
    · simp [here]
  · rename_i free
    rw [find?_bind]
    by_cases here : x = name
    · subst here
      simp [Option.not_isSome_iff_eq_none.mp free]
    · simp [here]

theorem find?_owners (scope : Scope) (owners : List (String × List (String × SomeTerm))) (x : String) :
    (owners.foldl (fun s (name, members) => s.bindNew name (.owner members)) scope).find? x =
      (scope.find? x).or ((owners.lookup x).map .owner) := by
  induction owners generalizing scope with
  | nil => simp
  | cons entry rest ih =>
    obtain ⟨n, members⟩ := entry
    rw [List.foldl_cons, ih, find?_bindNew, lookup_cons_eq]
    cases scope.find? x with
    | some b => rfl
    | none => by_cases here : x = n <;> simp [here]

end Covenant.Clause.Scope
