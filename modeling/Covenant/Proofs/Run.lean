import Covenant.Desk

namespace Covenant

section

variable {σ τ α β : Type}

/-- How an action ends in a world: with a result or a fault, and in a world. -/
abbrev Run.ends (x : Run σ α) (s : σ) : Except Fault α × σ := x.run.run s

theorem ends_bind (x : Run σ α) (f : α → Run σ β) (s : σ) :
    (x >>= f).ends s =
      match x.ends s with
      | (.ok a, t) => (f a).ends t
      | (.error fault, t) => (.error fault, t) := by
  simp only [Run.ends, ExceptT.run_bind, StateT.run_bind]
  cases x.run.run s with
  | mk r t => cases r <;> rfl

@[simp] theorem ends_pure (a : α) (s : σ) : (pure a : Run σ α).ends s = (.ok a, s) := rfl
@[simp] theorem ends_throw (f : Fault) (s : σ) : (throw f : Run σ α).ends s = (.error f, s) := rfl
@[simp] theorem ends_get (s : σ) : (get : Run σ σ).ends s = (.ok s, s) := rfl
@[simp] theorem ends_set (s t : σ) : (set t : Run σ PUnit).ends s = (.ok ⟨⟩, t) := rfl
@[simp] theorem ends_modify (f : σ → σ) (s : σ) : (modify f : Run σ PUnit).ends s = (.ok ⟨⟩, f s) := rfl

@[simp] theorem ends_check (r : Except Fault α) (desk : Desk τ) : (Desk.check r).ends desk = (r, desk) := by
  cases r <;> rfl

@[simp] theorem ends_onLog (act : Run Log α) (desk : Desk τ) :
    (Desk.onLog act).ends desk = ((act.ends desk.log).1, { desk with log := (act.ends desk.log).2 }) := by
  have ran : StateT.run (ExceptT.run act) desk.log = act.ends desk.log := rfl
  simp only [Desk.onLog, ends_bind, ends_get, ran]
  cases act.ends desk.log with
  | mk r log => cases r <;> rfl

theorem ends_tryCatch (x : Run σ α) (handler : Fault → Run σ α) (s : σ) :
    (tryCatch x handler).ends s =
      match x.ends s with
      | (.ok a, t) => (.ok a, t)
      | (.error fault, t) => (handler fault).ends t := by
  simp only [Run.ends, tryCatch, tryCatchThe, MonadExceptOf.tryCatch, ExceptT.tryCatch, ExceptT.run, ExceptT.mk,
    StateT.run_bind]
  cases StateT.run x s with
  | mk r t => cases r <;> rfl

theorem ends_bind_ok {x : Run σ α} {f : α → Run σ β} {a : α} {s t : σ} (h : x.ends s = (.ok a, t)) :
    (x >>= f).ends s = (f a).ends t := by
  rw [ends_bind, h]

theorem ends_bind_error {x : Run σ α} {f : α → Run σ β} {fault : Fault} {s t : σ} (h : x.ends s = (.error fault, t)) :
    (x >>= f).ends s = (.error fault, t) := by
  rw [ends_bind, h]

theorem ends_bind_eq_ok {x : Run σ α} {f : α → Run σ β} {b : β} {s u : σ} :
    (x >>= f).ends s = (.ok b, u) ↔ ∃ a t, x.ends s = (.ok a, t) ∧ (f a).ends t = (.ok b, u) := by
  rw [ends_bind]
  cases x.ends s with
  | mk r t =>
    cases r with
    | error fault => simp
    | ok a =>
      constructor
      · intro h
        exact ⟨a, t, rfl, h⟩
      · rintro ⟨_, _, ⟨⟩, h⟩
        exact h

theorem run_check {r : Except Fault α} {a : α} (h : r = .ok a) (desk : Desk τ) :
    (Desk.check r).run.run desk = (.ok a, desk) := by
  rw [h]
  rfl

end

/-! ## Terminals -/

section

variable {σ τ α β : Type} [Terminal]

def Terminal.Refuses (f : Fault) : Prop := ∃ channel text, Terminal.fault? channel text = some f

def Terminal.Stops (r : Except Fault α) : Prop := ∃ f, r = .error f ∧ Terminal.Refuses f

theorem Terminal.Refuses.kind_eq {f : Fault} (h : Terminal.Refuses f) : f.kind = .value ∨ f.kind = .system := by
  obtain ⟨channel, text, refused⟩ := h
  exact Terminal.kind_eq channel text f refused

theorem Terminal.Stops.split {x : Run σ α} {s : σ} (h : Terminal.Stops (x.ends s).1) :
    ∃ f t, x.ends s = (.error f, t) ∧ Terminal.Refuses f := by
  obtain ⟨f, stopped, refused⟩ := h
  exact ⟨f, _, Prod.ext stopped rfl, refused⟩

/-- The action has the given result and leaves the given world, unless the terminal stops it. -/
def Run.Gives (x : Run σ α) (a : α) (s t : σ) : Prop := x.ends s = (.ok a, t) ∨ Terminal.Stops (x.ends s).1

namespace Run.Gives

variable {s t u : σ}

theorem of_ends {x : Run σ α} {a : α} (h : x.ends s = (.ok a, t)) : x.Gives a s t := .inl h

theorem bind {x : Run σ α} {f : α → Run σ β} {a : α} {b : β} (first : x.Gives a s t) (next : (f a).Gives b t u) :
    (x >>= f).Gives b s u := by
  rcases first with ended | stopped
  · rw [Run.Gives, ends_bind_ok ended]
    exact next
  · obtain ⟨fault, _, stopped, refused⟩ := stopped.split
    exact .inr ⟨fault, by rw [ends_bind_error stopped], refused⟩

theorem onLog {act : Run Log α} {a : α} {desk : Desk τ} {log : Log} (h : act.Gives a desk.log log) :
    (Desk.onLog act).Gives a desk { desk with log := log } := by
  rcases h with ended | stopped
  · exact .inl (by rw [ends_onLog, ended])
  · exact .inr (by rwa [ends_onLog])

end Run.Gives

end

theorem Terminal.not_stops {α : Type} (r : Except Fault α) : ¬ Terminal.Stops r := by
  rintro ⟨f, -, channel, text, refused⟩
  cases refused

theorem Run.Gives.ends_eq {σ α : Type} {x : Run σ α} {a : α} {s t : σ} (h : x.Gives a s t) : x.ends s = (.ok a, t) :=
  h.resolve_right (Terminal.not_stops _)

end Covenant
