import Covenant.Proofs.Verifier.Delivery

namespace Covenant

variable {σ τ μ ω α β : Type}

/-! ## Actions on two worlds -/

def Run.Agree (R : σ → σ → Prop) (p q : Except Fault α × σ) : Prop := p.1 = q.1 ∧ R p.2 q.2

theorem Run.Agree.split {R : σ → σ → Prop} {p q : Except Fault α × σ} (h : Run.Agree R p q) :
    ∃ r s t, p = (r, s) ∧ q = (r, t) ∧ R s t :=
  ⟨p.1, p.2, q.2, rfl, Prod.ext h.1.symm rfl, h.2⟩

section

variable [Terminal]

/-- The two actions agree, unless the terminal stops one of them. -/
def Run.Matches (R : σ → σ → Prop) (p q : Except Fault α × σ) : Prop :=
  Run.Agree R p q ∨ Terminal.Stops p.1 ∨ Terminal.Stops q.1

def Run.Related (R : σ → σ → Prop) (x y : Run σ α) : Prop :=
  ∀ s t, R s t → Run.Matches R (x.ends s) (y.ends t)

theorem Terminal.Stops.bind {x : Run σ α} {s : σ} (h : Terminal.Stops (x.ends s).1) (f : α → Run σ β) :
    Terminal.Stops ((x >>= f).ends s).1 := by
  obtain ⟨fault, _, stopped, refused⟩ := h.split
  exact ⟨fault, by rw [ends_bind_error stopped], refused⟩

theorem Run.Matches.bind {R : σ → σ → Prop} {x y : Run σ α} {f g : α → Run σ β} {s t : σ}
    (first : Run.Matches R (x.ends s) (y.ends t)) (next : ∀ a, Run.Related R (f a) (g a)) :
    Run.Matches R ((x >>= f).ends s) ((y >>= g).ends t) := by
  rcases first with agree | stopped | stopped
  · obtain ⟨r, s', t', ended, ended', after⟩ := agree.split
    rw [ends_bind, ends_bind, ended, ended']
    cases r with
    | error fault => exact .inl ⟨rfl, after⟩
    | ok a => exact next a s' t' after
  · exact .inr (.inl (stopped.bind f))
  · exact .inr (.inr (stopped.bind g))

/-- A handler that does not take care of what the terminal refuses. -/
def Terminal.Passes (handler : Fault → Run σ α) : Prop :=
  ∀ f, Terminal.Refuses f → ∀ s, Terminal.Stops ((handler f).ends s).1

theorem Terminal.Stops.tryCatch {x : Run σ α} {s : σ} (h : Terminal.Stops (x.ends s).1) {handler : Fault → Run σ α}
    (passes : Terminal.Passes handler) : Terminal.Stops ((tryCatch x handler).ends s).1 := by
  obtain ⟨f, t, stopped, refused⟩ := h.split
  rw [ends_tryCatch, stopped]
  exact passes f refused t

namespace Run.Related

variable {R : σ → σ → Prop}

theorem pure (a : α) : Run.Related R (pure a) (pure a) := fun _ _ related => .inl ⟨rfl, related⟩

theorem throw (f : Fault) : Run.Related R (throw f : Run σ α) (throw f) := fun _ _ related => .inl ⟨rfl, related⟩

theorem bind {x y : Run σ α} {f g : α → Run σ β} (first : Run.Related R x y) (next : ∀ a, Run.Related R (f a) (g a)) :
    Run.Related R (x >>= f) (y >>= g) :=
  fun s t related => (first s t related).bind next

theorem tryCatch {x y : Run σ α} {f g : Fault → Run σ α} (first : Run.Related R x y)
    (handled : ∀ fault, Run.Related R (f fault) (g fault)) (passes : Terminal.Passes f) (passes' : Terminal.Passes g) :
    Run.Related R (tryCatch x f) (tryCatch y g) := by
  intro s t related
  rcases first s t related with agree | stopped | stopped
  · obtain ⟨r, s', t', ended, ended', after⟩ := agree.split
    rw [ends_tryCatch, ends_tryCatch, ended, ended']
    cases r with
    | error fault => exact handled fault s' t' after
    | ok a => exact .inl ⟨rfl, after⟩
  · exact .inr (.inl (stopped.tryCatch passes))
  · exact .inr (.inr (stopped.tryCatch passes'))

theorem of_gives {x : Run σ α} {a : α} {next : σ → σ} (gives : ∀ s, x.Gives a s (next s))
    (kept : ∀ s t, R s t → R (next s) (next t)) : Run.Related R x x := by
  intro s t related
  rcases gives s with ended | stopped
  · rcases gives t with ended' | stopped'
    · rw [ended, ended']
      exact .inl ⟨rfl, kept s t related⟩
    · exact .inr (.inr stopped')
  · exact .inr (.inl stopped)

end Run.Related

end

/-! ## Engines that give the same answers -/

def KeptBySaying (R : Desk τ → Desk τ → Prop) : Prop :=
  ∀ talk : Nat → List Output, (∀ indent, ∀ o ∈ talk indent, o.isText = false) → ∀ d d', R d d' →
    R { d with log := d.log.heard (talk d.log.indent) } { d' with log := d'.log.heard (talk d'.log.indent) }

theorem View.keptBySaying (view : View τ ω) : KeptBySaying fun d d' => view.look d = view.look d' := by
  intro talk _ d d' same
  rw [view.quiet d, view.quiet d', same]

theorem View.keptBySaying_still (view : View τ ω) (seen : ω) :
    KeptBySaying fun d d' => d = d' ∧ view.look d = seen := by
  rintro talk _ d _ ⟨rfl, still⟩
  exact ⟨rfl, (view.quiet _ _).trans still⟩

namespace Engine

variable [Terminal]

structure Related (R : Desk τ → Desk τ → Prop) (e e' : Engine τ μ) : Prop where
  analyze : ∀ s configuration, Run.Related R (e.analyze s configuration) (e'.analyze s configuration)
  snapshot : ∀ m context className methodId,
    Run.Related R (e.snapshot m context className methodId) (e'.snapshot m context className methodId)

def Alike (view : View τ ω) (e e' : Engine τ μ) : Prop := Related (fun d d' => view.look d = view.look d') e e'

variable {R : Desk τ → Desk τ → Prop} {e e' : Engine τ μ}

theorem related_say (kept : KeptBySaying R) (level : Level) (message : String) :
    Run.Related R (Desk.say level message) (Desk.say level message) := by
  refine .of_gives (fun d => (Log.say_gives level message d.log).onLog) ?_
  exact kept (fun indent => [.entry level indent message]) (by simp [Output.isText])

theorem related_announce (kept : KeptBySaying R) (subject : Subject) (request : Request) :
    Run.Related R (Verifier.announce subject request) (Verifier.announce subject request) := by
  refine .of_gives (Verifier.announce_gives subject request) ?_
  exact kept (Verifier.announcement subject request) (Verifier.said_announcement subject request)

theorem Related.interpret (h : e.Related R e') (s : Session μ) (configuration : Mapping) :
    Run.Related R (e.interpret s configuration) (e'.interpret s configuration) := by
  refine .tryCatch (.bind (h.analyze s configuration) fun answer => .pure _) (fun f => ?_) ?_ ?_
  · cases f.kind.doubt? with
    | none => exact .throw f
    | some doubt => exact .pure _
  -- what the terminal refuses is no doubt of the engine
  all_goals
    intro f refused desk
    have undoubted : f.kind.doubt? = none := by
      rcases refused.kind_eq with kind | kind <;> rw [kind] <;> rfl
    simp only [undoubted, ends_throw]
    exact ⟨f, rfl, refused⟩

theorem Related.extract (h : e.Related R e') (model : Option μ) (context : Context) (className methodId : String) :
    Run.Related R (e.extract model context className methodId) (e'.extract model context className methodId) := by
  cases model with
  | none => exact .throw _
  | some m =>
    refine .bind (h.snapshot m context className methodId) fun shown => ?_
    cases shown.trace with
    | error f => exact .throw f
    | ok trace => exact .pure trace

theorem Related.traceOf (h : e.Related R e') (kept : KeptBySaying R) (s : Session μ) (subject : Subject)
    (outcome : Outcome μ) :
    Run.Related R (Verifier.traceOf ⟨e, []⟩ s subject outcome) (Verifier.traceOf ⟨e', []⟩ s subject outcome) := by
  unfold Verifier.traceOf
  cases outcome.verdict with
  | proved => exact .bind (related_say kept _ _) fun _ => .pure _
  | refuted model =>
    refine .bind (h.extract model _ _ _) fun trace => ?_
    exact .bind (related_say kept _ _) fun _ => .pure _
  | inconclusive doubt reason => exact .bind (related_say kept _ _) fun _ => .pure _

theorem Related.ask (h : e.Related R e') (kept : KeptBySaying R) (s : Session μ) (subject : Subject) :
    Run.Related R (e.ask s subject) (e'.ask s subject) := by
  refine .bind (related_announce kept subject s.request) fun _ => ?_
  refine .bind (h.interpret s _) fun outcome => ?_
  exact .bind (h.traceOf kept s subject outcome) fun trace => .pure _

end Engine

end Covenant
