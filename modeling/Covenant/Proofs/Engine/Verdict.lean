import Covenant.Engine.Bounded
import Covenant.Proofs.Log
import Covenant.Proofs.Model.Finite
import Covenant.Proofs.Term.Search

namespace Covenant

/-! ## Reported values -/

def Value.Denotes : Value → (ty : Ty) → ty.Val → Prop
  | .bool b, .bool, v => v = b
  | .int n, .num .int, v => v = n
  | _, _, _ => False

def Assigns (values : List (String × Value)) (xs : List Variable) (i : Interpretation) : Prop :=
  ∀ x ∈ xs, ∃ v, values.lookup x.name = some v ∧ v.Denotes x.ty (i.var x.name x.ty)

def reported (i : Interpretation) (xs : List Variable) : List (String × Value) :=
  xs.map fun x => (x.name, (Search.solved x.ty (i.var x.name x.ty)).toValue)

theorem lookup_reported {i : Interpretation} {xs : List Variable} (distinct : (names xs).Nodup) {x : Variable}
    (member : x ∈ xs) :
    (reported i xs).lookup x.name = some (Search.solved x.ty (i.var x.name x.ty)).toValue := by
  induction xs with
  | nil => cases member
  | cons y rest ih =>
    obtain ⟨fresh, distinct⟩ := List.nodup_cons.mp distinct
    rw [reported, List.map_cons, lookup_cons_eq]
    rcases List.mem_cons.mp member with rfl | member
    · rw [if_pos rfl]
    · have differs : x.name ≠ y.name := by
        intro same
        exact fresh (List.mem_map.mpr ⟨x, member, same⟩)
      rw [if_neg differs]
      exact ih distinct member

theorem eq_of_denotes {ty : Ty} {v w : ty.Val} (h : (Search.solved ty v).toValue.Denotes ty w) : w = v := by
  obtain _ | _ | _ := ty
  · exact h
  · simp only [Search.solved, Solved.toValue] at h
    split at h
    · cases h
    · exact h
  · generalize (Search.solved _ v).toValue = value at h
    cases value <;> cases h

theorem agreeOn_of_assigns {i j : Interpretation} {xs : List Variable} (distinct : (names xs).Nodup)
    (h : Assigns (reported i xs) xs j) : Search.AgreeOn xs i j := by
  intro x member
  obtain ⟨v, found, denotes⟩ := h x member
  rw [lookup_reported distinct member] at found
  cases found
  exact eq_of_denotes denotes

/-! ## The solver -/

theorem Encoding.written_of_contains {enc : Encoding} {n : Int} (h : enc.range.Contains .int n) :
    Text.exceedsDigits n = false := by
  unfold Encoding.range at h
  split at h
  · obtain ⟨low, high⟩ : 0 ≤ n ∧ n ≤ 0 := h
    have zero : n = 0 := by omega
    simp [zero, Text.exceedsDigits]
  · rename_i narrow
    obtain ⟨low, high⟩ : lowest enc.bits ≤ n ∧ n ≤ highest enc.bits := h
    simp only [tooWide, Bool.or_eq_true, not_or, Bool.not_eq_true] at narrow
    have written : (lowest enc.bits).natAbs < Nat.pow 10 Text.digitLimit := not_le.mp (of_decide_eq_false narrow.2)
    have smaller : n.natAbs ≤ (lowest enc.bits).natAbs := by
      simp only [lowest, highest] at low high ⊢
      omega
    exact decide_eq_false (not_le.mpr (smaller.trans_lt written))

theorem Search.Range.denotes_toValue {r : Search.Range} {ty : Ty} {v : ty.Val}
    (written : ∀ n, r.Contains .int n → Text.exceedsDigits n = false) (h : r.Contains ty v) :
    (Search.solved ty v).toValue.Denotes ty v := by
  obtain _ | _ | _ := ty
  · rfl
  · simp only [Search.solved, Solved.toValue, written v h]
    rfl
  · cases h

variable {subject : ClassModel} {method : MethodModel} {dependencies : List ClassModel} {bits : Nat} {enc : Encoding}
  {i : Interpretation}

namespace Encodes

theorem within_range (finite : FiniteCases subject method dependencies)
    (e : Encodes subject method dependencies bits enc) (within : Within bits enc.unknowns i) :
    Search.Within enc.range enc.unknowns i := by
  rintro ⟨name, ty⟩ member
  have sort : ty = .int ∨ ty = .bool := finite.sorts ⟨name, ty⟩ (e.declares.unknown ▸ member)
  rcases sort with rfl | rfl
  · -- a method with a whole variable has been encoded, so the bounds can be written
    have narrow := e.narrow.resolve_right fun noInt => noInt _ member rfl
    rw [Encoding.range, e.bits_eq, if_neg (by simp [narrow])]
    exact within _ member rfl
  · trivial

theorem bounded (finite : FiniteCases subject method dependencies) (e : Encodes subject method dependencies bits enc) :
    ∀ x ∈ enc.unknowns, x.ty ≠ .real := by
  intro x member isReal
  rcases finite.sorts x (e.declares.unknown ▸ member) with isInt | isBool
  · rw [isReal] at isInt
    cases isInt
  · rw [isReal] at isBool
    cases isBool

end Encodes

/-- The solver decides the constraints, and the values of the model that it gives satisfy them. -/
def Decision.Exact (enc : Encoding) : Decision → Prop
  | .unsatisfiable => ∀ i : Interpretation, ¬ ∀ c ∈ enc.constraints, c.eval i = true
  | .satisfiable values => values.map (·.1) = names enc.unknowns ∧ (∃ i, Assigns values enc.unknowns i) ∧
      ∀ i, Assigns values enc.unknowns i → ∀ c ∈ enc.constraints, c.eval i = true
  | .unknown _ => False

namespace Encodes

theorem unsatisfiable_of_solve (finite : FiniteCases subject method dependencies)
    (e : Encodes subject method dependencies bits enc)
    (failed : solve enc.range enc.unknowns enc.constraints = none) :
    ¬ ∀ c ∈ enc.constraints, c.eval i = true := by
  intro all
  have bounded := (e.constraints_iff_counterexample.mp all).bounded
  have found := Search.solve_complete (e.tame_constraints finite)
    (e.within_range finite (e.declares.unknown ▸ bounded)) all
  rw [failed] at found
  cases found

theorem satisfied_of_solve (finite : FiniteCases subject method dependencies)
    (e : Encodes subject method dependencies bits enc) {values : List (String × Solved)}
    (found : solve enc.range enc.unknowns enc.constraints = some values) :
    ∃ i, values.map (fun (name, v) => (name, v.toValue)) = reported i enc.unknowns ∧
      Assigns (reported i enc.unknowns) enc.unknowns i ∧
      ∀ j, Assigns (reported i enc.unknowns) enc.unknowns j → ∀ c ∈ enc.constraints, c.eval j = true := by
  have distinct := e.declares.distinct
  obtain ⟨i, rfl, solves⟩ :=
    Search.solve_sound (e.tame_constraints finite) (e.bounded finite) (distinct.of_map _) found
  refine ⟨i, by simp [reported], ?_, fun j assigned => (solves j (agreeOn_of_assigns distinct assigned)).2⟩
  intro x member
  refine ⟨_, lookup_reported distinct member, ?_⟩
  exact Search.Range.denotes_toValue (fun n => Encoding.written_of_contains) ((solves i fun _ _ => rfl).1 x member)

theorem exact_exhaustive (finite : FiniteCases subject method dependencies)
    (e : Encodes subject method dependencies bits enc) : (Solver.exhaustive enc).Exact enc := by
  unfold Solver.exhaustive
  cases found : solve enc.range enc.unknowns enc.constraints with
  | none => exact fun i => e.unsatisfiable_of_solve finite found
  | some values =>
    obtain ⟨i, values_eq, assigned, solves⟩ := e.satisfied_of_solve finite found
    simp only [values_eq]
    refine ⟨?_, ⟨i, assigned⟩, solves⟩
    simp [reported, names]

end Encodes

/-! ## The engine -/

/-- What an engine works on when it has read a configuration and the models of the classes that it names. -/
structure Inquiry {τ : Type} (e : BoundedEngine) (configuration : Mapping) (desk : Desk τ) where
  site : Site
  subject : ClassModel
  method : MethodModel
  dependencies : List ClassModel
  loaded : Desk τ
  scopes : TypeScopes
  located : Site.ofConfiguration configuration = .ok site
  modelled : e.loadModel desk.files site.root site.className = .ok (some subject)
  named : subject.method? site.methodName = some method
  related : (e.loadDependencies site.root [site.className] site.relevant).run.run desk = (.ok dependencies, loaded)
  scopes_eq : TypeScopes.ofValue (configuration.get Configuration.scopeKey) = .ok scopes
  timed : BoundedEngine.checkTimeout e.timeout = .ok ()

variable {τ : Type} {e : BoundedEngine} {configuration : Mapping} {desk : Desk τ}

def inquiry? (e : BoundedEngine) (configuration : Mapping) (desk : Desk τ) : Option (Inquiry e configuration desk) :=
  match located : Site.ofConfiguration configuration with
  | .error _ => none
  | .ok site =>
    match modelled : e.loadModel desk.files site.root site.className,
      scopes_eq : TypeScopes.ofValue (configuration.get Configuration.scopeKey),
      timed : BoundedEngine.checkTimeout e.timeout,
      related : (e.loadDependencies site.root [site.className] site.relevant).run.run desk with
    | .ok (some subject), .ok scopes, .ok (), (.ok dependencies, loaded) =>
      match named : subject.method? site.methodName with
      | none => none
      | some method => some {
          site, subject, method, dependencies, loaded, scopes, located, modelled, named, related, scopes_eq, timed }
    | _, _, _, _ => none

theorem Inquiry.analyze_ends (q : Inquiry e configuration desk) :
    ∃ final : Desk τ, (e.analyze configuration).ends desk =
      ((Encoding.ofMethod q.subject q.method q.dependencies q.scopes.bits).mapError .ofEncoding >>= fun enc =>
        BoundedEngine.answerOf q.site q.subject q.method enc (e.solver enc), final) := by
  rw [BoundedEngine.analyze, ends_bind_ok (run_check q.located _), ends_bind_ok (ends_get _),
    ends_bind_ok (run_check q.modelled _)]
  simp only [q.named]
  rw [ends_bind_ok q.related, ends_bind_ok (run_check (mapError_eq_ok.mpr q.scopes_eq) _),
    ends_bind_ok (ends_say _ _ _), ends_bind_ok (run_check q.timed _), ends_bind, ends_check]
  cases (Encoding.ofMethod q.subject q.method q.dependencies q.scopes.bits).mapError Fault.ofEncoding with
  | error f => exact ⟨_, rfl⟩
  | ok enc => exact ⟨_, ends_check _ _⟩

theorem Inquiry.analyze_eq (q : Inquiry e configuration desk)
    (encoded : Encoding.ofMethod q.subject q.method q.dependencies q.scopes.bits = .ok enc)
    {answer : Answer SolvedModel}
    (answers : BoundedEngine.answerOf q.site q.subject q.method enc (e.solver enc) = .ok answer) :
    ∃ final : Desk τ, (e.analyze configuration).run.run desk = (.ok answer, final) := by
  obtain ⟨final, ends⟩ := q.analyze_ends
  refine ⟨final, ends.trans ?_⟩
  rw [mapError_eq_ok.mpr encoded, ok_bind, answers]

structure Decides (subject : ClassModel) (method : MethodModel) (dependencies : List ClassModel) (bits : Nat)
    (answer : Answer SolvedModel) : Prop where
  satisfiable_iff : answer.satisfiable = true ↔ ∃ i, Counterexample subject method dependencies bits i
  model : answer.satisfiable = true → ∃ m, answer.model = some m ∧
    m.values.map (·.1) = names (methodVariables subject method dependencies) ∧
    (∃ i, Assigns m.values (methodVariables subject method dependencies) i) ∧
    ∀ i, Assigns m.values (methodVariables subject method dependencies) i →
      Counterexample subject method dependencies bits i

theorem Encodes.decides (e : Encodes subject method dependencies bits enc) {decision : Decision}
    (exact : decision.Exact enc) (site : Site) :
    ∃ answer, BoundedEngine.answerOf site subject method enc decision = .ok answer ∧
      Decides subject method dependencies bits answer := by
  cases decision with
  | unsatisfiable =>
    have impossible : ¬ false = true := Bool.false_ne_true
    refine ⟨_, rfl, ⟨fun satisfiable => absurd satisfiable impossible, ?_⟩,
      fun satisfiable => absurd satisfiable impossible⟩
    rintro ⟨i, counterexample⟩
    exact absurd (e.constraints_iff_counterexample.mpr counterexample) (exact i)
  | satisfiable values =>
    obtain ⟨bound, ⟨i, assigned⟩, solves⟩ := exact
    have broken (j : Interpretation) (assigned : Assigns values enc.unknowns j) :
        Counterexample subject method dependencies bits j := e.constraints_iff_counterexample.mp (solves j assigned)
    refine ⟨_, rfl, ⟨fun _ => ⟨i, broken i assigned⟩, fun _ => rfl⟩, fun _ => ⟨_, rfl, ?_⟩⟩
    rw [← e.declares.unknown]
    exact ⟨bound, ⟨i, assigned⟩, broken⟩
  | unknown reason => exact exact.elim

/-- The answer of the engine about a method with finitely many cases is exact, with any solver that decides its
constraints. The search through all cases is one. -/
theorem analyze_decides (q : Inquiry e configuration desk)
    (encoded : Encoding.ofMethod q.subject q.method q.dependencies q.scopes.bits = .ok enc)
    (finite : FiniteCases q.subject q.method q.dependencies) :
    (Solver.exhaustive enc).Exact enc ∧
      ((e.solver enc).Exact enc → ∃ answer final, (e.analyze configuration).run.run desk = (.ok answer, final) ∧
        Decides q.subject q.method q.dependencies q.scopes.bits answer) := by
  obtain ⟨encodes⟩ := ofMethod_ok encoded
  refine ⟨encodes.exact_exhaustive finite, fun exact => ?_⟩
  obtain ⟨answer, answers, decides⟩ := encodes.decides exact q.site
  obtain ⟨final, run⟩ := q.analyze_eq encoded answers
  exact ⟨answer, final, run, decides⟩

def counterDesk : Desk Unit where
  files := ⟨[
    (["src"], .directory),
    (["src", "Counter.model.yaml"], .file ("fields: {count: int, up: bool}\ninvariant: count >= 0\n" ++
      "methods: {add: {params: {step: int}, requires: up, effects: {count: count + step // 2}}}")),
    (["src", "Limits.model.yaml"], .file "static_fields: {top: int}")]⟩
  rest := ()

def counterConfiguration : Mapping := [
  (.str Configuration.classKey, .str "Counter"),
  (.str Configuration.relevantKey, .str "Limits"),
  (.str Configuration.methodKey, .str "add_0"),
  (.str Configuration.rootKey, .str "src"),
  (.str Configuration.scopeKey, .str "int:3")]

theorem counter_decided :
    ∃ (e : BoundedEngine) (q : Inquiry e counterConfiguration counterDesk) (enc : Encoding),
      e.solver = .exhaustive ∧
      Encoding.ofMethod q.subject q.method q.dependencies q.scopes.bits = .ok enc ∧
      FiniteCases q.subject q.method q.dependencies ∧
      ∃ answer final, (e.analyze counterConfiguration).run.run counterDesk = (.ok answer, final) ∧
        Decides q.subject q.method q.dependencies q.scopes.bits answer := by
  have posed : (inquiry? {} counterConfiguration counterDesk).any (fun q =>
      (Encoding.ofMethod q.subject q.method q.dependencies q.scopes.bits).isOk &&
        decide (FiniteCases q.subject q.method q.dependencies)) = true := by decide +kernel
  obtain ⟨q, -, checked⟩ := (Option.any_eq_true _ _).mp posed
  obtain ⟨encodes, isFinite⟩ := (Bool.and_eq_true _ _).mp checked
  obtain ⟨enc, encoded⟩ := exists_of_isOk encodes
  have finite := of_decide_eq_true isFinite
  obtain ⟨exact, decides⟩ := analyze_decides q encoded finite
  exact ⟨{}, q, enc, rfl, encoded, finite, decides exact⟩

end Covenant
