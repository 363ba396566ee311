import Covenant.Proofs.Engine.Relevant
import Covenant.Proofs.Engine.Shown
import Covenant.Proofs.Model.Width

/-!
# Wider scopes

A wider scope lets the whole numbers take more values and changes nothing else. A contract that can be broken within a
scope can be broken within every wider one, and one that cannot be broken within a scope cannot be broken within any
narrower one. The analysis says so as long as the bounds of the wider scope can be written.
-/

namespace Covenant

variable {τ : Type} {e : BoundedEngine} {configuration configuration' : Mapping} {desk : Desk τ} {enc : Encoding}

/-! ## Outcomes of an analysis -/

namespace BoundedEngine

def Refutes (e : BoundedEngine) (configuration : Mapping) (desk : Desk τ) : Prop :=
  ∃ answer last, (e.analyze configuration).ends desk = (.ok answer, last) ∧ answer.satisfiable = true

def Proves (e : BoundedEngine) (configuration : Mapping) (desk : Desk τ) : Prop :=
  ∃ answer last, (e.analyze configuration).ends desk = (.ok answer, last) ∧ answer.satisfiable = false

def GivesUp (e : BoundedEngine) (configuration : Mapping) (desk : Desk τ) : Prop :=
  ∃ reason last, (e.analyze configuration).ends desk =
    (.error ⟨.unsupported, "solver gave up: " ++ reason, []⟩, last)

def RightAbout (e : BoundedEngine) (configuration : Mapping) (desk : Desk τ) : Prop :=
  ∀ (q : Inquiry e configuration desk) (enc : Encoding),
    Encoding.ofMethod q.subject q.method q.dependencies q.scopes.bits = .ok enc → (e.solver enc).Right enc

end BoundedEngine

theorem Inquiry.decided (q : Inquiry e configuration desk)
    (encoded : Encoding.ofMethod q.subject q.method q.dependencies q.scopes.bits = .ok enc)
    (right : e.RightAbout configuration desk) :
    (enc.Satisfiable → e.Refutes configuration desk ∨ e.GivesUp configuration desk) ∧
      (¬ enc.Satisfiable → e.Proves configuration desk ∨ e.GivesUp configuration desk) := by
  have isRight := right q enc encoded
  obtain ⟨last, ends⟩ := q.analyze_ends
  rw [mapError_eq_ok.mpr encoded, ok_bind] at ends
  cases decision : e.solver enc with
  | unsatisfiable =>
    rw [decision] at isRight ends
    exact ⟨fun satisfiable => absurd satisfiable isRight, fun _ => .inl ⟨_, last, ends, rfl⟩⟩
  | satisfiable values =>
    rw [decision] at isRight ends
    exact ⟨fun _ => .inl ⟨_, last, ends, rfl⟩, fun unsatisfiable => absurd isRight unsatisfiable⟩
  | unknown reason =>
    rw [decision] at ends
    exact ⟨fun _ => .inr ⟨reason, last, ends⟩, fun _ => .inr ⟨reason, last, ends⟩⟩

theorem BoundedEngine.Refutes.satisfiable (h : e.Refutes configuration desk) (right : e.RightAbout configuration desk) :
    ∃ (q : Inquiry e configuration desk) (enc : Encoding),
      Encoding.ofMethod q.subject q.method q.dependencies q.scopes.bits = .ok enc ∧ enc.Satisfiable := by
  obtain ⟨answer, last, analyzed, satisfiable⟩ := h
  obtain ⟨q, enc, encoded, -⟩ := analyze_answered analyzed
  exact ⟨q, enc, encoded, (q.satisfiable_iff encoded (right q enc encoded) analyzed).mp satisfiable⟩

theorem BoundedEngine.Proves.unsatisfiable (h : e.Proves configuration desk) (right : e.RightAbout configuration desk) :
    ∃ (q : Inquiry e configuration desk) (enc : Encoding),
      Encoding.ofMethod q.subject q.method q.dependencies q.scopes.bits = .ok enc ∧ ¬ enc.Satisfiable := by
  obtain ⟨answer, last, analyzed, unsatisfiable⟩ := h
  obtain ⟨q, enc, encoded, -⟩ := analyze_answered analyzed
  have verdict := q.satisfiable_iff encoded (right q enc encoded) analyzed
  refine ⟨q, enc, encoded, fun satisfiable => ?_⟩
  rw [verdict.mpr satisfiable] at unsatisfiable
  cases unsatisfiable

/-! ## Two scopes -/

def AgreeOffScope (configuration configuration' : Mapping) : Prop :=
  ∀ key, key ≠ Configuration.scopeKey → configuration.get? key = configuration'.get? key

theorem AgreeOffScope.symm (h : AgreeOffScope configuration configuration') :
    AgreeOffScope configuration' configuration :=
  fun key other => (h key other).symm

theorem AgreeOffScope.site (h : AgreeOffScope configuration configuration') :
    Site.ofConfiguration configuration' = Site.ofConfiguration configuration := by
  simp only [Site.ofConfiguration, Site.required, h Configuration.rootKey (by decide),
    h Configuration.classKey (by decide), h Configuration.methodKey (by decide),
    h Configuration.relevantKey (by decide)]

def Inquiry.within (q : Inquiry e configuration desk) (agree : AgreeOffScope configuration configuration')
    {scopes : TypeScopes} (scopes_eq : TypeScopes.ofValue (configuration'.get Configuration.scopeKey) = .ok scopes) :
    Inquiry e configuration' desk :=
  { q with
    scopes := scopes
    located := agree.site.trans q.located
    scopes_eq := scopes_eq }

theorem Encoding.Satisfiable.wider {enc' : Encoding} {subject : ClassModel} {method : MethodModel}
    {dependencies : List ClassModel} {bits bits' : Nat} (le : bits ≤ bits')
    (encoded : Encoding.ofMethod subject method dependencies bits = .ok enc)
    (encoded' : Encoding.ofMethod subject method dependencies bits' = .ok enc') (h : enc.Satisfiable) :
    enc'.Satisfiable := by
  obtain ⟨i, solves⟩ := h
  obtain ⟨-, -, -, wider, -⟩ := (widens le).alike enc enc' encoded encoded'
  exact ⟨i, wider i solves⟩

structure KeepsVerdict (e : BoundedEngine) (configuration configuration' : Mapping) (desk : Desk τ) : Prop where
  refuted : e.Refutes configuration desk → e.Refutes configuration' desk ∨ e.GivesUp configuration' desk ∨
    ∃ (q' : Inquiry e configuration' desk) (last : Desk τ),
      ¬ Encoding.Writable q'.scopes.bits (methodVariables q'.subject q'.method q'.dependencies) ∧
        (e.analyze configuration').ends desk = (.error .longNumber, last)
  proved : e.Proves configuration' desk → e.Proves configuration desk ∨ e.GivesUp configuration desk

theorem keepsVerdict (agree : AgreeOffScope configuration configuration') {scopes scopes' : TypeScopes}
    (narrow : TypeScopes.ofValue (configuration.get Configuration.scopeKey) = .ok scopes)
    (wide : TypeScopes.ofValue (configuration'.get Configuration.scopeKey) = .ok scopes')
    (le : scopes.bits ≤ scopes'.bits) (right : e.RightAbout configuration desk)
    (right' : e.RightAbout configuration' desk) : KeepsVerdict e configuration configuration' desk where
  refuted h := by
    obtain ⟨q, enc, encoded, satisfiable⟩ := h.satisfiable right
    obtain rfl : scopes = q.scopes := Except.ok.inj (narrow.symm.trans q.scopes_eq)
    let q' := q.within agree wide
    by_cases writable : Encoding.Writable scopes'.bits (methodVariables q.subject q.method q.dependencies)
    · obtain ⟨enc', encoded'⟩ := (widens le).encodes_iff.mpr ⟨enc, encoded, writable⟩
      have satisfiable' := satisfiable.wider le encoded encoded'
      rcases (q'.decided encoded' right').1 satisfiable' with refutes | givesUp
      · exact .inl refutes
      · exact .inr (.inl givesUp)
    · have failed : Encoding.ofMethod q'.subject q'.method q'.dependencies q'.scopes.bits = .error .longNumber :=
        (widens le).unwritable enc encoded writable
      obtain ⟨last, ends⟩ := q'.analyze_ends
      rw [failed] at ends
      exact .inr (.inr ⟨q', last, writable, ends⟩)
  proved h := by
    obtain ⟨q', enc', encoded', unsatisfiable'⟩ := h.unsatisfiable right'
    obtain rfl : scopes' = q'.scopes := Except.ok.inj (wide.symm.trans q'.scopes_eq)
    let q := q'.within agree.symm narrow
    obtain ⟨enc, encoded, -⟩ := (widens le).encodes_iff.mp ⟨enc', encoded'⟩
    have unsatisfiable : ¬ enc.Satisfiable := fun satisfiable =>
      unsatisfiable' (satisfiable.wider le encoded encoded')
    exact (q.decided encoded right).2 unsatisfiable

/-- Widening the scope of the integers keeps whatever breaks a contract, unless the bounds of the wider scope have too
many digits to be written. -/
theorem widening_is_monotone_unless_unwritable (subject : ClassModel) (method : MethodModel)
    (dependencies : List ClassModel) {bits bits' : Nat} (le : bits ≤ bits') :
    Widens subject method dependencies bits bits' ∧
      ∀ (τ : Type) (e : BoundedEngine) (configuration configuration' : Mapping) (desk : Desk τ)
        (scopes scopes' : TypeScopes), AgreeOffScope configuration configuration' →
        TypeScopes.ofValue (configuration.get Configuration.scopeKey) = .ok scopes →
        TypeScopes.ofValue (configuration'.get Configuration.scopeKey) = .ok scopes' →
        scopes.bits = bits → scopes'.bits = bits' →
        e.RightAbout configuration desk → e.RightAbout configuration' desk →
        KeepsVerdict e configuration configuration' desk := by
  refine ⟨widens le, ?_⟩
  rintro τ e configuration configuration' desk scopes scopes' agree narrow wide rfl rfl right right'
  exact keepsVerdict agree narrow wide le right right'

/-! ## The engine's own search -/

theorem Inquiry.rightAbout (q : Inquiry e configuration desk) (exhaustive : e.solver = .exhaustive)
    (finite : FiniteCases q.subject q.method q.dependencies) : e.RightAbout configuration desk := by
  intro r enc encoded
  obtain rfl := q.unique r
  obtain ⟨encodes⟩ := ofMethod_ok encoded
  rw [exhaustive]
  exact (encodes.exact_exhaustive finite).right

def meterDesk : Desk Unit where
  files := ⟨[
    (["src"], .directory),
    (["src", "Meter.model.yaml"], .file "fields: {level: int}\nmethods: {read: {ensures: level > 0}}")]⟩
  rest := ()

def meterConfiguration (scope : String) : Mapping := [
  (.str Configuration.classKey, .str "Meter"),
  (.str Configuration.methodKey, .str "read_0"),
  (.str Configuration.rootKey, .str "src"),
  (.str Configuration.scopeKey, .str scope)]

theorem agreeOffScope_meter (scope scope' : String) :
    AgreeOffScope (meterConfiguration scope) (meterConfiguration scope') := by
  intro key other
  have differs : (Configuration.scopeKey == key) = false := beq_false_of_ne other.symm
  simp only [meterConfiguration, Mapping.get?, Mapping.find?, List.find?_cons, Value.same_str, differs]

theorem scope_meter (scope : String) : (meterConfiguration scope).get Configuration.scopeKey = .str scope := by
  simp [meterConfiguration, Mapping.get, Mapping.get?, Mapping.find?, Value.same_str, Configuration.classKey,
    Configuration.methodKey, Configuration.rootKey, Configuration.scopeKey]

theorem meter_refuted_in_wider_scope :
    BoundedEngine.Refutes {} (meterConfiguration "int:4") meterDesk ∧
      BoundedEngine.RightAbout {} (meterConfiguration "int:4") meterDesk ∧
      BoundedEngine.RightAbout {} (meterConfiguration "int:9") meterDesk ∧
      Widens Encoding.account Encoding.withdraw [Encoding.bank] 4 9 ∧
      KeepsVerdict {} (meterConfiguration "int:4") (meterConfiguration "int:9") meterDesk := by
  have ran : (inquiry? {} (meterConfiguration "int:4") meterDesk).any (fun q =>
      decide (FiniteCases q.subject q.method q.dependencies) &&
        decide (((({} : BoundedEngine).analyze (meterConfiguration "int:4")).ends meterDesk).1.map (·.satisfiable) =
          .ok true)) = true := by decide +kernel
  obtain ⟨q, -, checked⟩ := (Option.any_eq_true _ _).mp ran
  obtain ⟨isFinite, isRefuted⟩ := (Bool.and_eq_true _ _).mp checked
  have finite := of_decide_eq_true isFinite
  have refuted := of_decide_eq_true isRefuted
  have agree := agreeOffScope_meter "int:4" "int:9"
  have narrow : TypeScopes.ofValue ((meterConfiguration "int:4").get Configuration.scopeKey) = .ok [("int", 4)] := by
    rw [scope_meter]
    decide +kernel
  have wide : TypeScopes.ofValue ((meterConfiguration "int:9").get Configuration.scopeKey) = .ok [("int", 9)] := by
    rw [scope_meter]
    decide +kernel
  have right := q.rightAbout rfl finite
  have right' := (q.within agree wide).rightAbout rfl finite
  obtain ⟨widens, keeps⟩ := widening_is_monotone_unless_unwritable Encoding.account Encoding.withdraw [Encoding.bank]
    (by decide : 4 ≤ 9)
  refine ⟨?_, right, right', widens, keeps _ _ _ _ _ _ _ agree narrow wide rfl rfl right right'⟩
  rcases ends : (({} : BoundedEngine).analyze (meterConfiguration "int:4")).ends meterDesk with ⟨_ | answer, last⟩
  · rw [ends] at refuted
    cases refuted
  · rw [ends] at refuted
    exact ⟨answer, last, ends, Except.ok.inj refuted⟩

theorem meter_unanswered_in_wide_scope :
    ((({} : BoundedEngine).analyze (meterConfiguration "int:4")).ends meterDesk).1.map (·.satisfiable) = .ok true ∧
      ((({} : BoundedEngine).analyze (meterConfiguration "int:20000")).ends meterDesk).1.map (·.satisfiable) =
        .error .longNumber := by
  decide +kernel

end Covenant
