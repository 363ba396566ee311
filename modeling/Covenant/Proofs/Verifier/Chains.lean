import Mathlib.Logic.Function.Basic
import Covenant.Engine.Bounded
import Covenant.Proofs.Verifier.Escapes

/-!
# Chains of requests

A request can be made from another one by changing its subject or its scope. The subjects are shared by the requests
of such a chain, and each of them remembers what its compile check said. The invariant of a chain ties three things
together: the head of the dependencies is the class of the current subject, the tail is what was given at the start, and
the current subject is known to be valid. So an updated request is the one that would be created from scratch, and a run
on it does not make the check again.
-/

namespace Covenant

variable {ι τ μ ω α β : Type}

/-! ## The fields of a request -/

def Value.asText? : Value → Option String
  | .str s => some s
  | .bytes bs => decode? bs
  | _ => none

theorem textField_eq_ok {location : List String} {v : Value} {s : String} :
    textField location v = .ok s ↔ v.asText? = some s := by
  cases v with
  | str t => simp [textField, Value.asText?]
  | bytes bs => cases decoded : Value.decode? bs <;> simp [textField, Value.asText?, decoded]
  | _ => simp [textField, Value.asText?]

theorem textField_cases (location : List String) (v : Value) :
    (∃ s, v.asText? = some s ∧ textField location v = .ok s) ∨
      v.asText? = none ∧ ∃ p, textField location v = .error p := by
  cases taken : textField location v with
  | ok s => exact .inl ⟨s, textField_eq_ok.mp taken, rfl⟩
  | error p =>
    right
    refine ⟨Option.eq_none_iff_forall_ne_some.mpr fun s text => ?_, p, rfl⟩
    rw [textField_eq_ok.mpr text] at taken
    cases taken

theorem textFields_eq (location : List String) {values : List Value} {names : List String} :
    problemsOf (textFields location values) = [] ∧ textsOf (textFields location values) = names ↔
      values.map Value.asText? = names.map some := by
  unfold textFields
  generalize 0 = first
  induction values generalizing first names with
  | nil => cases names <;> simp [problemsOf, textsOf]
  | cons v rest ih =>
    rw [List.zipIdx_cons, List.map_cons, List.map_cons]
    rcases textField_cases (location ++ [toString first]) v with ⟨s, text, taken⟩ | ⟨text, p, refused⟩
    · simp only [taken, text, problemsOf, textsOf, List.filterMap_cons, Except.toOption]
      constructor
      · rintro ⟨none_left, rfl⟩
        exact congrArg (some s :: ·) ((ih _).mp ⟨none_left, rfl⟩)
      · intro same
        cases names with
        | nil => cases same
        | cons name names =>
          rw [List.map_cons, List.cons.injEq, Option.some.injEq] at same
          obtain ⟨none_left, texts⟩ := (ih _).mpr same.2
          exact ⟨none_left, congrArg₂ List.cons same.1 texts⟩
    · simp only [refused, text, problemsOf, List.filterMap_cons]
      constructor
      · rintro ⟨impossible, -⟩
        cases impossible
      · intro same
        cases names <;> cases same

theorem eq_nil_of_decode?_empty {bs : List Nat} (h : Value.decode? bs = some "") : bs = [] := by
  unfold Value.decode? String.fromUTF8? at h
  split at h
  · have bytes : (⟨(bs.map UInt8.ofNat).toArray⟩ : ByteArray) = "".toByteArray :=
      congrArg String.toByteArray (Option.some.inj h)
    exact List.map_eq_nil_iff.mp (congrArg (·.data.toList) bytes)
  · cases h

namespace Request

structure Takes (method extra : Value) (name : String) (classes : List String) : Prop where
  present : checkMethod method = .ok ()
  method : method.asText? = some name
  classes : ∃ items, extra.items? = some items ∧ items.map Value.asText? = classes.map some

theorem Takes.ne_empty {method extra : Value} {name : String} {classes : List String}
    (h : Takes method extra name classes) : name ≠ "" := by
  rintro rfl
  have present := h.present
  have text := h.method
  cases method with
  | str s =>
    obtain rfl : s = "" := Option.some.inj text
    cases present
  | bytes bs =>
    obtain rfl := eq_nil_of_decode?_empty text
    cases present
  | _ => cases text

theorem Takes.unique {method extra : Value} {name name' : String} {classes classes' : List String}
    (h : Takes method extra name classes) (h' : Takes method extra name' classes') :
    name = name' ∧ classes = classes' := by
  obtain ⟨items, found, texts⟩ := h.classes
  obtain ⟨items', found', texts'⟩ := h'.classes
  obtain rfl : items = items' := Option.some.inj (found.symm.trans found')
  refine ⟨Option.some.inj (h.method.symm.trans h'.method), ?_⟩
  exact List.map_injective_iff.mpr (fun _ _ => Option.some.inj) (texts.symm.trans texts')

theorem ofFields_eq_ok {subject : Subject} {method scope : Value} {classes : List Value} {r : Request} :
    ofFields subject method classes scope = .ok r ↔
      ∃ name names bounds, method.asText? = some name ∧ classes.map Value.asText? = names.map some ∧
        scopeField scope = .ok bounds ∧ r = ⟨some subject, name, names, bounds⟩ := by
  unfold ofFields
  constructor
  · intro h
    simp only at h
    split at h
    · rename_i name bounds named unproblematic bounded
      cases h
      exact ⟨name, _, bounds, textField_eq_ok.mp named, (textFields_eq _).mp ⟨unproblematic, rfl⟩, bounded, rfl⟩
    · cases h
  · rintro ⟨name, names, bounds, named, texts, bounded, rfl⟩
    obtain ⟨unproblematic, rfl⟩ := (textFields_eq ["dependencies"]).mpr texts
    simp only [textField_eq_ok.mpr named, unproblematic, bounded]

theorem checkSubject_some (s : Subject) (desk : Desk τ) :
    (checkSubject (some s)).ends desk =
      match s.validate.ends desk with
      | (.ok (true, t), desk) => (.ok t, desk)
      | (.ok (false, _), desk) => (.error (.ofRequest .invalidSubject), desk)
      | (.error f, desk) => (.error f, desk) := by
  simp only [checkSubject, ends_bind]
  cases s.validate.ends desk with
  | mk r desk =>
    cases r with
    | error f => rfl
    | ok answer =>
      obtain ⟨valid, t⟩ := answer
      cases valid <;> rfl

theorem checkSubject_eq_ok {s t : Subject} {desk desk' : Desk τ} :
    (checkSubject (some s)).ends desk = (.ok t, desk') ↔ s.validate.ends desk = (.ok (true, t), desk') := by
  rw [checkSubject_some]
  generalize s.validate.ends desk = ended
  obtain ⟨_ | ⟨_ | _, _⟩, _⟩ := ended <;> simp

theorem create_eq_ok {s : Subject} {method extra scope : Value} {desk desk' : Desk τ} {r : Request} :
    (create (some s) method extra scope).ends desk = (.ok r, desk') ↔
      ∃ t name classes bounds, s.validate.ends desk = (.ok (true, t), desk') ∧ Takes method extra name classes ∧
        scopeField scope = .ok bounds ∧ r = ⟨some t, name, t.className :: classes, bounds⟩ := by
  unfold create
  rw [ends_bind_eq_ok]
  constructor
  · rintro ⟨t, _, valid, h⟩
    rw [checkSubject_eq_ok] at valid
    obtain ⟨_, _, present, made⟩ := ends_bind_eq_ok.mp h
    rw [ends_check, Prod.mk.injEq] at present
    obtain ⟨present, rfl⟩ := present
    cases found : extra.items? with
    | none => simp [found] at made
    | some items =>
      simp only [found, ends_check, Prod.mk.injEq] at made
      obtain ⟨made, rfl⟩ := made
      obtain ⟨name, names, bounds, named, texts, bounded, rfl⟩ := ofFields_eq_ok.mp made
      cases names with
      | nil => cases texts
      | cons first names =>
        rw [List.map_cons, List.map_cons, List.cons.injEq] at texts
        obtain rfl : t.className = first := Option.some.inj texts.1
        exact ⟨t, name, names, bounds, valid, ⟨present, named, items, found, texts.2⟩, bounded, rfl⟩
  · rintro ⟨t, name, classes, bounds, valid, takes, bounded, rfl⟩
    obtain ⟨present, named, items, found, texts⟩ := takes
    refine ⟨t, desk', checkSubject_eq_ok.mpr valid, ?_⟩
    rw [ends_bind_ok (run_check present desk')]
    simp only [found, ends_check, Prod.mk.injEq, and_true]
    refine ofFields_eq_ok.mpr ⟨name, t.className :: classes, bounds, named, ?_, bounded, rfl⟩
    rw [List.map_cons, List.map_cons, texts]
    rfl

theorem withSubject_eq_ok {r r' : Request} {s : Subject} {desk desk' : Desk τ} :
    (r.withSubject (some s)).ends desk = (.ok r', desk') ↔
      ∃ t, s.validate.ends desk = (.ok (true, t), desk') ∧
        r' = { r with subject := some t, dependencies := t.className :: r.dependencies.drop 1 } := by
  unfold withSubject
  rw [ends_bind_eq_ok]
  constructor
  · rintro ⟨t, _, valid, h⟩
    cases h
    exact ⟨t, checkSubject_eq_ok.mp valid, rfl⟩
  · rintro ⟨t, valid, rfl⟩
    exact ⟨t, desk', checkSubject_eq_ok.mpr valid, rfl⟩

theorem withSubject_none (r : Request) (desk : Desk τ) :
    (r.withSubject none).ends desk = (.error (.ofRequest .noSubject), desk) := rfl

theorem withSubject_invalid (r : Request) {s t : Subject} {desk desk' : Desk τ}
    (invalid : s.validate.ends desk = (.ok (false, t), desk')) :
    (r.withSubject (some s)).ends desk = (.error (.ofRequest .invalidSubject), desk') := by
  have refused : (checkSubject (some s)).ends desk = (.error (.ofRequest .invalidSubject), desk') := by
    rw [checkSubject_some, invalid]
  rw [withSubject, ends_bind_error refused]

end Request

/-! ## Compile checks -/

namespace Subject

def checkedText (s : Subject) : String :=
  match s.sourceFile with
  | .ok path => path.text
  | .error _ => ""

theorem validate_known {s : Subject} {valid : Bool} (known : s.valid = some valid) (desk : Desk τ) :
    s.validate.ends desk = (.ok (valid, s), desk) := by
  simp only [validate, known, ends_pure]

def passed (s : Subject) : Subject := { s with valid := some true }

theorem validate_unknown {s t : Subject} (unknown : s.valid = none) {desk desk' : Desk τ}
    (valid : s.validate.ends desk = (.ok (true, t), desk')) :
    t = s.passed ∧ desk'.checked = desk.checked ++ [s.checkedText] := by
  have same := validate_ok valid
  rw [validate_checked valid] at same
  refine ⟨same, ?_⟩
  unfold validate at valid
  rw [unknown] at valid
  simp only at valid
  split at valid
  · cases valid
  · simp only [ends_bind_eq_ok, ends_check, ends_modify, ends_get, Prod.mk.injEq] at valid
    obtain ⟨path, _, ⟨found, rfl⟩, _, _, ⟨-, rfl⟩, _, _, ⟨-, rfl⟩, ⟨_, _⟩, _, ⟨-, rfl⟩, _, _, ⟨-, rfl⟩, ended⟩ := valid
    cases ended
    simp only [checkedText, found]

end Subject

def View.checked : View τ (List String) where
  look desk := desk.checked
  quiet _ _ := rfl

/-! ## Runs on a request that is known to be valid -/

structure Request.Ready (r : Request) (subject : Subject) : Prop where
  asked : r.subject = some subject
  valid : subject.valid = some true
  named : r.method ≠ ""

def Verifier.Raises (v : Verifier τ μ) (f : Fault) : Prop :=
  (∃ s subject desk last, (v.engine.ask s subject).ends desk = (.error f, last)) ∨
    ∃ sink ∈ v.sinks, ∃ text desk last, (sink.write text).ends desk = (.error f, last)

namespace Request.Ready

variable {r : Request} {subject : Subject}

theorem validSubject (ready : r.Ready subject) {s : Session μ} (asked : s.request = r) (desk : Desk τ) :
    Verifier.validSubject.ends (⟨s, desk⟩ : Bench τ μ) = (.ok subject, ⟨s, desk⟩) := by
  obtain ⟨request, state, outcome, trace⟩ := s
  obtain rfl : request = r := asked
  obtain ⟨_, method, dependencies, scope⟩ := request
  obtain ⟨rfl, valid, named⟩ := ready
  have named : (method == "") = false := beq_eq_false_iff_ne.mpr named
  simp only [Verifier.validSubject, ends_bind, ends_get, named, Bool.false_eq_true, if_false, ends_onDesk,
    Subject.validate_known valid, ends_setSession, if_true]
  rfl

theorem conclude (ready : r.Ready subject) (e : Engine τ μ) (desk : Desk τ) :
    e.conclude.ends ⟨.asking r, desk⟩ =
      match (e.ask (.asking r) subject).ends desk with
      | (.ok concluded, desk) => (.ok concluded, ⟨(Session.asking r).finish concluded.1 concluded.2, desk⟩)
      | (.error f, desk) => (.error f, ⟨.asking r, desk⟩) := by
  have valid := ready.validSubject (s := (Session.asking r : Session μ)) rfl desk
  cases asked : (e.ask (.asking r) subject).ends desk with
  | mk answer last =>
    cases answer with
    | error f => exact Engine.conclude_of_undecided valid asked
    | ok concluded => exact Engine.conclude_of_decided valid asked

theorem verify (ready : r.Ready subject) {s : Session μ} (about : s.request = r) (v : Verifier τ μ) (desk : Desk τ) :
    (v.verify.ends ⟨s, desk⟩).2.session.request = r ∧
      ∀ f, (v.verify.ends ⟨s, desk⟩).1 = .error f →
        s.state = .running ∧ f = .ofUsage .inProgress ∨ v.Raises f := by
  obtain rfl := about
  by_cases running : s.state = .running
  · rw [v.verify_running running]
    refine ⟨rfl, ?_⟩
    rintro f ⟨⟩
    exact .inl ⟨running, rfl⟩
  have concluded := ready.conclude v.engine desk
  cases asked : (v.engine.ask (.asking s.request) subject).ends desk with
  | mk answer middle =>
    rw [asked] at concluded
    cases answer with
    | error f =>
      rw [Verifier.verify_broken (b := ⟨s, desk⟩) running concluded]
      refine ⟨Session.request_abandon _, ?_⟩
      rintro g ⟨⟩
      exact .inr (.inl ⟨_, _, _, _, asked⟩)
    | ok answer =>
      have concludes := Verifier.concludes_of_conclude (v := v) (b := ⟨s, desk⟩) running concluded
      rcases Report.tolerated_or_stops _ v.sinks middle with tolerated | ⟨f, receipts, last, stops⟩
      · rw [(concludes.verify tolerated).ends_eq]
        exact ⟨rfl, nofun⟩
      · rw [concludes.verify_stops stops]
        refine ⟨rfl, ?_⟩
        rintro g ⟨⟩
        obtain ⟨-, sink, member, before, after, raised⟩ := stops.raised
        exact .inr (.inr ⟨sink, member, _, before, after, raised⟩)

end Request.Ready

theorem Sink.look_spared {view : View τ ω} {sink : Sink τ} (h : sink.Spares view) (text : String)
    (desk : Desk τ) : view.look (sink.give text desk).2 = view.look desk := by
  rw [Sink.Records.give h, ite_self]

theorem Report.Stops.look_spared {view : View τ ω} {text : String} {f : Fault} {sinks : List (Sink τ)}
    {desk last : Desk τ} {receipts : List (Receipt τ)} (h : Stops text f sinks desk receipts last)
    (spared : ∀ sink ∈ sinks, sink.Spares view) : view.look last = view.look desk := by
  induction h with
  | here raised unnoted => exact (spared _ List.mem_cons_self).failed _ _ _ _ raised
  | later noted others ih =>
    rw [ih fun other member => spared other (List.mem_cons_of_mem _ member)]
    exact Sink.look_spared (spared _ List.mem_cons_self) _ _

theorem Verifier.verify_spares {view : View τ ω} {v : Verifier τ μ} {b : Bench τ μ} (engine : v.engine.Spares view)
    (sinks : v.SinksSpare view)
    (checked : view.look (validSubject.ends (⟨.asking b.session.request, b.desk⟩ : Bench τ μ)).2.desk =
      view.look b.desk) :
    view.look (v.verify.ends b).2.desk = view.look b.desk := by
  by_cases running : b.session.state = .running
  · rw [v.verify_running running]
  have before : view.look (v.engine.conclude.ends ⟨.asking b.session.request, b.desk⟩).2.desk = view.look b.desk :=
    conclude_spares_of_checked engine checked (Terminal.not_stops _)
  cases concluded : v.engine.conclude.ends ⟨.asking b.session.request, b.desk⟩ with
  | mk r last =>
    rw [concluded] at before
    cases r with
    | error f =>
      rw [verify_broken running concluded]
      exact before
    | ok answer =>
      have concludes := concludes_of_conclude running concluded
      refine Eq.trans ?_ before
      rcases Report.tolerated_or_stops _ v.sinks last.desk with tolerated | ⟨f, receipts, desk, stops⟩
      · rw [(concludes.verify tolerated).ends_eq]
        exact Report.look_deliver_spared sinks _ _
      · rw [concludes.verify_stops stops]
        exact stops.look_spared sinks

/-! ## Chains -/

structure Link (ι : Type) where
  subject : ι
  scope : Value
  request : Request

structure Chain (τ ι : Type) where
  subjects : ι → Subject
  latest : Link ι
  earlier : List (Link ι)
  desk : Desk τ

namespace Chain

def links (c : Chain τ ι) : List (Link ι) := c.latest :: c.earlier

def remember [DecidableEq ι] (subjects : ι → Subject) (i : ι) (r : Request) : ι → Subject :=
  Function.update subjects i (r.subject.getD (subjects i))

def scopeValue : Option String → Value
  | some text => .str text
  | none => .null

/-- How chains come about: a request is created, and further ones are made from the latest. In between, any of the
requests may be verified, by any verifier that makes no compile checks of its own, and other things may happen to the
desk. -/
inductive Made [DecidableEq ι] (subjects : ι → Subject) (method extra : Value) (start : Desk τ) : Chain τ ι → Prop
  | create {i : ι} {scope : Value} {r : Request} {desk : Desk τ}
      (created : (Request.create (some (subjects i)) method extra scope).ends start = (.ok r, desk)) :
      Made subjects method extra start ⟨remember subjects i r, ⟨i, scope, r⟩, [], desk⟩
  | withSubject {c : Chain τ ι} {i : ι} {r : Request} {desk : Desk τ} (before : Made subjects method extra start c)
      (updated : (c.latest.request.withSubject (some (c.subjects i))).ends c.desk = (.ok r, desk)) :
      Made subjects method extra start ⟨remember c.subjects i r, ⟨i, c.latest.scope, r⟩, c.links, desk⟩
  | withScope {c : Chain τ ι} (before : Made subjects method extra start c) (scope : Option String) :
      Made subjects method extra start
        ⟨c.subjects, ⟨c.latest.subject, scopeValue scope, c.latest.request.withScope (scopeValue scope)⟩, c.links,
          c.desk⟩
  | verify {μ : Type} {c : Chain τ ι} {link : Link ι} (before : Made subjects method extra start c)
      (member : link ∈ c.links) (v : Verifier τ μ) (s : Session μ) (asked : s.request = link.request)
      (engine : v.engine.Spares View.checked) (sinks : v.SinksSpare View.checked) :
      Made subjects method extra start
        ⟨remember c.subjects link.subject (v.verify.ends ⟨s, c.desk⟩).2.session.request, c.latest, c.earlier,
          (v.verify.ends ⟨s, c.desk⟩).2.desk⟩
  | meanwhile {c : Chain τ ι} (before : Made subjects method extra start c) (desk : Desk τ)
      (unchecked : desk.checked = c.desk.checked) : Made subjects method extra start { c with desk := desk }

/-! ## What holds of every chain -/

section

variable {subjects current : ι → Subject} {method extra : Value} {name : String} {classes : List String}
  {start desk desk' : Desk τ} {used : List ι} {c : Chain τ ι}

/-- The subjects in `used` have made their compile checks, each of them once and in this order, and have passed. The
others know nothing of theirs. -/
structure Checked (subjects current : ι → Subject) (start desk : Desk τ) (used : List ι) : Prop where
  nodup : used.Nodup
  passed : ∀ i ∈ used, current i = (subjects i).passed
  unknown : ∀ i, i ∉ used → current i = subjects i
  checked : desk.checked = start.checked ++ used.map fun i => (subjects i).checkedText

theorem Checked.initial (subjects : ι → Subject) (start : Desk τ) : Checked subjects subjects start start [] where
  nodup := .nil
  passed := nofun
  unknown _ _ := rfl
  checked := by simp

theorem Checked.check [DecidableEq ι] (fresh : ∀ i, (subjects i).valid = none)
    (h : Checked subjects current start desk used) {i : ι} {t : Subject}
    (valid : (current i).validate.ends desk = (.ok (true, t), desk')) :
    t = (subjects i).passed ∧ ∃ used', (∀ j, j ∈ used' ↔ i = j ∨ j ∈ used) ∧
      Checked subjects (Function.update current i t) start desk' used' := by
  by_cases known : i ∈ used
  · -- the check was made before, and its answer is remembered
    have passed := h.passed i known
    rw [passed, Subject.validate_known rfl, Prod.mk.injEq, Except.ok.injEq, Prod.mk.injEq] at valid
    obtain ⟨⟨-, rfl⟩, rfl⟩ := valid
    refine ⟨rfl, used, fun j => ⟨.inr, fun either => either.elim (· ▸ known) id⟩, ?_⟩
    rwa [← passed, Function.update_eq_self]
  · -- the first request about this subject, which makes the check
    rw [h.unknown i known] at valid
    obtain ⟨rfl, checked⟩ := Subject.validate_unknown (fresh i) valid
    refine ⟨rfl, used ++ [i], fun j => by rw [List.mem_append, List.mem_singleton, or_comm, eq_comm], ?_, ?_, ?_, ?_⟩
    · exact h.nodup.append (List.nodup_singleton i) (List.disjoint_singleton.mpr known)
    · intro j member
      rcases eq_or_ne j i with rfl | other
      · exact Function.update_self ..
      · rw [Function.update_of_ne other]
        exact h.passed j ((List.mem_append.mp member).resolve_right (by simpa using other))
    · intro j absent
      rw [List.mem_append, List.mem_singleton, not_or] at absent
      rw [Function.update_of_ne absent.2, h.unknown j absent.1]
    · rw [checked, h.checked, List.map_append, List.append_assoc]
      rfl

/-- The invariant of a chain: every request is about a subject that has passed its check, has this subject's class at
the head of its dependencies and the classes given at the start after it. -/
structure Holds (subjects : ι → Subject) (name : String) (classes : List String) (start : Desk τ) (c : Chain τ ι)
    (used : List ι) : Prop where
  memory : Checked subjects c.subjects start c.desk used
  used_iff : ∀ i, i ∈ used ↔ ∃ link ∈ c.links, link.subject = i
  scopes : ∀ link ∈ c.links, scopeField link.scope = .ok link.request.scope
  requests : ∀ link ∈ c.links, link.request =
    ⟨some (subjects link.subject).passed, name, (subjects link.subject).className :: classes, link.request.scope⟩

theorem Holds.ready (h : Holds subjects name classes start c used) (named : name ≠ "") {link : Link ι}
    (member : link ∈ c.links) : link.request.Ready (subjects link.subject).passed := by
  rw [h.requests link member]
  exact ⟨rfl, rfl, named⟩

theorem Holds.extend (h : Holds subjects name classes start c used) {link : Link ι} {current : ι → Subject}
    {desk : Desk τ} {used' : List ι} (memory : Checked subjects current start desk used')
    (grown : ∀ j, j ∈ used' ↔ link.subject = j ∨ j ∈ used) (scope : scopeField link.scope = .ok link.request.scope)
    (request : link.request = ⟨some (subjects link.subject).passed, name, (subjects link.subject).className :: classes,
      link.request.scope⟩) :
    Holds subjects name classes start ⟨current, link, c.links, desk⟩ used' where
  memory := memory
  used_iff j := by
    rw [grown, h.used_iff]
    exact (List.exists_mem_cons_iff (fun other : Link ι => other.subject = j) link c.links).symm
  scopes other member := by
    rcases List.mem_cons.mp member with rfl | member
    · exact scope
    · exact h.scopes other member
  requests other member := by
    rcases List.mem_cons.mp member with rfl | member
    · exact request
    · exact h.requests other member

theorem scopeField_scopeValue (scope : Option String) : scopeField (scopeValue scope) = .ok (scopeValue scope) := by
  cases scope <;> rfl

theorem Holds.create [DecidableEq ι] (fresh : ∀ i, (subjects i).valid = none) {i : ι} {scope : Value} {r : Request}
    (created : (Request.create (some (subjects i)) method extra scope).ends start = (.ok r, desk)) :
    ∃ name classes used, Request.Takes method extra name classes ∧
      Holds subjects name classes start ⟨remember subjects i r, ⟨i, scope, r⟩, [], desk⟩ used := by
  obtain ⟨t, name, classes, bounds, valid, takes, bounded, rfl⟩ := Request.create_eq_ok.mp created
  obtain ⟨rfl, used, grown, memory⟩ := (Checked.initial subjects start).check fresh valid
  refine ⟨name, classes, used, takes, memory, fun j => ?_, ?_, ?_⟩
  · rw [grown]
    simp [links]
  · intro link member
    obtain rfl := List.mem_singleton.mp member
    exact bounded
  · intro link member
    obtain rfl := List.mem_singleton.mp member
    rfl

theorem Holds.withSubject [DecidableEq ι] (fresh : ∀ i, (subjects i).valid = none)
    (h : Holds subjects name classes start c used) {i : ι} {r : Request}
    (updated : (c.latest.request.withSubject (some (c.subjects i))).ends c.desk = (.ok r, desk)) :
    ∃ used', Holds subjects name classes start
      ⟨remember c.subjects i r, ⟨i, c.latest.scope, r⟩, c.links, desk⟩ used' := by
  obtain ⟨t, valid, rfl⟩ := Request.withSubject_eq_ok.mp updated
  obtain ⟨rfl, used', grown, memory⟩ := h.memory.check fresh valid
  have scope := h.scopes c.latest List.mem_cons_self
  have request := h.requests c.latest List.mem_cons_self
  refine ⟨used', h.extend memory grown scope ?_⟩
  rw [request]
  rfl

theorem Holds.withScope (h : Holds subjects name classes start c used) (scope : Option String) :
    Holds subjects name classes start
      ⟨c.subjects, ⟨c.latest.subject, scopeValue scope, c.latest.request.withScope (scopeValue scope)⟩, c.links, c.desk⟩
      used := by
  have request := h.requests c.latest List.mem_cons_self
  refine h.extend h.memory (fun j => ⟨.inr, ?_⟩) (scopeField_scopeValue scope) ?_
  · rintro (rfl | member)
    · exact (h.used_iff _).mpr ⟨c.latest, List.mem_cons_self, rfl⟩
    · exact member
  · rw [request]
    rfl

theorem Holds.verify [DecidableEq ι] (h : Holds subjects name classes start c used) (named : name ≠ "") {link : Link ι}
    (member : link ∈ c.links) {v : Verifier τ μ} {s : Session μ} (asked : s.request = link.request)
    (engine : v.engine.Spares View.checked) (sinks : v.SinksSpare View.checked) :
    Holds subjects name classes start
      ⟨remember c.subjects link.subject (v.verify.ends ⟨s, c.desk⟩).2.session.request, c.latest, c.earlier,
        (v.verify.ends ⟨s, c.desk⟩).2.desk⟩ used := by
  have ready := h.ready named member
  have known : c.subjects link.subject = (subjects link.subject).passed :=
    h.memory.passed _ ((h.used_iff _).mpr ⟨link, member, rfl⟩)
  have kept : remember c.subjects link.subject (v.verify.ends ⟨s, c.desk⟩).2.session.request = c.subjects := by
    rw [(ready.verify asked v c.desk).1, remember, ready.asked, Option.getD_some, ← known, Function.update_eq_self]
  have unchecked : View.checked.look (v.verify.ends ⟨s, c.desk⟩).2.desk = View.checked.look c.desk := by
    refine Verifier.verify_spares (b := ⟨s, c.desk⟩) engine sinks ?_
    rw [ready.validSubject (s := .asking s.request) asked]
  refine ⟨⟨h.memory.nodup, ?_, ?_, unchecked.trans h.memory.checked⟩, h.used_iff, h.scopes, h.requests⟩
  · rw [kept]
    exact h.memory.passed
  · rw [kept]
    exact h.memory.unknown

theorem Made.holds [DecidableEq ι] (fresh : ∀ i, (subjects i).valid = none)
    (made : Made subjects method extra start c) :
    ∃ name classes used, Request.Takes method extra name classes ∧ Holds subjects name classes start c used := by
  -- the name and the classes are those of the first request; only the subjects in use become more
  induction made with
  | create created => exact Holds.create fresh created
  | withSubject before updated ih =>
    obtain ⟨name, classes, used, takes, holds⟩ := ih
    obtain ⟨used', holds⟩ := holds.withSubject fresh updated
    exact ⟨name, classes, used', takes, holds⟩
  | withScope before scope ih =>
    obtain ⟨name, classes, used, takes, holds⟩ := ih
    exact ⟨name, classes, used, takes, holds.withScope scope⟩
  | verify before member v s asked engine sinks ih =>
    obtain ⟨name, classes, used, takes, holds⟩ := ih
    exact ⟨name, classes, used, takes, holds.verify takes.ne_empty member asked engine sinks⟩
  | meanwhile before desk unchecked ih =>
    obtain ⟨name, classes, used, takes, ⟨⟨nodup, passed, unknown, checked⟩, used_iff, scopes, requests⟩⟩ := ih
    exact ⟨name, classes, used, takes, ⟨nodup, passed, unknown, unchecked.trans checked⟩, used_iff, scopes, requests⟩

/-! ## Requests from scratch -/

/-- The request is the one that is created from scratch with its subject and its scope, whether the subject is already
known to be valid or is checked for the purpose. -/
structure Rebuilt (subjects : ι → Subject) (method extra : Value) (c : Chain τ ι) (link : Link ι) : Prop where
  known : ∀ desk : Desk τ, (Request.create (some (c.subjects link.subject)) method extra link.scope).ends desk =
    (.ok link.request, desk)
  anew : ∀ (desk desk' : Desk τ) (r : Request),
    (Request.create (some (subjects link.subject)) method extra link.scope).ends desk = (.ok r, desk') →
      r = link.request ∧ ∀ s, r.subject = some s →
        Configuration.build s r = Configuration.build (c.subjects link.subject) link.request
  dependencies : ∃ items classes, extra.items? = some items ∧ items.map Value.asText? = classes.map some ∧
    link.request.dependencies = (subjects link.subject).className :: classes

structure Refuses (τ : Type) (r : Request) : Prop where
  missing : ∀ desk : Desk τ, (r.withSubject none).ends desk = (.error (.ofRequest .noSubject), desk)
  invalid : ∀ (s t : Subject) (desk desk' : Desk τ), s.validate.ends desk = (.ok (false, t), desk') →
    (r.withSubject (some s)).ends desk = (.error (.ofRequest .invalidSubject), desk')

/-- A run on the request finds a valid subject without looking at the desk, so what it raises is raised by its engine or
a sink, unless another run is still going on. -/
def Passes (τ : Type) (r : Request) (subject : Subject) : Prop :=
  ∀ (μ : Type) (v : Verifier τ μ) (s : Session μ), s.request = r → ∀ desk : Desk τ,
    Verifier.validSubject.ends (⟨s, desk⟩ : Bench τ μ) = (.ok subject, ⟨s, desk⟩) ∧
      ∀ f, (v.verify.ends ⟨s, desk⟩).1 = .error f → s.state = .running ∧ f = .ofUsage .inProgress ∨ v.Raises f

structure Sound (subjects : ι → Subject) (method extra : Value) (start : Desk τ) (c : Chain τ ι) : Prop where
  rebuilt : ∀ link ∈ c.links, Rebuilt subjects method extra c link
  refuses : ∀ link ∈ c.links, Refuses τ link.request
  passes : ∀ link ∈ c.links, Passes τ link.request (c.subjects link.subject)
  /-- Each subject was checked once, when it was first used. -/
  checked : ∃ used : List ι, used.Nodup ∧ (∀ i, i ∈ used ↔ ∃ link ∈ c.links, link.subject = i) ∧
    c.desk.checked = start.checked ++ used.map fun i => (subjects i).checkedText

theorem Holds.rebuilt (h : Holds subjects name classes start c used) (takes : Request.Takes method extra name classes)
    (fresh : ∀ i, (subjects i).valid = none) {link : Link ι} (member : link ∈ c.links) :
    Rebuilt subjects method extra c link := by
  have request := h.requests link member
  have known : c.subjects link.subject = (subjects link.subject).passed :=
    h.memory.passed _ ((h.used_iff _).mpr ⟨link, member, rfl⟩)
  refine ⟨fun desk => ?_, fun desk desk' r created => ?_, ?_⟩
  · rw [known]
    exact Request.create_eq_ok.mpr
      ⟨_, name, classes, _, Subject.validate_known rfl desk, takes, h.scopes link member, request⟩
  · obtain ⟨t, name', classes', bounds, valid, takes', bounded, rfl⟩ := Request.create_eq_ok.mp created
    obtain ⟨rfl, -⟩ := Subject.validate_unknown (fresh _) valid
    obtain ⟨rfl, rfl⟩ := takes.unique takes'
    obtain rfl : link.request.scope = bounds := Except.ok.inj ((h.scopes link member).symm.trans bounded)
    refine ⟨request.symm, ?_⟩
    rintro s ⟨⟩
    rw [known]
    exact congrArg _ request.symm
  · obtain ⟨items, found, texts⟩ := takes.classes
    exact ⟨items, classes, found, texts, by rw [request]⟩

/-- Any chain of updates gives the requests that would be created from scratch, and makes each compile check once. -/
theorem updates_equal_creation [DecidableEq ι] (fresh : ∀ i, (subjects i).valid = none)
    (made : Made subjects method extra start c) : Sound subjects method extra start c := by
  obtain ⟨name, classes, used, takes, holds⟩ := made.holds fresh
  refine ⟨fun link member => holds.rebuilt takes fresh member, fun link member => ⟨Request.withSubject_none _, ?_⟩,
    fun link member => ?_, used, holds.memory.nodup, holds.used_iff, holds.memory.checked⟩
  · intro s t desk desk' invalid
    exact Request.withSubject_invalid _ invalid
  · intro μ v s asked desk
    have ready := holds.ready takes.ne_empty member
    rw [holds.memory.passed _ ((holds.used_iff _).mpr ⟨link, member, rfl⟩)]
    exact ⟨ready.validSubject asked desk, (ready.verify asked v desk).2⟩

end

end Chain

/-! ## Verifiers that make no checks of their own -/

def Run.Keeps (view : View τ ω) (x : Run (Desk τ) α) : Prop := ∀ desk, view.look (x.ends desk).2 = view.look desk

namespace Run.Keeps

variable {view : View τ ω}

theorem pure (a : α) : Run.Keeps view (pure a) := fun _ => rfl

theorem throw (f : Fault) : Run.Keeps view (throw f : Run (Desk τ) α) := fun _ => rfl

theorem get : Run.Keeps view (get : Run (Desk τ) (Desk τ)) := fun _ => rfl

theorem check (r : Except Fault α) : Run.Keeps view (Desk.check r) := fun desk => by rw [ends_check]

theorem say (level : Level) (message : String) : Run.Keeps view (Desk.say level message) := fun desk => by
  rw [ends_say]
  exact view.quiet desk _

theorem bind {x : Run (Desk τ) α} {f : α → Run (Desk τ) β} (first : Run.Keeps view x)
    (next : ∀ a, Run.Keeps view (f a)) : Run.Keeps view (x >>= f) := by
  intro desk
  have before := first desk
  rw [ends_bind]
  generalize x.ends desk = ended at before
  obtain ⟨_ | a, middle⟩ := ended
  · exact before
  · exact (next a middle).trans before

end Run.Keeps

namespace BoundedEngine

theorem loadDependencies_keeps (e : BoundedEngine) (view : View τ ω) (root : Value) (seen names : List String) :
    Run.Keeps view (e.loadDependencies root seen names) := by
  induction names generalizing seen with
  | nil => exact .pure _
  | cons name rest ih =>
    rw [loadDependencies]
    split
    · exact ih seen
    · refine .bind .get fun desk => .bind (.check _) fun model => ?_
      cases model with
      | none => exact .bind (.say _ _) fun _ => ih _
      | some m => exact .bind (ih _) fun models => .pure _

theorem engine_spares (e : BoundedEngine) (view : View τ ω) : e.engine.Spares view where
  analyze s configuration := by
    change Run.Keeps view (e.analyze configuration)
    refine .bind (.check _) fun site => .bind .get fun desk => .bind (.check _) fun subject => ?_
    cases subject with
    | none => exact .throw _
    | some subject =>
      simp only
      cases subject.method? site.methodName with
      | none => exact .throw _
      | some method =>
        refine .bind (e.loadDependencies_keeps view _ _ _) fun dependencies => ?_
        refine .bind (.check _) fun scopes => .bind (.say _ _) fun _ => ?_
        exact .bind (.check _) fun _ => .bind (.check _) fun encoding => .check _
  snapshot m context className methodId := Run.Keeps.check _

end BoundedEngine

namespace Sink

theorem spares_of_keeps {view : View τ ω} {sink : Sink τ} (keeps : ∀ text, Run.Keeps view (sink.write text)) :
    sink.Spares view where
  written text desk desk' worked := by
    have kept := keeps text desk
    rwa [worked] at kept
  failed text desk f desk' failed := by
    have kept := keeps text desk
    rwa [failed] at kept

theorem file_spares_checked (path : Value) : (file path : Sink τ).Spares View.checked := by
  refine spares_of_keeps fun text desk => ?_
  cases path with
  | str path =>
    cases written : ((file (.str path)).write text).ends desk with
    | mk r desk' =>
      obtain ⟨_, _, _, _, _, rfl⟩ | ⟨_, _, _, _, _, _, rfl⟩ | ⟨_, _, _, _, rfl⟩ := write_file written <;> rfl
  | int n =>
    change View.checked.look ((writeFile (.int n) text).ends desk).2 = _
    simp only [writeFile]
    split <;> rfl
  | _ => rfl

theorem console_spares (view : View τ ω) : (console : Sink τ).Spares view :=
  spares_of_keeps fun _ desk => view.quiet desk _

end Sink

def valveOrGate (valve : Bool) : Subject :=
  { sourceRoot := "src", className := if valve then "Valve" else "Gate", check := .answer true }

theorem valve_requests_rebuilt :
    ∃ c : Chain Unit Bool,
      c.links.map (·.subject) = [true, true, false, true] ∧
      c.latest.request.dependencies = ["Valve", "Pump", "Pump"] ∧
      c.latest.request.scope = .str "int:4" ∧
      Chain.Sound valveOrGate (.str "shut") (.list [.str "Pump", .str "Pump"]) { rest := () } c := by
  let v : Verifier Unit SolvedModel := ⟨BoundedEngine.engine {}, [.file, .console]⟩
  have engine : v.engine.Spares View.checked := BoundedEngine.engine_spares _ _
  have sinks : v.SinksSpare View.checked := by
    intro sink member
    rcases List.mem_pair.mp member with rfl | rfl
    · exact Sink.file_spares_checked _
    · exact Sink.console_spares _
  have created : Chain.Made valveOrGate (.str "shut") (.list [.str "Pump", .str "Pump"]) ({ rest := () } : Desk Unit)
      ⟨_, ⟨true, .null, _⟩, [], _⟩ := .create rfl
  have gate := created.withSubject (i := false) rfl
  have valve := gate.withSubject (i := true) rfl
  have bounded := valve.withScope (some "int:4")
  have verified := bounded.verify List.mem_cons_self v { request := _ } rfl engine sinks
  have again := verified.verify (List.mem_cons_of_mem _ List.mem_cons_self) v { request := _ } rfl engine sinks
  exact ⟨_, rfl, rfl, rfl, Chain.updates_equal_creation (fun _ => rfl) again⟩

end Covenant
