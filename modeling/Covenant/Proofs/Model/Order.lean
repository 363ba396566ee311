import Covenant.Proofs.Model.EffectTerms
import Covenant.Proofs.Model.Width

namespace Covenant

open Clause (Context Scope)

/-! ## Rearranged models -/

structure ClassModel.Rearranged (m m' : ClassModel) : Prop where
  className : m.className = m'.className
  fields : m.fields.Perm m'.fields
  staticFields : m.staticFields.Perm m'.staticFields
  invariant : m.invariant = m'.invariant

structure MethodModel.Rearranged (m m' : MethodModel) : Prop where
  params : m.params.Perm m'.params
  isStatic : m.isStatic = m'.isStatic
  returns : m.returns = m'.returns
  requires : m.requires = m'.requires
  ensures : m.ensures = m'.ensures
  effects : m.effects.Perm m'.effects

/-- The classes and the method are the same but for the order of their declarations. -/
structure Rearranged (subject : ClassModel) (method : MethodModel) (dependencies : List ClassModel)
    (subject' : ClassModel) (method' : MethodModel) (dependencies' : List ClassModel) : Prop where
  subject : subject.Rearranged subject'
  method : method.Rearranged method'
  dependencies : List.Forall₂ ClassModel.Rearranged dependencies dependencies'

namespace ClassModel.Rearranged

variable {m m' : ClassModel}

theorem symm (h : m.Rearranged m') : m'.Rearranged m :=
  ⟨h.className.symm, h.fields.symm, h.staticFields.symm, h.invariant.symm⟩

theorem simpleName (h : m.Rearranged m') : m.simpleName = m'.simpleName := by
  rw [ClassModel.simpleName, h.className, ClassModel.simpleName]

end ClassModel.Rearranged

/-! ## Lookups -/

theorem lookup_of_perm {α : Type} {entries entries' : List (String × α)} (perm : entries.Perm entries')
    (distinct : (entries.map (·.1)).Nodup) (name : String) : entries.lookup name = entries'.lookup name := by
  have distinct' : (entries'.map (·.1)).Nodup := (perm.map _).nodup_iff.mp distinct
  cases found : entries'.lookup name with
  | some v => exact lookup_of_mem distinct (perm.mem_iff.mpr (mem_of_lookup found))
  | none =>
    rw [lookup_eq_none_iff_not_mem] at found ⊢
    exact fun member => found ((perm.map _).mem_iff.mp member)

theorem mapM_perm {ε α β : Type} {f : α → Except ε β} {xs xs' : List α} (perm : xs.Perm xs') {ys : List β}
    (h : xs.mapM f = .ok ys) : ∃ ys', xs'.mapM f = .ok ys' ∧ ys.Perm ys' := by
  induction perm generalizing ys with
  | nil => exact ⟨ys, h, .refl ys⟩
  | cons x _ ih =>
    rw [List.mapM_cons] at h
    obtain ⟨y, first, h⟩ := bind_eq_ok.mp h
    obtain ⟨zs, others, made⟩ := bind_eq_ok.mp h
    cases made
    obtain ⟨zs', others', same⟩ := ih others
    refine ⟨y :: zs', ?_, same.cons y⟩
    rw [List.mapM_cons, first, ok_bind, others', ok_bind]
    rfl
  | swap x x' rest =>
    rw [List.mapM_cons, List.mapM_cons] at h
    obtain ⟨y, first, h⟩ := bind_eq_ok.mp h
    obtain ⟨_, h, made⟩ := bind_eq_ok.mp h
    obtain ⟨y', second, h⟩ := bind_eq_ok.mp h
    obtain ⟨zs, others, tail⟩ := bind_eq_ok.mp h
    cases tail
    cases made
    refine ⟨y' :: y :: zs, ?_, .swap y' y zs⟩
    rw [List.mapM_cons, List.mapM_cons, second, ok_bind, first, ok_bind, others]
    rfl
  | trans _ _ ih ih' =>
    obtain ⟨zs, middle, same⟩ := ih h
    obtain ⟨ys', last, same'⟩ := ih' middle
    exact ⟨ys', last, same.trans same'⟩

def Terms.Alike (ts ts' : Terms) : Prop := ∀ name, ts.lookup name = ts'.lookup name

structure Frame.Alike (f f' : Frame) : Prop where
  params : f.params.Alike f'.params
  fields : f.fields.Alike f'.fields
  statics : f.statics.Alike f'.statics
  owners : ∀ c, Option.Rel Terms.Alike (f.owners.lookup c) (f'.owners.lookup c)

namespace Frame.Alike

variable {f f' : Frame}

theorem value? (h : f.Alike f') (name : String) : f.value? name = f'.value? name := by
  simp only [Frame.value?, h.params name, h.fields name, h.statics name]

theorem members? (h : f.Alike f') (isStatic : Bool) (simpleName owner : String) :
    Option.Rel Terms.Alike (f.members? isStatic simpleName owner) (f'.members? isStatic simpleName owner) := by
  simp only [Frame.members?, h.value?]
  split
  · exact .some h.statics
  · split
    · exact .some h.fields
    · split
      · exact .none
      · exact h.owners owner

theorem reading (h : f.Alike f') (isStatic : Bool) (simpleName : String) (r : Spelling) :
    f.reading isStatic simpleName r = f'.reading isStatic simpleName r := by
  cases r with
  | bare name =>
    have members := h.members? isStatic simpleName name
    simp only [Frame.reading, h.value?]
    revert members
    generalize f.members? isStatic simpleName name = ms, f'.members? isStatic simpleName name = ms'
    rintro (_ | _) <;> rfl
  | member owner field =>
    have members := h.members? isStatic simpleName owner
    simp only [Frame.reading]
    revert members
    generalize f.members? isStatic simpleName owner = ms, f'.members? isStatic simpleName owner = ms'
    rintro (same | _)
    · simp only [same field]
    · rfl

theorem table? (h : f.Alike f') (target : String) : f.table? target = f'.table? target := by
  simp only [Frame.table?, h.fields target]

theorem scope (h : f.Alike f') (distinct : f.Distinct) (distinct' : f'.Distinct) (isStatic : Bool)
    (simpleName : String) : (f.scope isStatic simpleName).Alike (f'.scope isStatic simpleName) := by
  intro r
  rw [Frame.read_scope distinct, Frame.read_scope distinct', h.reading]

theorem effectTerm (h : f.Alike f') {context context' : Context} (same : context.Alike context') (returns : Value)
    (target text : String) :
    Covenant.effectTerm context f returns target text = Covenant.effectTerm context' f' returns target text := by
  simp only [Covenant.effectTerm, same.term, h.fields target, h.statics target]

end Frame.Alike

theorem Clause.Scope.Alike.withResult {scope scope' : Scope} (h : scope.Alike scope') (result : Option SomeTerm) :
    (withResult scope result).Alike (withResult scope' result) := by
  intro r
  rw [read_withResult, read_withResult scope', h r]

/-! ## Declaring -/

theorem nodup_names_front {xs ys : List Variable} (distinct : (names (xs ++ ys)).Nodup) : (names xs).Nodup := by
  rw [names_append] at distinct
  exact (List.nodup_append.mp distinct).1

section

variable {variableName : String → String} {ds : Declarations} {xs : List Variable}

theorem declareVariable_of {name typeName : String} {ty : Ty} (known : Clause.sortOf? typeName = some ty)
    (fresh : name ∉ names xs) :
    (declareVariable name typeName).run xs = .ok (⟨ty, .var name ty⟩, xs ++ [⟨name, ty⟩]) := by
  have once : xs.any (·.name = name) = false := by simpa [names] using fresh
  simp only [declareVariable, StateT.run_bind]
  change (if (xs.any (·.name = name)) = true then _ else _ : Declaring SomeTerm).run xs = _
  simp only [once, known]
  rfl

theorem declareAll_of (known : KnownTypes ds)
    (distinct : (names (xs ++ declaredVariables variableName ds)).Nodup) :
    (declareAll variableName ds).run xs =
      .ok (declaredTerms variableName ds, xs ++ declaredVariables variableName ds) := by
  induction ds generalizing xs with
  | nil => simp [declareAll, declaredTerms, declaredVariables]
  | cons d rest ih =>
    obtain ⟨name, typeName⟩ := d
    obtain ⟨ty, sort⟩ := Option.isSome_iff_exists.mp (known (name, typeName) List.mem_cons_self)
    simp only at sort
    have knownRest : KnownTypes rest := fun d member => known d (List.mem_cons_of_mem _ member)
    have declared : declaredVariables variableName ((name, typeName) :: rest) =
        ⟨variableName name, ty⟩ :: declaredVariables variableName rest := by simp [declaredVariables, sort]
    have terms : declaredTerms variableName ((name, typeName) :: rest) =
        (name, ⟨ty, .var (variableName name) ty⟩) :: declaredTerms variableName rest := by simp [declaredTerms, sort]
    rw [declared, List.append_cons] at distinct
    have fresh : variableName name ∉ names xs := by
      have front := nodup_names_front distinct
      rw [names_append] at front
      have apart := (List.nodup_append.mp front).2.2
      exact fun member => apart _ member _ (List.mem_singleton.mpr rfl) rfl
    rw [declareAll, StateT.run_bind, declareVariable_of sort fresh, ok_bind, StateT.run_bind, ih knownRest distinct,
      declared, terms]
    simp

theorem declareOwners_of {dependencies : List ClassModel} (known : ∀ m ∈ dependencies, KnownTypes m.staticFields)
    (distinct : (names (xs ++ dependencies.flatMap staticsOf)).Nodup) :
    (declareOwners dependencies).run xs = .ok (ownersOf dependencies, xs ++ dependencies.flatMap staticsOf) := by
  induction dependencies generalizing xs with
  | nil => simp [declareOwners, ownersOf]
  | cons m rest ih =>
    rw [List.flatMap_cons, ← List.append_assoc] at distinct
    rw [declareOwners, StateT.run_bind, declareStatics,
      declareAll_of (known m List.mem_cons_self) (nodup_names_front distinct), ok_bind, StateT.run_bind]
    have others := ih (fun n member => known n (List.mem_cons_of_mem _ member)) distinct
    rw [staticsOf] at others
    rw [others, ok_bind, List.flatMap_cons, ← List.append_assoc]
    rfl

end

variable {subject subject' : ClassModel} {method method' : MethodModel} {dependencies dependencies' : List ClassModel}
  {frame frame' : Frame} {unknowns unknowns' : List Variable}

theorem declareFrame_of (params : KnownTypes method.params) (fields : KnownTypes (receiverFields subject method))
    (statics : KnownTypes subject.staticFields) (owners : ∀ m ∈ dependencies, KnownTypes m.staticFields)
    (distinct : (names (methodVariables subject method dependencies)).Nodup) :
    ∃ frame, (declareFrame subject method dependencies).run [] =
      .ok (frame, methodVariables subject method dependencies) := by
  have own := nodup_names_front distinct
  have receiver := nodup_names_front own
  have first := nodup_names_front receiver
  rw [declareFrame_eq]
  exact ⟨_, run_bind_ok.mpr ⟨_, _, declareAll_of params first, run_bind_ok.mpr ⟨_, _, declareAll_of fields receiver,
    run_bind_ok.mpr ⟨_, _, declareAll_of statics own, run_bind_ok.mpr ⟨_, _, declareOwners_of owners distinct,
      rfl⟩⟩⟩⟩⟩

theorem KnownTypes.of_perm {ds ds' : Declarations} (perm : ds.Perm ds') (known : KnownTypes ds) : KnownTypes ds' :=
  fun d member => known d (perm.mem_iff.mpr member)

theorem declaredVariables_perm {ds ds' : Declarations} (perm : ds.Perm ds') (variableName : String → String) :
    (declaredVariables variableName ds).Perm (declaredVariables variableName ds') := perm.filterMap _

theorem declaredTerms_alike {ds ds' : Declarations} (perm : ds.Perm ds') {variableName : String → String}
    (known : KnownTypes ds) (distinct : (names (declaredVariables variableName ds)).Nodup) :
    Terms.Alike (declaredTerms variableName ds) (declaredTerms variableName ds') :=
  lookup_of_perm (perm.filterMap _) (nodup_keys known distinct)

theorem staticsOf_perm {m m' : ClassModel} (h : m.Rearranged m') : (staticsOf m).Perm (staticsOf m') := by
  rw [staticsOf, staticsOf, ← h.simpleName]
  exact declaredVariables_perm h.staticFields _

theorem knownOwners_of_rearranged (h : List.Forall₂ ClassModel.Rearranged dependencies dependencies')
    (known : ∀ m ∈ dependencies, KnownTypes m.staticFields) : ∀ m ∈ dependencies', KnownTypes m.staticFields := by
  induction h with
  | nil => exact known
  | cons first _ ih =>
    rw [List.forall_mem_cons] at known ⊢
    exact ⟨known.1.of_perm first.staticFields, ih known.2⟩

theorem flatMap_staticsOf_perm (h : List.Forall₂ ClassModel.Rearranged dependencies dependencies') :
    (dependencies.flatMap staticsOf).Perm (dependencies'.flatMap staticsOf) := by
  induction h with
  | nil => exact .refl _
  | cons first _ ih =>
    rw [List.flatMap_cons, List.flatMap_cons]
    exact (staticsOf_perm first).append ih

theorem find?_rearranged {ms ms' : List ClassModel} (h : List.Forall₂ ClassModel.Rearranged ms ms') (c : String) :
    Option.Rel ClassModel.Rearranged (ms.find? (·.simpleName = c)) (ms'.find? (·.simpleName = c)) := by
  induction h with
  | nil => exact .none
  | cons first _ ih =>
    rw [List.find?_cons, List.find?_cons, ← first.simpleName]
    split
    · exact .some first
    · exact ih

namespace Rearranged

theorem symm (h : Rearranged subject method dependencies subject' method' dependencies') :
    Rearranged subject' method' dependencies' subject method dependencies where
  subject := h.subject.symm
  method := ⟨h.method.params.symm, h.method.isStatic.symm, h.method.returns.symm, h.method.requires.symm,
    h.method.ensures.symm, h.method.effects.symm⟩
  dependencies := by
    have swapped := h.dependencies.flip
    exact swapped.imp fun _ _ rearranged => rearranged.symm

variable (h : Rearranged subject method dependencies subject' method' dependencies')
include h

theorem receiverFields_perm : (receiverFields subject method).Perm (receiverFields subject' method') := by
  rw [receiverFields, receiverFields, ← h.method.isStatic]
  split
  · exact .refl _
  · exact h.subject.fields

theorem methodVariables_perm :
    (methodVariables subject method dependencies).Perm (methodVariables subject' method' dependencies') := by
  have params := declaredVariables_perm h.method.params id
  have fields := declaredVariables_perm h.receiverFields_perm (dotted "this")
  exact ((params.append fields).append (staticsOf_perm h.subject)).append (flatMap_staticsOf_perm h.dependencies)

theorem checkedInvariant_eq : checkedInvariant subject method = checkedInvariant subject' method' := by
  rw [checkedInvariant, checkedInvariant, h.subject.invariant, h.method.isStatic]

theorem declares (d : Declares subject method dependencies frame unknowns) :
    ∃ frame', (declareFrame subject' method' dependencies').run [] =
      .ok (frame', methodVariables subject' method' dependencies') := by
  refine declareFrame_of (d.knownParams.of_perm h.method.params) (d.knownFields.of_perm h.receiverFields_perm)
    (d.knownStatics.of_perm h.subject.staticFields) (knownOwners_of_rearranged h.dependencies d.knownOwners) ?_
  have distinct := d.distinct
  rw [d.unknown] at distinct
  exact (h.methodVariables_perm.map _).nodup_iff.mp distinct

theorem frames (d : Declares subject method dependencies frame unknowns)
    (d' : Declares subject' method' dependencies' frame' unknowns') : frame.Alike frame' := by
  have distinct := d.distinct
  rw [d.unknown, methodVariables, names_append, names_append, names_append] at distinct
  have own := (List.nodup_append.mp distinct).1
  have receiver := (List.nodup_append.mp own).1
  refine ⟨?_, ?_, ?_, ?_⟩
  · rw [d.params, d'.params]
    exact declaredTerms_alike h.method.params d.knownParams (List.nodup_append.mp receiver).1
  · rw [d.fields, d'.fields]
    exact declaredTerms_alike h.receiverFields_perm d.knownFields (List.nodup_append.mp receiver).2.1
  · rw [d.statics, d'.statics, ← h.subject.simpleName]
    exact declaredTerms_alike h.subject.staticFields d.knownStatics (List.nodup_append.mp own).2.1
  · intro c
    rw [d.owners, d'.owners, lookup_putOwners, lookup_putOwners, lookup_reverse_ownersOf, lookup_reverse_ownersOf,
      List.lookup_nil, Option.or_none, Option.or_none]
    have last := find?_rearranged (List.rel_reverse h.dependencies) c
    cases found : dependencies.reverse.find? (·.simpleName = c) with
    | none =>
      rw [found] at last
      generalize dependencies'.reverse.find? (·.simpleName = c) = found' at last ⊢
      cases last
      exact .none
    | some m =>
      rw [found] at last
      generalize dependencies'.reverse.find? (·.simpleName = c) = found' at last ⊢
      cases last with
      | some rearranged =>
        have related : m ∈ dependencies := List.mem_reverse.mp (List.mem_of_find?_eq_some found)
        have others := (List.nodup_append.mp distinct).2.1
        rw [names_flatMap, List.nodup_flatMap] at others
        rw [Option.map_some, Option.map_some, ← rearranged.simpleName]
        exact .some (declaredTerms_alike rearranged.staticFields (d.knownOwners m related) (others.1 m related))

theorem preScopes (d : Declares subject method dependencies frame unknowns)
    (d' : Declares subject' method' dependencies' frame' unknowns') :
    (preScope subject method frame).Alike (preScope subject' method' frame') := by
  rw [preScope, preScope, ← h.method.isStatic, ← h.subject.simpleName]
  exact (h.frames d d').scope d.distinctFrame d'.distinctFrame _ _

/-! ## Effects -/

variable {post post' : PostState} {result : Option SomeTerm}

theorem effects (targets : (method.effects.map (·.1)).Nodup) (d : Declares subject method dependencies frame unknowns)
    (d' : Declares subject' method' dependencies' frame' unknowns') (e : Effects subject method frame post result) :
    ∃ post', Effects subject' method' frame' post' result ∧ (frame.withPost post).Alike (frame'.withPost post') := by
  have alike := h.frames d d'
  have scopes := h.preScopes d d'
  obtain ⟨us, assigned, rfl⟩ := e.terms
  have context : Context.Alike ⟨preScope subject method frame, some (preScope subject method frame)⟩
      ⟨preScope subject' method' frame', some (preScope subject' method' frame')⟩ := ⟨scopes, .some scopes⟩
  have distinct : (us.map (·.1)).Nodup := by
    rw [keys_effectTerms assigned]
    exact targets
  simp only [effectTerms, alike.effectTerm context] at assigned
  obtain ⟨us', assigned', perm⟩ := mapM_perm h.method.effects assigned
  have distinct' : (us'.map (·.1)).Nodup := (perm.map _).nodup_iff.mp distinct
  have last (name : String) : us.reverse.lookup name = us'.reverse.lookup name := by
    rw [lookup_reverse distinct, lookup_reverse distinct', lookup_of_perm perm distinct]
  have results : (PostState.assignAll ⟨frame.fields, frame.statics, none⟩ frame us).result =
      (PostState.assignAll ⟨frame'.fields, frame'.statics, none⟩ frame' us').result := by
    rw [result_assignAll, result_assignAll, last]
  refine ⟨PostState.assignAll ⟨frame'.fields, frame'.statics, none⟩ frame' us', ⟨?_, ?_⟩, ?_⟩
  · simp only [applyEffects_eq]
    rw [← h.method.returns, effectTerms, ← preScope, assigned']
    rfl
  · have resulting := e.result
    unfold resultTerm at resulting ⊢
    rwa [← results, ← h.method.returns]
  · have held (table : Table) (initial : Terms.Alike (PostState.held ⟨frame.fields, frame.statics, none⟩ table)
        (PostState.held ⟨frame'.fields, frame'.statics, none⟩ table)) :
        Terms.Alike ((PostState.assignAll ⟨frame.fields, frame.statics, none⟩ frame us).held table)
          ((PostState.assignAll ⟨frame'.fields, frame'.statics, none⟩ frame' us').held table) := by
      intro name
      rw [held_assignAll, held_assignAll, initial name, alike.table? name, last name]
    exact ⟨alike.params, held .fields alike.fields, held .statics alike.statics, alike.owners⟩

theorem postScopes (d : Declares subject method dependencies frame unknowns)
    (d' : Declares subject' method' dependencies' frame' unknowns') (e : Effects subject method frame post result)
    (e' : Effects subject' method' frame' post' result) (alike : (frame.withPost post).Alike (frame'.withPost post')) :
    (postScope subject method frame post result).Alike (postScope subject' method' frame' post' result) := by
  rw [postScope, postScope, ← h.method.isStatic, ← h.subject.simpleName]
  exact (alike.scope (e.distinctFrame d) (e'.distinctFrame d') _ _).withResult result

end Rearranged

/-! ## Encodings -/

theorem InvariantTerms.alike {before after before' after' : Context} (pre : before.Alike before')
    (post : after.Alike after') {text? : Option String} {terms : List (Term .bool × Term .bool)}
    (h : InvariantTerms before after text? terms) : InvariantTerms before' after' text? terms := by
  cases h with
  | unchecked => exact .unchecked
  | checked assumed kept => exact .checked (pre.boolTerm _ ▸ assumed) (post.boolTerm _ ▸ kept)

/-- What two encodings have in common: the terms of their clauses and of every location before and after the call, and
the constraints, the order of the bounds aside. -/
structure SameCondition {bits : Nat} {enc enc' : Encoding} (e : Encodes subject method dependencies bits enc)
    (e' : Encodes subject' method' dependencies' bits enc') : Prop where
  before : e.frame.Alike e'.frame
  after : (e.frame.withPost e.post).Alike (e'.frame.withPost e'.post)
  result : e.result = e'.result
  required : e.required = e'.required
  ensured : e.ensured = e'.ensured
  invariants : e.invariants = e'.invariants
  bounds : enc.bounds.Perm enc'.bounds
  others : ∃ rest, enc.constraints = enc.bounds ++ rest ∧ enc'.constraints = enc'.bounds ++ rest

namespace Rearranged

variable (h : Rearranged subject method dependencies subject' method' dependencies') {bits : Nat} {enc : Encoding}
include h

theorem encodes (targets : (method.effects.map (·.1)).Nodup)
    (encoded : Encoding.ofMethod subject method dependencies bits = .ok enc) :
    ∃ (enc' : Encoding) (e : Encodes subject method dependencies bits enc)
      (e' : Encodes subject' method' dependencies' bits enc'),
      Encoding.ofMethod subject' method' dependencies' bits = .ok enc' ∧ SameCondition e e' := by
  obtain ⟨e⟩ := ofMethod_ok encoded
  obtain ⟨frame', declared'⟩ := h.declares e.declares
  have d' := declareFrame_ok declared'
  obtain ⟨post', effects', after⟩ := h.effects targets e.declares d' e.effects
  have pre := h.preScopes e.declares d'
  have post := h.postScopes e.declares d' e.effects effects' after
  have beforeAlike : Context.Alike ⟨preScope subject method e.frame, none⟩ ⟨preScope subject' method' frame', none⟩ :=
    ⟨pre, .none⟩
  have afterAlike : Context.Alike
      ⟨postScope subject method e.frame e.post e.result, some (preScope subject method e.frame)⟩
      ⟨postScope subject' method' frame' post' e.result, some (preScope subject' method' frame')⟩ := ⟨post, .some pre⟩
  have requires := (beforeAlike.boolTerm _).symm.trans e.requires
  have ensures := (afterAlike.boolTerm _).symm.trans e.ensures
  have invariant := e.invariant.alike beforeAlike afterAlike
  have written := invariant_written encoded
  rw [h.method.requires] at requires
  rw [h.method.ensures] at ensures
  rw [h.checkedInvariant_eq] at invariant
  rw [h.subject.invariant, h.method.isStatic] at written
  have made : Encoding.ofMethod subject' method' dependencies' bits = _ :=
    ofMethod_eq declared' effects' requires ensures written invariant
  have perm : enc.unknowns.Perm (methodVariables subject' method' dependencies') :=
    e.declares.unknown ▸ h.methodVariables_perm
  have writable : Encoding.Writable bits (methodVariables subject' method' dependencies') :=
    Encoding.Writable.of_perm perm e.narrow
  rw [if_neg (Encoding.writable_iff.mp writable)] at made
  let enc' : Encoding := ⟨methodVariables subject' method' dependencies',
    staticVariables subject' method' dependencies', bits, e.required :: e.invariants.map (·.1),
    e.ensured :: e.invariants.map (·.2)⟩
  let e' : Encodes subject' method' dependencies' bits enc' := {
    frame := frame'
    post := post'
    result := e.result
    required := e.required
    ensured := e.ensured
    invariants := e.invariants
    declares := d'
    effects := effects'
    requires := requires
    ensures := ensures
    invariant := invariant
    narrow := writable
    statics_eq := rfl
    bits_eq := rfl
    assumptions := rfl
    obligations := rfl }
  refine ⟨enc', e, e', made, ⟨h.frames e.declares d', after, rfl, rfl, rfl, rfl, ?_, ?_⟩⟩
  · rw [Encoding.bounds, Encoding.bounds, e.bits_eq]
    exact perm.filterMap _
  · refine ⟨_, List.append_assoc .., ?_⟩
    rw [e.assumptions, e.obligations]
    exact List.append_assoc ..

end Rearranged

/-- The order of parameters, fields, static fields and effects decides neither whether a method can be encoded nor what
its clauses and locations are encoded as. -/
theorem encoding_independent_of_order (h : Rearranged subject method dependencies subject' method' dependencies')
    (targets : (method.effects.map (·.1)).Nodup) (bits : Nat) :
    ((∃ enc, Encoding.ofMethod subject method dependencies bits = .ok enc) ↔
        ∃ enc', Encoding.ofMethod subject' method' dependencies' bits = .ok enc') ∧
      ∀ enc enc', Encoding.ofMethod subject method dependencies bits = .ok enc →
        Encoding.ofMethod subject' method' dependencies' bits = .ok enc' →
        ∃ (e : Encodes subject method dependencies bits enc) (e' : Encodes subject' method' dependencies' bits enc'),
          SameCondition e e' := by
  have targets' : (method'.effects.map (·.1)).Nodup := (h.method.effects.map _).nodup_iff.mp targets
  refine ⟨⟨?_, ?_⟩, ?_⟩
  · rintro ⟨enc, encoded⟩
    obtain ⟨enc', -, -, encoded', -⟩ := h.encodes targets encoded
    exact ⟨enc', encoded'⟩
  · rintro ⟨enc', encoded'⟩
    obtain ⟨enc, -, -, encoded, -⟩ := h.symm.encodes targets' encoded'
    exact ⟨enc, encoded⟩
  · intro enc enc' encoded encoded'
    obtain ⟨_, e, e', made, same⟩ := h.encodes targets encoded
    obtain rfl := Except.ok.inj (encoded'.symm.trans made)
    exact ⟨e, e', same⟩

namespace Encoding

def exchange : MethodModel where
  name := "exchange"
  params := [("step", "int"), ("up", "bool")]
  returns := .str "int"
  requires := "up and Hall.open"
  ensures := "low == old(high) + step and result == old(low)"
  effects := [("low", "high + step"), ("high", "low"), ("result", "low")]

def lift : ClassModel where
  className := "Lift"
  fields := [("low", "int"), ("high", "int")]
  staticFields := [("floor", "int"), ("top", "int")]
  invariant := .str "low <= high"

def hall : ClassModel where
  className := "Hall"
  staticFields := [("open", "bool"), ("size", "real")]

end Encoding

def ClassModel.reversed (m : ClassModel) : ClassModel :=
  { m with fields := m.fields.reverse, staticFields := m.staticFields.reverse }

def MethodModel.reversed (m : MethodModel) : MethodModel :=
  { m with params := m.params.reverse, effects := m.effects.reverse }

open Encoding in
theorem exchange_in_reverse :
    ∃ (enc enc' : Encoding) (e : Encodes lift exchange [hall] 4 enc)
      (e' : Encodes lift.reversed exchange.reversed [hall.reversed] 4 enc'),
      Encoding.ofMethod lift exchange [hall] 4 = .ok enc ∧
        Encoding.ofMethod lift.reversed exchange.reversed [hall.reversed] 4 = .ok enc' ∧ SameCondition e e' := by
  have reversed (m : ClassModel) : m.Rearranged m.reversed :=
    ⟨rfl, (List.reverse_perm _).symm, (List.reverse_perm _).symm, rfl⟩
  have rearranged : Rearranged lift exchange [hall] lift.reversed exchange.reversed [hall.reversed] :=
    ⟨reversed lift, ⟨(List.reverse_perm _).symm, rfl, rfl, rfl, rfl, (List.reverse_perm _).symm⟩,
      .cons (reversed hall) .nil⟩
  have encodes : (Encoding.ofMethod lift exchange [hall] 4).isOk = true := by decide +kernel
  obtain ⟨enc, encoded⟩ := exists_of_isOk encodes
  obtain ⟨either, same⟩ := encoding_independent_of_order rearranged (by decide) 4
  obtain ⟨enc', encoded'⟩ := either.mp ⟨enc, encoded⟩
  obtain ⟨e, e', alike⟩ := same enc enc' encoded encoded'
  exact ⟨enc, enc', e, e', encoded, encoded', alike⟩

end Covenant
