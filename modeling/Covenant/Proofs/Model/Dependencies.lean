import Covenant.Proofs.Clause.Extension
import Covenant.Proofs.Model.ClassInvariant
import Covenant.Proofs.Model.Posed
import Covenant.Proofs.Model.Spelling
import Covenant.Proofs.Model.UnspecifiedResult
import Covenant.Proofs.Term.Search
import Covenant.Proofs.Text.Pieces

/-!
# Methods beside further classes

The static state of further classes can be declared beside a method or it cannot, and then one of these classes is to
blame. If it can, every clause has the term that it had, and the constraints have a solution if and only if they had
one: the new variables stand in no clause, and zero is within every bit width.
-/

namespace Covenant

open Clause (Scope Context)

/-! ## Simple names -/

theorem ClassModel.dot_not_mem_simpleName (m : ClassModel) : '.' ∉ m.simpleName.toList := by
  unfold simpleName Text.afterLastDot
  split
  · rename_i found
    rw [String.toList_ofList]
    exact (Text.cutLast?_eq_some.mp found).2
  · rename_i absent
    exact Text.cutLast?_eq_none.mp absent

theorem takeWhile_append_cons {c : Char} {a : List Char} (absent : c ∉ a) (rest : List Char) :
    (a ++ c :: rest).takeWhile (· != c) = a := by
  have passes : ∀ d ∈ a, (d != c) = true := fun d member => bne_iff_ne.mpr fun same => absent (same ▸ member)
  rw [List.takeWhile_append_of_pos passes]
  simp

theorem simpleName_eq_of_dotted {m n : ClassModel} {f g : String}
    (same : dotted m.simpleName f = dotted n.simpleName g) : m.simpleName = n.simpleName := by
  have chars : m.simpleName.toList ++ '.' :: f.toList = n.simpleName.toList ++ '.' :: g.toList := by
    have lists := congrArg String.toList same
    simpa [dotted] using lists
  apply String.toList_injective
  rw [← takeWhile_append_cons m.dot_not_mem_simpleName f.toList, chars,
    takeWhile_append_cons n.dot_not_mem_simpleName]

/-! ## Declaring that fails -/

inductive Undeclarable (variableName : String → String) (xs : List Variable) (d : String × String) :
    EncodingError → Prop
  | untyped (unknown : Clause.sortOf? d.2 = none) : Undeclarable variableName xs d (.unknownType d.2)
  | taken (taken : variableName d.1 ∈ names xs) : Undeclarable variableName xs d (.declaredTwice (variableName d.1))

theorem run_bind_error {α β : Type} {x : Declaring α} {f : α → Declaring β} {xs : List Variable} {err : EncodingError} :
    (x >>= f).run xs = .error err ↔
      x.run xs = .error err ∨ ∃ a ys, x.run xs = .ok (a, ys) ∧ (f a).run ys = .error err := by
  rw [StateT.run_bind, bind_eq_error]
  simp only [Prod.exists]

theorem declareVariable_error {variableName : String → String} {d : String × String} {xs : List Variable}
    {err : EncodingError} (h : (declareVariable (variableName d.1) d.2).run xs = .error err) :
    Undeclarable variableName xs d err := by
  rcases run_bind_error.mp h with impossible | ⟨_, _, got, h⟩
  · cases impossible
  cases got
  by_cases twice : xs.any (·.name = variableName d.1) = true
  · simp only [twice, if_true] at h
    rcases run_bind_error.mp h with thrown | ⟨_, _, impossible, _⟩
    · cases thrown
      refine .taken ?_
      simpa [names] using twice
    · cases impossible
  · simp only [twice] at h
    cases known : Clause.sortOf? d.2 with
    | none =>
      rw [known] at h
      cases h
      exact .untyped known
    | some ty =>
      rw [known] at h
      cases h

theorem declareAll_error {variableName : String → String} {ds : Declarations} {xs : List Variable}
    {err : EncodingError} (h : (declareAll variableName ds).run xs = .error err) :
    ∃ earlier d later, ds = earlier ++ d :: later ∧
      Undeclarable variableName (xs ++ declaredVariables variableName earlier) d err := by
  induction ds generalizing xs with
  | nil => cases h
  | cons d rest ih =>
    rcases run_bind_error.mp h with failed | ⟨t, zs, declared, h⟩
    · exact ⟨[], d, rest, rfl, by simpa [declaredVariables] using declareVariable_error failed⟩
    · obtain ⟨ty, known, -, rfl, -⟩ := declareVariable_ok declared
      rcases run_bind_error.mp h with failed | ⟨_, _, _, impossible⟩
      · obtain ⟨earlier, d', later, rfl, undeclarable⟩ := ih failed
        refine ⟨d :: earlier, d', later, rfl, ?_⟩
        have head : declaredVariables variableName (d :: earlier) =
            ⟨variableName d.1, ty⟩ :: declaredVariables variableName earlier := by
          simp [declaredVariables, known]
        rw [head]
        simpa using undeclarable
      · cases impossible

theorem declareOwners_error {ms : List ClassModel} {xs : List Variable} {err : EncodingError}
    (h : (declareOwners ms).run xs = .error err) :
    ∃ before m after earlier d later, ms = before ++ m :: after ∧ m.staticFields = earlier ++ d :: later ∧
      Undeclarable (dotted m.simpleName)
        (xs ++ before.flatMap staticsOf ++ declaredVariables (dotted m.simpleName) earlier) d err := by
  induction ms generalizing xs with
  | nil => cases h
  | cons m rest ih =>
    rcases run_bind_error.mp h with failed | ⟨members, zs, declared, h⟩
    · obtain ⟨earlier, d, later, split, undeclarable⟩ := declareAll_error failed
      exact ⟨[], m, rest, earlier, d, later, rfl, split, by simpa using undeclarable⟩
    · obtain ⟨-, -, rfl, -⟩ := declareAll_ok declared
      rcases run_bind_error.mp h with failed | ⟨_, _, _, impossible⟩
      · obtain ⟨before, m', after, earlier, d, later, rfl, split, undeclarable⟩ := ih failed
        refine ⟨m :: before, m', after, earlier, d, later, rfl, split, ?_⟩
        simpa [staticsOf] using undeclarable
      · cases impossible

/-! ## Frames -/

variable {subject : ClassModel} {method : MethodModel} {small large : List ClassModel} {frame : Frame}
  {unknowns : List Variable}

theorem methodVariables_eq (subject : ClassModel) (method : MethodModel) (dependencies : List ClassModel) :
    methodVariables subject method dependencies =
      methodVariables subject method [] ++ dependencies.flatMap staticsOf := by
  simp [methodVariables]

theorem mem_methodVariables_of_covers (covers : ∀ m ∈ small, m ∈ large) {x : Variable}
    (member : x ∈ methodVariables subject method small) : x ∈ methodVariables subject method large := by
  rw [methodVariables_eq] at member ⊢
  rcases List.mem_append.mp member with own | other
  · exact List.mem_append_left _ own
  · obtain ⟨m, related, isStatic⟩ := List.mem_flatMap.mp other
    exact List.mem_append_right _ (List.mem_flatMap.mpr ⟨m, covers m related, isStatic⟩)

theorem exists_of_new {x : Variable} (member : x ∈ methodVariables subject method large)
    (new : x ∉ methodVariables subject method small) : ∃ m ∈ large, m ∉ small ∧ x ∈ staticsOf m := by
  rw [methodVariables_eq] at member new
  rcases List.mem_append.mp member with own | other
  · exact absurd (List.mem_append_left _ own) new
  · obtain ⟨m, related, isStatic⟩ := List.mem_flatMap.mp other
    refine ⟨m, related, fun before => new ?_, isStatic⟩
    exact List.mem_append_right _ (List.mem_flatMap.mpr ⟨m, before, isStatic⟩)

theorem declareFrame_run (declared : (declareFrame subject method small).run [] = .ok (frame, unknowns))
    (large : List ClassModel) :
    (declareFrame subject method large).run [] =
      ((declareOwners large).run (methodVariables subject method [])).map fun r =>
        ({ frame with owners := r.1.foldl (fun os (name, members) => putOwner os name members) [] }, r.2) := by
  rw [declareFrame_eq] at declared ⊢
  obtain ⟨params, xs, declaredParams, h⟩ := run_bind_ok.mp declared
  obtain ⟨fields, ys, declaredFields, h⟩ := run_bind_ok.mp h
  obtain ⟨statics, zs, declaredStatics, h⟩ := run_bind_ok.mp h
  obtain ⟨owners, ws, -, made⟩ := run_bind_ok.mp h
  have own : zs = methodVariables subject method [] := by
    obtain ⟨-, -, rfl, -⟩ := declareAll_ok declaredParams
    obtain ⟨-, -, rfl, -⟩ := declareAll_ok declaredFields
    obtain ⟨-, -, rfl, -⟩ := declareAll_ok declaredStatics
    simp [methodVariables, staticsOf]
  cases made
  rw [StateT.run_bind, declaredParams, ok_bind, StateT.run_bind, declaredFields, ok_bind, StateT.run_bind,
    declaredStatics, ok_bind, StateT.run_bind, own]
  cases (declareOwners large).run (methodVariables subject method []) with
  | error err => rfl
  | ok r => rfl

inductive Obstructs (subject : ClassModel) (method : MethodModel) (bits : Nat) (m : ClassModel) : EncodingError → Prop
  | untyped {f : String × String} (declared : f ∈ m.staticFields) (unknown : Clause.sortOf? f.2 = none) :
      Obstructs subject method bits m (.unknownType f.2)
  | taken {f : String × String} (declared : f ∈ m.staticFields)
      (taken : dotted m.simpleName f.1 ∈ names (methodVariables subject method [])) :
      Obstructs subject method bits m (.declaredTwice (dotted m.simpleName f.1))
  | tooWide (wide : Encoding.tooWide bits = true) {x : Variable} (declared : x ∈ staticsOf m) (whole : x.ty = .int) :
      Obstructs subject method bits m .longNumber

structure Separate (ms : List ClassModel) : Prop where
  simpleNames : (ms.map (·.simpleName)).Nodup
  fields : ∀ m ∈ ms, (m.staticFields.map (·.1)).Nodup

theorem mem_names_staticsOf {m : ClassModel} {name : String} (h : name ∈ names (staticsOf m)) :
    ∃ f ∈ m.staticFields, name = dotted m.simpleName f.1 := by
  obtain ⟨x, member, rfl⟩ := List.mem_map.mp h
  obtain ⟨f, typeName, ty, declared, -, rfl⟩ := mem_declaredVariables.mp member
  exact ⟨(f, typeName), declared, rfl⟩

theorem Declares.names_nodup (d : Declares subject method small frame unknowns) :
    (names (methodVariables subject method [] ++ small.flatMap staticsOf)).Nodup := by
  rw [← methodVariables_eq, ← d.unknown]
  exact d.distinct

theorem Undeclarable.obstructs (d : Declares subject method small frame unknowns) (separate : Separate large)
    {bits : Nat} {before after : List ClassModel} {m : ClassModel} (split : large = before ++ m :: after)
    {earlier later : Declarations} {f : String × String} (fields : m.staticFields = earlier ++ f :: later)
    {err : EncodingError} (h : Undeclarable (dotted m.simpleName) (methodVariables subject method [] ++
      before.flatMap staticsOf ++ declaredVariables (dotted m.simpleName) earlier) f err) :
    m ∉ small ∧ Obstructs subject method bits m err := by
  have declared : f ∈ m.staticFields := by simp [fields]
  cases h with
  | untyped unknown =>
    refine ⟨fun member => ?_, .untyped declared unknown⟩
    have known := d.knownOwners m member f declared
    rw [unknown] at known
    cases known
  | taken taken =>
    rw [names_append, names_append, List.mem_append, List.mem_append] at taken
    rcases taken with (own | other) | same
    · refine ⟨fun member => ?_, .taken declared own⟩
      -- the variable of the class would be declared twice beside the fewer classes already
      have present : dotted m.simpleName f.1 ∈ names (small.flatMap staticsOf) := by
        obtain ⟨ty, known⟩ := Option.isSome_iff_exists.mp (d.knownOwners m member f declared)
        refine List.mem_map.mpr ⟨⟨_, ty⟩, List.mem_flatMap.mpr ⟨m, member, ?_⟩, rfl⟩
        exact mem_declaredVariables.mpr ⟨f.1, f.2, ty, declared, known, rfl⟩
      have nodup := d.names_nodup
      rw [names_append] at nodup
      exact (List.nodup_append.mp nodup).2.2 _ own _ present rfl
    · obtain ⟨n, earlierClass, isStatic⟩ : ∃ n ∈ before, dotted m.simpleName f.1 ∈ names (staticsOf n) := by
        rw [names_flatMap] at other
        exact List.mem_flatMap.mp other
      obtain ⟨g, -, clash⟩ := mem_names_staticsOf isStatic
      have apart := separate.simpleNames
      rw [split, List.map_append, List.map_cons, List.nodup_append] at apart
      have differ := apart.2.2 n.simpleName (List.mem_map_of_mem earlierClass) m.simpleName List.mem_cons_self
      exact absurd (simpleName_eq_of_dotted clash).symm differ
    · obtain ⟨x, member, same⟩ := List.mem_map.mp same
      obtain ⟨g, typeName, ty, earlierField, -, rfl⟩ := mem_declaredVariables.mp member
      have keys := separate.fields m (by simp [split])
      rw [fields, List.map_append, List.map_cons, List.nodup_append] at keys
      exact absurd (dotted_inj.mp same) (keys.2.2 g (List.mem_map_of_mem earlierField) f.1 List.mem_cons_self)

theorem declareFrame_or_obstructs (declared : (declareFrame subject method small).run [] = .ok (frame, unknowns))
    (separate : Separate large) (bits : Nat) :
    (∃ frame' unknowns', (declareFrame subject method large).run [] = .ok (frame', unknowns')) ∨
      ∃ err, (declareFrame subject method large).run [] = .error err ∧
        ∃ m ∈ large, m ∉ small ∧ Obstructs subject method bits m err := by
  rw [declareFrame_run declared large]
  cases owners : (declareOwners large).run (methodVariables subject method []) with
  | ok r => exact .inl ⟨_, _, rfl⟩
  | error err =>
    obtain ⟨before, m, after, earlier, f, later, split, fields, undeclarable⟩ := declareOwners_error owners
    refine .inr ⟨err, rfl, m, by simp [split], ?_⟩
    exact undeclarable.obstructs (declareFrame_ok declared) separate split fields

structure Frame.Extends (small large : Frame) : Prop where
  params : large.params = small.params
  fields : large.fields = small.fields
  statics : large.statics = small.statics
  owners : ∀ c members, small.owners.lookup c = some members → large.owners.lookup c = some members

namespace Frame.Extends

variable {small large : Frame}

theorem withPost (h : small.Extends large) (post : PostState) : (small.withPost post).Extends (large.withPost post) :=
  ⟨h.params, rfl, rfl, h.owners⟩

theorem scope (h : small.Extends large) (isStatic : Bool) (simpleName : String) :
    (small.scope isStatic simpleName).Extends (large.scope isStatic simpleName) := by
  intro name b found
  simp only [Frame.scope, Scope.find?_owners, h.params, h.fields, h.statics] at found ⊢
  rcases Option.or_eq_some_iff.mp found with bound | ⟨free, owner⟩
  · exact Option.or_eq_some_iff.mpr (.inl bound)
  · obtain ⟨members, listed, rfl⟩ := Option.map_eq_some_iff.mp owner
    refine Option.or_eq_some_iff.mpr (.inr ⟨free, ?_⟩)
    rw [h.owners name members listed, Option.map_some]

theorem before (h : small.Extends large) (subject : ClassModel) (method : MethodModel) :
    Context.Extends ⟨preScope subject method small, none⟩ ⟨preScope subject method large, none⟩ :=
  .current (h.scope _ _)

theorem during (h : small.Extends large) (subject : ClassModel) (method : MethodModel) :
    Context.Extends ⟨preScope subject method small, some (preScope subject method small)⟩
      ⟨preScope subject method large, some (preScope subject method large)⟩ :=
  .both (h.scope _ _) (h.scope _ _)

theorem after (h : small.Extends large) (subject : ClassModel) (method : MethodModel) (post : PostState)
    (result : Option SomeTerm) :
    Context.Extends ⟨postScope subject method small post result, some (preScope subject method small)⟩
      ⟨postScope subject method large post result, some (preScope subject method large)⟩ := by
  refine .both ?_ (h.scope _ _)
  have larger := (h.withPost post).scope method.isStatic subject.simpleName
  cases result with
  | none => exact larger
  | some t => exact larger.bind _ _

theorem applyEffect (h : small.Extends large) {context context' : Context} (larger : context.Extends context')
    {returns : Value} {post next : PostState} {target text : String}
    (applied : Covenant.applyEffect context small returns post target text = .ok next) :
    Covenant.applyEffect context' large returns post target text = .ok next := by
  obtain ⟨t, read, applied⟩ := bind_eq_ok.mp applied
  have read' := larger.term (mapError_eq_ok.mp read)
  rw [Covenant.applyEffect, mapError_eq_ok.mpr read', ok_bind, h.fields, h.statics]
  exact applied

theorem applyEffects (h : small.Extends large) {context context' : Context} (larger : context.Extends context')
    {returns : Value} {effects : Declarations} {post last : PostState}
    (applied : Covenant.applyEffects context small returns post effects = .ok last) :
    Covenant.applyEffects context' large returns post effects = .ok last := by
  induction effects generalizing post with
  | nil => exact applied
  | cons effect rest ih =>
    obtain ⟨next, here, others⟩ := bind_eq_ok.mp applied
    rw [Covenant.applyEffects, h.applyEffect larger here, ok_bind]
    exact ih others

theorem effects (h : small.Extends large) {subject : ClassModel} {method : MethodModel} {post : PostState}
    {result : Option SomeTerm} (effects : Effects subject method small post result) :
    Effects subject method large post result := by
  refine ⟨?_, effects.result⟩
  rw [h.fields, h.statics]
  exact h.applyEffects (h.during subject method) effects.applied

end Frame.Extends

theorem Declares.frame_unique {frame' : Frame} {unknowns' : List Variable}
    (d : Declares subject method small frame unknowns) (d' : Declares subject method small frame' unknowns') :
    frame = frame' := by
  obtain ⟨params, fields, statics, owners⟩ := frame
  obtain ⟨params', fields', statics', owners'⟩ := frame'
  rw [Frame.mk.injEq]
  exact ⟨d.params.trans d'.params.symm, d.fields.trans d'.fields.symm, d.statics.trans d'.statics.symm,
    d.owners.trans d'.owners.symm⟩

theorem Separate.find?_reverse {m : ClassModel} (separate : Separate large) (member : m ∈ large) :
    large.reverse.find? (·.simpleName = m.simpleName) = some m := by
  obtain ⟨before, later, rfl⟩ := List.append_of_mem member
  have apart := separate.simpleNames
  rw [List.map_append, List.map_cons, List.nodup_append, List.nodup_cons] at apart
  have absent : later.reverse.find? (·.simpleName = m.simpleName) = none := by
    rw [List.find?_eq_none]
    intro n among same
    refine apart.2.1.1 (List.mem_map.mpr ⟨n, List.mem_reverse.mp among, ?_⟩)
    exact of_decide_eq_true same
  rw [find?_reverse_split, absent, Option.none_or]

theorem Declares.extends {frame' : Frame} {unknowns' : List Variable}
    (d : Declares subject method small frame unknowns) (d' : Declares subject method large frame' unknowns')
    (covers : ∀ m ∈ small, m ∈ large) (separate : Separate large) : frame.Extends frame' where
  params := d'.params.trans d.params.symm
  fields := d'.fields.trans d.fields.symm
  statics := d'.statics.trans d.statics.symm
  owners := by
    intro c members found
    rw [d.owners, lookup_putOwners, lookup_reverse_ownersOf] at found
    rw [d'.owners, lookup_putOwners, lookup_reverse_ownersOf]
    rw [List.lookup_nil, Option.or_none] at found ⊢
    obtain ⟨m, last, rfl⟩ := Option.map_eq_some_iff.mp found
    obtain rfl : m.simpleName = c := by simpa using List.find?_some last
    have member := covers m (List.mem_reverse.mp (List.mem_of_find?_eq_some last))
    rw [separate.find?_reverse member, Option.map_some]

/-! ## Encodings -/

variable {bits : Nat} {enc : Encoding}

theorem invariant_written (h : Encoding.ofMethod subject method small bits = .ok enc)
    (isChecked : (subject.invariant.truthy && !method.isStatic) = true) :
    ∃ text, subject.invariant.text? = some text := by
  obtain ⟨_, -, h⟩ := bind_eq_ok.mp h
  obtain ⟨_, -, h⟩ := bind_eq_ok.mp h
  obtain ⟨_, -, h⟩ := bind_eq_ok.mp h
  obtain ⟨_, -, h⟩ := bind_eq_ok.mp h
  obtain ⟨_, -, h⟩ := bind_eq_ok.mp h
  simp only [isChecked, if_true] at h
  obtain ⟨text, written, -⟩ := bind_eq_ok.mp h
  cases given : subject.invariant.text? with
  | none =>
    rw [given] at written
    cases written
  | some text => exact ⟨text, rfl⟩

theorem bind_of_ok {α β : Type} {x : Except EncodingError α} {f : α → Except EncodingError β} {a : α} (h : x = .ok a) :
    x >>= f = f a := by
  rw [h, ok_bind]

theorem ofMethod_eq {dependencies : List ClassModel} {post : PostState} {result : Option SomeTerm}
    {required ensured : Term .bool} {invariants : List (Term .bool × Term .bool)}
    (declared : (declareFrame subject method dependencies).run [] = .ok (frame, unknowns))
    (effects : Effects subject method frame post result)
    (requires : Context.boolTerm ⟨preScope subject method frame, none⟩ method.requires = .ok required)
    (ensures : Context.boolTerm ⟨postScope subject method frame post result, some (preScope subject method frame)⟩
      method.ensures = .ok ensured)
    (written : (subject.invariant.truthy && !method.isStatic) = true → ∃ text, subject.invariant.text? = some text)
    (invariant : InvariantTerms ⟨preScope subject method frame, none⟩
      ⟨postScope subject method frame post result, some (preScope subject method frame)⟩
      (checkedInvariant subject method) invariants) :
    Encoding.ofMethod subject method dependencies bits =
      if (Encoding.tooWide bits && unknowns.any (·.ty = .int)) = true then .error .longNumber
      else .ok ⟨unknowns, staticVariables subject method dependencies, bits, required :: invariants.map (·.1),
        ensured :: invariants.map (·.2)⟩ := by
  rw [Encoding.ofMethod, declared, ok_bind]
  simp only
  rw [effects.applied, ok_bind, effects.result, ok_bind]
  refine (bind_of_ok (a := required) (mapError_eq_ok.mpr requires)).trans ?_
  refine (bind_of_ok (a := ensured) ?_).trans ?_
  · cases result <;> exact mapError_eq_ok.mpr ensures
  by_cases isChecked : (subject.invariant.truthy && !method.isStatic) = true
  · obtain ⟨text, text_eq⟩ := written isChecked
    have checked : checkedInvariant subject method = some text := by
      simp only [checkedInvariant, isChecked, if_true, text_eq]
    rw [checked] at invariant
    cases invariant with
    | @checked _ assumed kept pre post_ok =>
      rw [if_pos isChecked, text_eq]
      refine (bind_of_ok (a := text) rfl).trans ?_
      refine (bind_of_ok (a := assumed) (mapError_eq_ok.mpr pre)).trans ?_
      refine (bind_of_ok (a := kept) ?_).trans rfl
      cases result <;> exact mapError_eq_ok.mpr post_ok
  · have unchecked : checkedInvariant subject method = none := by
      simp only [checkedInvariant, isChecked]
      rfl
    rw [unchecked] at invariant
    cases invariant
    rw [if_neg isChecked]
    rfl

theorem InvariantTerms.extends {before after before' after' : Context} (pre : before.Extends before')
    (post : after.Extends after') {text? : Option String} {terms : List (Term .bool × Term .bool)}
    (h : InvariantTerms before after text? terms) : InvariantTerms before' after' text? terms := by
  cases h with
  | unchecked => exact .unchecked
  | checked assumed kept => exact .checked (pre.boolTerm assumed) (post.boolTerm kept)

theorem ofMethod_of_declared (encoded : Encoding.ofMethod subject method small bits = .ok enc)
    (e : Encodes subject method small bits enc) {frame' : Frame} {unknowns' : List Variable}
    (declared : (declareFrame subject method large).run [] = .ok (frame', unknowns'))
    (larger : e.frame.Extends frame') :
    Encoding.ofMethod subject method large bits =
      if (Encoding.tooWide bits && unknowns'.any (·.ty = .int)) = true then .error .longNumber
      else .ok ⟨unknowns', staticVariables subject method large, bits, enc.assumptions, enc.obligations⟩ := by
  have before := larger.before subject method
  have after := larger.after subject method e.post e.result
  rw [e.assumptions, e.obligations]
  exact ofMethod_eq declared (larger.effects e.effects) (before.boolTerm e.requires) (after.boolTerm e.ensures)
    (invariant_written encoded) (e.invariant.extends before after)

/-! ## Clauses -/

def SameTerms (subject : ClassModel) (method : MethodModel) (small large : List ClassModel) : Prop :=
  ∀ place context text, Poses subject method small place context text →
    ∃ context' t, Poses subject method large place context' text ∧ context.term text = .ok t ∧
      context'.term text = .ok t

theorem Poses.extends {frame' : Frame} {unknowns' : List Variable}
    (declared : (declareFrame subject method small).run [] = .ok (frame, unknowns))
    (declared' : (declareFrame subject method large).run [] = .ok (frame', unknowns')) (larger : frame.Extends frame')
    {place : Place} {context : Context} {text : String} (posed : Poses subject method small place context text) :
    ∃ context', Poses subject method large place context' text ∧ context.Extends context' := by
  cases posed with
  | effect again member =>
    cases declared.symm.trans again
    exact ⟨_, .effect declared' member, larger.during _ _⟩
  | precondition again =>
    cases declared.symm.trans again
    exact ⟨_, .precondition declared', larger.before _ _⟩
  | postcondition again effects =>
    cases declared.symm.trans again
    exact ⟨_, .postcondition declared' (larger.effects effects), larger.after _ _ _ _⟩
  | assumed again checked =>
    cases declared.symm.trans again
    exact ⟨_, .assumed declared' checked, larger.before _ _⟩
  | kept again effects checked =>
    cases declared.symm.trans again
    exact ⟨_, .kept declared' (larger.effects effects) checked, larger.after _ _ _ _⟩

theorem Encodes.term_of_poses (e : Encodes subject method small bits enc)
    (declared : (declareFrame subject method small).run [] = .ok (e.frame, unknowns)) {place : Place}
    {context : Context} {text : String} (posed : Poses subject method small place context text) :
    ∃ t, context.term text = .ok t := by
  have terms : place.HasTerm context text := by
    refine hasTerm_of_terms declared e.effects e.requires e.ensures ?_ posed
    intro text checked
    have invariant := e.invariant
    rw [checked] at invariant
    revert invariant
    generalize e.invariants = terms
    rintro (_ | ⟨assumed, kept⟩)
    exact ⟨⟨_, assumed⟩, _, kept⟩
  cases place with
  | effect target => exact terms
  | precondition => exact terms.imp' _ fun _ found => boolTerm_ok found
  | postcondition => exact terms.imp' _ fun _ found => boolTerm_ok found
  | invariant => exact terms.imp' _ fun _ found => boolTerm_ok found

theorem Encodes.sameTerms {frame' : Frame} {unknowns' : List Variable} (e : Encodes subject method small bits enc)
    (declared : (declareFrame subject method small).run [] = .ok (e.frame, unknowns))
    (declared' : (declareFrame subject method large).run [] = .ok (frame', unknowns'))
    (larger : e.frame.Extends frame') : SameTerms subject method small large := by
  intro place context text posed
  obtain ⟨context', posed', extended⟩ := posed.extends declared declared' larger
  obtain ⟨t, found⟩ := e.term_of_poses declared posed
  exact ⟨context', t, posed', found, extended.term found⟩

/-! ## Solutions -/

def Encoding.Satisfiable (enc : Encoding) : Prop := ∃ i : Interpretation, ∀ c ∈ enc.constraints, c.eval i = true

structure Interpretation.Agree (xs : List Variable) (i j : Interpretation) : Prop where
  values : Search.AgreeOn xs i j
  result : j.var "result" = i.var "result"
  atZero : j.atZero = i.atZero

theorem read_congr {i j : Interpretation} {variableName : String → String} {ds : Declarations} {name typeName : String}
    (agree : Search.AgreeOn (declaredVariables variableName ds) i j) (declared : (name, typeName) ∈ ds) :
    j.read (variableName name) typeName = i.read (variableName name) typeName := by
  unfold Interpretation.read
  cases known : Clause.sortOf? typeName with
  | none => rfl
  | some ty =>
    have same := agree ⟨variableName name, ty⟩ (mem_declaredVariables.mpr ⟨name, typeName, ty, declared, known, rfl⟩)
    simp only [Option.map_some, same]

theorem lookup_read_congr {i j : Interpretation} {variableName : String → String} {ds : Declarations}
    (agree : Search.AgreeOn (declaredVariables variableName ds) i j) (name : String) :
    (ds.lookup name).bind (j.read (variableName name)) = (ds.lookup name).bind (i.read (variableName name)) := by
  cases found : ds.lookup name with
  | none => rfl
  | some typeName => exact read_congr agree (mem_of_lookup found)

theorem preState_congr {i j : Interpretation} (agree : Search.AgreeOn (methodVariables subject method small) i j) :
    preState subject method small j = preState subject method small i := by
  have params : Search.AgreeOn (declaredVariables id method.params) i j :=
    fun x member => agree x (by simp [methodVariables, member])
  have fields : Search.AgreeOn (declaredVariables (dotted "this") (receiverFields subject method)) i j :=
    fun x member => agree x (by simp [methodVariables, member])
  have statics : Search.AgreeOn (staticsOf subject) i j :=
    fun x member => agree x (by simp [methodVariables, member])
  simp only [preState]
  congr 1
  · funext p
    exact lookup_read_congr params p
  · funext f
    exact lookup_read_congr fields f
  · funext f
    exact lookup_read_congr statics f
  · funext c
    cases found : small.reverse.find? (·.simpleName = c) with
    | none => rfl
    | some m =>
      have related : m ∈ small := List.mem_reverse.mp (List.mem_of_find?_eq_some found)
      have owned : Search.AgreeOn (staticsOf m) i j := by
        intro x member
        apply agree
        rw [methodVariables_eq]
        exact List.mem_append_right _ (List.mem_flatMap.mpr ⟨m, related, member⟩)
      simp only [Option.map_some, Option.some.injEq]
      funext f
      exact lookup_read_congr owned f

theorem Counterexample.congr {i j : Interpretation} (agree : i.Agree (methodVariables subject method small) j)
    (h : Counterexample subject method small bits i) : Counterexample subject method small bits j := by
  have pre := preState_congr agree.values
  have earlier : before subject method small j = before subject method small i := by rw [before, pre, before]
  have later : after subject method small j = after subject method small i := by
    rw [after, postState, pre, agree.result, agree.atZero, after, postState]
  refine ⟨fun x member whole => ?_, ?_, ?_, ?_⟩
  · obtain ⟨name, ty⟩ := x
    obtain rfl : ty = .int := whole
    have same := agree.values _ member
    exact same ▸ h.bounded _ member rfl
  · rw [agree.atZero, earlier]
    exact h.requires
  · rw [agree.atZero, earlier]
    exact h.invariant
  · rw [agree.atZero, earlier, later]
    exact h.broken

def Interpretation.keeping (kept : List String) (i : Interpretation) : Interpretation :=
  { i with var := fun name ty => if name ∈ kept then i.var name ty else zeros.var name ty }

theorem Interpretation.keeping_agree (i : Interpretation) (xs : List Variable) :
    i.Agree xs (i.keeping ("result" :: names xs)) where
  values x member := by
    have kept : x.name ∈ "result" :: names xs := List.mem_cons_of_mem _ (List.mem_map_of_mem member)
    simp only [keeping, if_pos kept]
  result := by
    funext ty
    have kept : "result" ∈ "result" :: names xs := List.mem_cons_self
    simp only [keeping, if_pos kept]
  atZero := rfl

theorem within_keeping (d : Declares subject method large frame unknowns) (covers : ∀ m ∈ small, m ∈ large)
    {i : Interpretation} (within : Within bits (methodVariables subject method small) i) :
    Within bits (methodVariables subject method large)
      (i.keeping ("result" :: names (methodVariables subject method small))) := by
  rintro ⟨name, ty⟩ member whole
  obtain rfl : ty = .int := whole
  by_cases old : ⟨name, .int⟩ ∈ methodVariables subject method small
  · have same := (i.keeping_agree (methodVariables subject method small)).values _ old
    exact same ▸ within _ old rfl
  · have new : name ∉ "result" :: names (methodVariables subject method small) := by
      intro kept
      rcases List.mem_cons.mp kept with rfl | kept
      · -- the names of static fields have a dot
        obtain ⟨m, -, -, isStatic⟩ := exists_of_new member old
        obtain ⟨f, -, clash⟩ := mem_names_staticsOf (List.mem_map_of_mem isStatic)
        exact dotted_ne_result _ _ clash.symm
      · obtain ⟨y, present, same⟩ := List.mem_map.mp kept
        have among := mem_methodVariables_of_covers covers present
        rw [← d.unknown] at among member
        exact old (d.eq_of_name_eq among member same ▸ present)
    have zero : (i.keeping ("result" :: names (methodVariables subject method small))).var name .int =
        Interpretation.zeros.var name .int := if_neg new
    exact zero ▸ zeros_within bits [⟨name, .int⟩] _ List.mem_cons_self rfl

theorem Encodes.satisfiable_iff {enc' : Encoding} (e : Encodes subject method small bits enc)
    (e' : Encodes subject method large bits enc') (covers : ∀ m ∈ small, m ∈ large)
    (assumptions : enc'.assumptions = enc.assumptions) (obligations : enc'.obligations = enc.obligations) :
    enc.Satisfiable ↔ enc'.Satisfiable := by
  constructor
  · rintro ⟨i, solves⟩
    have counterexample := e.constraints_iff_counterexample.mp solves
    have agree := i.keeping_agree (methodVariables subject method small)
    have solves' := e.constraints_iff_counterexample.mpr (counterexample.congr agree)
    refine ⟨i.keeping ("result" :: names (methodVariables subject method small)), ?_⟩
    rw [Encoding.constraints_iff] at solves' ⊢
    refine ⟨Encoding.bounds_iff.mpr ?_, assumptions ▸ solves'.2.1, obligations ▸ solves'.2.2⟩
    rw [e'.bits_eq, e'.declares.unknown]
    exact within_keeping e'.declares covers counterexample.bounded
  · rintro ⟨i, solves⟩
    refine ⟨i, ?_⟩
    rw [Encoding.constraints_iff, Encoding.bounds_iff, e'.bits_eq, e'.declares.unknown, assumptions,
      obligations] at solves
    rw [Encoding.constraints_iff, Encoding.bounds_iff, e.bits_eq, e.declares.unknown]
    exact ⟨fun x member => solves.1 x (mem_methodVariables_of_covers covers member), solves.2⟩

/-- What the encodings of a method beside fewer and beside more classes have in common. -/
structure Encoding.Alike (subject : ClassModel) (method : MethodModel) (small large : List ClassModel)
    (enc enc' : Encoding) : Prop where
  terms : SameTerms subject method small large
  assumptions : enc'.assumptions = enc.assumptions
  obligations : enc'.obligations = enc.obligations
  satisfiable : enc.Satisfiable ↔ enc'.Satisfiable

/-- A method that can be encoded beside some classes is encoded alike beside more, unless one of these obstructs it. -/
theorem ofMethod_or_obstructs (encoded : Encoding.ofMethod subject method small bits = .ok enc)
    (covers : ∀ m ∈ small, m ∈ large) (separate : Separate large) :
    (∃ enc', Encoding.ofMethod subject method large bits = .ok enc' ∧
        Encoding.Alike subject method small large enc enc') ∨
      ∃ err, Encoding.ofMethod subject method large bits = .error err ∧
        ∃ m ∈ large, m ∉ small ∧ Obstructs subject method bits m err := by
  obtain ⟨e⟩ := ofMethod_ok encoded
  obtain ⟨frame, declared⟩ := declareFrame_of_ofMethod encoded
  obtain rfl : frame = e.frame := (declareFrame_ok declared).frame_unique e.declares
  rcases declareFrame_or_obstructs declared separate bits with ⟨frame', unknowns', declared'⟩ | ⟨err, failed, blamed⟩
  case inr =>
    refine .inr ⟨err, ?_, blamed⟩
    rw [Encoding.ofMethod, failed]
    rfl
  have larger := e.declares.extends (declareFrame_ok declared') covers separate
  have made := ofMethod_of_declared encoded e declared' larger
  by_cases wide : (Encoding.tooWide bits && unknowns'.any (·.ty = .int)) = true
  · rw [if_pos wide] at made
    obtain ⟨isWide, anyWhole⟩ := (Bool.and_eq_true _ _).mp wide
    obtain ⟨x, member, whole⟩ := List.any_eq_true.mp anyWhole
    have whole : x.ty = .int := of_decide_eq_true whole
    -- beside the fewer classes there was no whole number, or these could not have been encoded
    have noInt := e.narrow.resolve_left (by simp [isWide])
    rw [(declareFrame_ok declared').unknown] at member
    rw [e.declares.unknown] at noInt
    obtain ⟨m, related, further, isStatic⟩ := exists_of_new member fun old => noInt x old whole
    exact .inr ⟨_, made, m, related, further, .tooWide isWide isStatic whole⟩
  · rw [if_neg wide] at made
    obtain ⟨e'⟩ := ofMethod_ok made
    refine .inl ⟨_, made, ?_, rfl, rfl, ?_⟩
    · exact e.sameTerms declared declared' larger
    · exact e.satisfiable_iff e' covers rfl rfl

end Covenant
