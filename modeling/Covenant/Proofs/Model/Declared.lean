import Covenant.Proofs.Basic
import Covenant.Proofs.Model.State

namespace Covenant

def declaredTerms (variableName : String → String) (ds : Declarations) : Terms :=
  ds.filterMap fun (name, typeName) => (Clause.sortOf? typeName).map fun ty => (name, ⟨ty, .var (variableName name) ty⟩)

def KnownTypes (ds : Declarations) : Prop := ∀ d ∈ ds, (Clause.sortOf? d.2).isSome

def names (xs : List Variable) : List String := xs.map (·.name)

theorem dotted_inj {owner a b : String} : dotted owner a = dotted owner b ↔ a = b := by
  simp [dotted]

theorem dot_mem_dotted (owner name : String) : '.' ∈ (dotted owner name).toList := by
  simp [dotted]

theorem run_bind_ok {α β : Type} {x : Declaring α} {f : α → Declaring β} {xs zs : List Variable} {b : β} :
    (x >>= f).run xs = .ok (b, zs) ↔ ∃ a ys, x.run xs = .ok (a, ys) ∧ (f a).run ys = .ok (b, zs) := by
  rw [StateT.run_bind, bind_eq_ok]
  exact ⟨fun ⟨⟨a, ys⟩, first, second⟩ => ⟨a, ys, first, second⟩, fun ⟨a, ys, first, second⟩ => ⟨⟨a, ys⟩, first, second⟩⟩

theorem declareVariable_ok {name typeName : String} {xs ys : List Variable} {t : SomeTerm}
    (h : (declareVariable name typeName).run xs = .ok (t, ys)) :
    ∃ ty, Clause.sortOf? typeName = some ty ∧ t = ⟨ty, .var name ty⟩ ∧ ys = xs ++ [⟨name, ty⟩] ∧ name ∉ names xs := by
  obtain ⟨_, _, got, h⟩ := run_bind_ok.mp h
  cases got
  by_cases twice : xs.any (·.name = name)
  · simp only [twice, if_true] at h
    obtain ⟨_, _, thrown, -⟩ := run_bind_ok.mp h
    cases thrown
  · simp only [twice] at h
    cases known : Clause.sortOf? typeName with
    | none =>
      rw [known] at h
      cases h
    | some ty =>
      rw [known] at h
      cases h
      refine ⟨ty, rfl, rfl, rfl, ?_⟩
      simpa [names] using twice

theorem declareAll_ok {variableName : String → String} {ds : Declarations} {xs ys : List Variable} {ts : Terms}
    (h : (declareAll variableName ds).run xs = .ok (ts, ys)) :
    KnownTypes ds ∧ ts = declaredTerms variableName ds ∧ ys = xs ++ declaredVariables variableName ds ∧
      ((names xs).Nodup → (names ys).Nodup) := by
  induction ds generalizing xs ts with
  | nil =>
    cases h
    simp [KnownTypes, declaredTerms, declaredVariables]
  | cons d rest ih =>
    obtain ⟨name, typeName⟩ := d
    obtain ⟨t, zs, declared, h⟩ := run_bind_ok.mp h
    obtain ⟨us, ws, others, made⟩ := run_bind_ok.mp h
    cases made
    obtain ⟨ty, known, rfl, rfl, fresh⟩ := declareVariable_ok declared
    obtain ⟨knownRest, rfl, rfl, distinct⟩ := ih others
    refine ⟨?_, ?_, ?_, ?_⟩
    · intro d member
      rcases List.mem_cons.mp member with rfl | member
      · simp [known]
      · exact knownRest d member
    · simp [declaredTerms, known]
    · simp [declaredVariables, known]
    · intro nodup
      apply distinct
      rw [names, List.map_append, List.nodup_append]
      refine ⟨nodup, by simp, ?_⟩
      rintro a member b last rfl
      have same : a = variableName name := List.mem_singleton.mp last
      exact fresh (same ▸ member)

theorem names_declaredVariables {variableName : String → String} {ds : Declarations} (h : KnownTypes ds) :
    names (declaredVariables variableName ds) = ds.map fun d => variableName d.1 := by
  induction ds with
  | nil => rfl
  | cons d rest ih =>
    obtain ⟨ty, known⟩ := Option.isSome_iff_exists.mp (h d List.mem_cons_self)
    have knownRest : KnownTypes rest := fun d member => h d (List.mem_cons_of_mem _ member)
    have ih := ih knownRest
    simp only [names, declaredVariables] at ih ⊢
    simp [known, ih]

theorem keys_declaredTerms {variableName : String → String} {ds : Declarations} (h : KnownTypes ds) :
    (declaredTerms variableName ds).map (·.1) = ds.map (·.1) := by
  induction ds with
  | nil => rfl
  | cons d rest ih =>
    obtain ⟨ty, known⟩ := Option.isSome_iff_exists.mp (h d List.mem_cons_self)
    have knownRest : KnownTypes rest := fun d member => h d (List.mem_cons_of_mem _ member)
    have ih := ih knownRest
    simp only [declaredTerms] at ih ⊢
    simp [known, ih]

theorem nodup_keys {variableName : String → String} {ds : Declarations} (h : KnownTypes ds)
    (distinct : (names (declaredVariables variableName ds)).Nodup) :
    ((declaredTerms variableName ds).map (·.1)).Nodup := by
  rw [keys_declaredTerms h]
  rw [names_declaredVariables h] at distinct
  rw [show (fun d : String × String => variableName d.1) = variableName ∘ (·.1) from rfl, ← List.map_map] at distinct
  exact distinct.of_map variableName

theorem lookup_declaredTerms {variableName : String → String} {ds : Declarations} (h : KnownTypes ds) (name : String) :
    (declaredTerms variableName ds).lookup name =
      (ds.lookup name).bind fun typeName =>
        (Clause.sortOf? typeName).map fun ty => ⟨ty, .var (variableName name) ty⟩ := by
  induction ds with
  | nil => rfl
  | cons d rest ih =>
    obtain ⟨key, typeName⟩ := d
    obtain ⟨ty, known⟩ := Option.isSome_iff_exists.mp (h (key, typeName) List.mem_cons_self)
    have knownRest : KnownTypes rest := fun d member => h d (List.mem_cons_of_mem _ member)
    have head : declaredTerms variableName ((key, typeName) :: rest) =
        (key, ⟨ty, .var (variableName key) ty⟩) :: declaredTerms variableName rest := by
      simp only at known
      simp [declaredTerms, known]
    rw [head, lookup_cons_eq, lookup_cons_eq, ih knownRest]
    by_cases same : name = key
    · subst same
      simp only at known
      simp [known]
    · simp [same]

/-! ## Frames -/

def ownersOf (dependencies : List ClassModel) : List (String × Terms) :=
  dependencies.map fun m => (m.simpleName, declaredTerms (dotted m.simpleName) m.staticFields)

theorem declareOwners_ok {dependencies : List ClassModel} {xs ys : List Variable} {owners : List (String × Terms)}
    (h : (declareOwners dependencies).run xs = .ok (owners, ys)) :
    (∀ m ∈ dependencies, KnownTypes m.staticFields) ∧ owners = ownersOf dependencies ∧
      ys = xs ++ dependencies.flatMap staticsOf ∧ ((names xs).Nodup → (names ys).Nodup) := by
  induction dependencies generalizing xs owners with
  | nil =>
    cases h
    simp [ownersOf]
  | cons m rest ih =>
    obtain ⟨members, zs, declared, h⟩ := run_bind_ok.mp h
    obtain ⟨others, ws, declaredRest, made⟩ := run_bind_ok.mp h
    cases made
    obtain ⟨known, rfl, rfl, distinct⟩ := declareAll_ok declared
    obtain ⟨knownRest, rfl, rfl, distinctRest⟩ := ih declaredRest
    refine ⟨?_, rfl, ?_, distinctRest ∘ distinct⟩
    · intro m member
      rcases List.mem_cons.mp member with rfl | member
      · exact known
      · exact knownRest m member
    · simp [staticsOf]

theorem lookup_putOwner (owners : List (String × Terms)) (name : String) (members : Terms) (c : String) :
    (putOwner owners name members).lookup c = if c = name then some members else owners.lookup c := by
  induction owners with
  | nil => exact lookup_cons_eq name members [] c
  | cons entry rest ih =>
    obtain ⟨n, old⟩ := entry
    unfold putOwner
    split
    · rename_i same
      subst same
      rw [lookup_cons_eq, lookup_cons_eq]
      split <;> rfl
    · rename_i differs
      rw [lookup_cons_eq, lookup_cons_eq, ih]
      by_cases here : c = n
      · simp [here, differs]
      · simp [here]

theorem lookup_putOwners (owners others : List (String × Terms)) (c : String) :
    (others.foldl (fun os (name, members) => putOwner os name members) owners).lookup c =
      (others.reverse.lookup c).or (owners.lookup c) := by
  induction others generalizing owners with
  | nil => rfl
  | cons entry rest ih =>
    obtain ⟨n, members⟩ := entry
    rw [List.foldl_cons, ih, lookup_putOwner, List.reverse_cons, List.lookup_append, lookup_cons_eq]
    cases rest.reverse.lookup c with
    | some found => rfl
    | none => by_cases here : c = n <;> simp [here]

theorem lookup_reverse_ownersOf (dependencies : List ClassModel) (c : String) :
    (ownersOf dependencies).reverse.lookup c =
      (dependencies.reverse.find? (·.simpleName = c)).map fun m =>
        declaredTerms (dotted m.simpleName) m.staticFields := by
  rw [ownersOf, ← List.map_reverse]
  induction dependencies.reverse with
  | nil => rfl
  | cons m rest ih =>
    rw [List.map_cons, lookup_cons_eq, ih, List.find?_cons]
    by_cases here : c = m.simpleName
    · simp [here]
    · simp [here, Ne.symm here]

structure Declares (subject : ClassModel) (method : MethodModel) (dependencies : List ClassModel) (frame : Frame)
    (unknowns : List Variable) : Prop where
  knownParams : KnownTypes method.params
  knownFields : KnownTypes (receiverFields subject method)
  knownStatics : KnownTypes subject.staticFields
  knownOwners : ∀ m ∈ dependencies, KnownTypes m.staticFields
  params : frame.params = declaredTerms id method.params
  fields : frame.fields = declaredTerms (dotted "this") (receiverFields subject method)
  statics : frame.statics = declaredTerms (dotted subject.simpleName) subject.staticFields
  owners : frame.owners = (ownersOf dependencies).foldl (fun os (name, members) => putOwner os name members) []
  unknown : unknowns = methodVariables subject method dependencies
  distinct : (names unknowns).Nodup

theorem declareFrame_eq (subject : ClassModel) (method : MethodModel) (dependencies : List ClassModel) :
    declareFrame subject method dependencies = do
      let params ← declareAll id method.params
      let fields ← declareAll (dotted "this") (receiverFields subject method)
      let statics ← declareStatics subject
      let owners ← declareOwners dependencies
      return ⟨params, fields, statics, owners.foldl (fun os (name, members) => putOwner os name members) []⟩ := by
  unfold declareFrame receiverFields
  cases method.isStatic with
  | true => rfl
  | false => rfl

theorem declareFrame_ok {subject : ClassModel} {method : MethodModel} {dependencies : List ClassModel} {frame : Frame}
    {unknowns : List Variable} (h : (declareFrame subject method dependencies).run [] = .ok (frame, unknowns)) :
    Declares subject method dependencies frame unknowns := by
  rw [declareFrame_eq] at h
  obtain ⟨params, xs, declaredParams, h⟩ := run_bind_ok.mp h
  obtain ⟨fields, ys, declaredFields, h⟩ := run_bind_ok.mp h
  obtain ⟨statics, zs, declaredStatics, h⟩ := run_bind_ok.mp h
  obtain ⟨owners, ws, declaredOwners, made⟩ := run_bind_ok.mp h
  obtain ⟨knownParams, rfl, rfl, distinctParams⟩ := declareAll_ok declaredParams
  obtain ⟨knownFields, rfl, rfl, distinctFields⟩ := declareAll_ok declaredFields
  obtain ⟨knownStatics, rfl, rfl, distinctStatics⟩ := declareAll_ok declaredStatics
  obtain ⟨knownOwners, rfl, rfl, distinctOwners⟩ := declareOwners_ok declaredOwners
  cases made
  refine ⟨knownParams, knownFields, knownStatics, knownOwners, rfl, rfl, rfl, rfl, ?_, ?_⟩
  · simp [methodVariables, staticsOf]
  · exact distinctOwners (distinctStatics (distinctFields (distinctParams List.nodup_nil)))

end Covenant
