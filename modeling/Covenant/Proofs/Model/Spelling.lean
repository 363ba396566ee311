import Covenant.Proofs.Model.Condition
import Covenant.Proofs.Clause.Acceptance

/-!
# How clauses name the variables of a method

A parameter is written by its name, a field of the receiver as `this.f`, and a static field after the simple name of
its class. The name of a variable is the text of its spelling. In the pre-state a spelling stands for its variable or
for nothing at all: all names share one scope, so an owner can hide a parameter, a bare name can hide another class, and
of two classes with one simple name only the last is seen. Every variable is reached if and only if none of this
happens.
-/

namespace Covenant

open Clause (Expr Scope Context)

/-! ## Spellings -/

inductive Spelling where
  | bare (name : String)
  | member (owner field : String)
deriving Repr, DecidableEq

namespace Spelling

def text : Spelling → String
  | bare name => name
  | member owner field => dotted owner field

def expr : Spelling → Expr
  | bare name => .name name
  | member owner field => .field (.name owner) field

end Spelling

def Variable.term (x : Variable) : SomeTerm := ⟨x.ty, .var x.name x.ty⟩

section

variable (subject : ClassModel) (method : MethodModel) (dependencies : List ClassModel)

inductive Spelled : Variable → Spelling → Prop
  | param {p typeName : String} {ty : Ty} (declared : (p, typeName) ∈ method.params)
      (known : Clause.sortOf? typeName = some ty) : Spelled ⟨p, ty⟩ (.bare p)
  | field {f typeName : String} {ty : Ty} (declared : (f, typeName) ∈ receiverFields subject method)
      (known : Clause.sortOf? typeName = some ty) : Spelled ⟨dotted "this" f, ty⟩ (.member "this" f)
  | static {f typeName : String} {ty : Ty} (declared : (f, typeName) ∈ subject.staticFields)
      (known : Clause.sortOf? typeName = some ty) :
      Spelled ⟨dotted subject.simpleName f, ty⟩ (.member subject.simpleName f)
  | other {m : ClassModel} {f typeName : String} {ty : Ty} (related : m ∈ dependencies)
      (declared : (f, typeName) ∈ m.staticFields) (known : Clause.sortOf? typeName = some ty) :
      Spelled ⟨dotted m.simpleName f, ty⟩ (.member m.simpleName f)

def bareNames : List String :=
  method.params.map (·.1) ++ ((receiverFields subject method).map (·.1) ++ subject.staticFields.map (·.1))

def IsOwnOwner (name : String) : Prop := name = subject.simpleName ∨ (name = "this" ∧ method.isStatic = false)

instance (name : String) : Decidable (IsOwnOwner subject method name) := inferInstanceAs (Decidable (_ ∨ _))

structure Unambiguous : Prop where
  params : ∀ p ∈ method.params.map (·.1), ¬ IsOwnOwner subject method p
  receiver : receiverFields subject method ≠ [] → subject.simpleName ≠ "this"
  others : ∀ m ∈ dependencies, m.staticFields ≠ [] →
    ¬ IsOwnOwner subject method m.simpleName ∧ m.simpleName ∉ bareNames subject method
  apart : dependencies.Pairwise fun m later => m.staticFields = [] ∨ m.simpleName ≠ later.simpleName

end

/-- A spelling stands for a variable in the pre-state: in clauses about it, and below `old` in any other clause. -/
structure Spelling.Reaches (s : Spelling) (pre : Scope) (x : Variable) : Prop where
  now : ∀ old, s.expr.toTerm old pre = .ok x.term
  old : ∀ current, (Expr.call (.name "old") [s.expr] false).toTerm (some pre) current = .ok x.term
  read : ∀ old text, '\x00' ∉ text.toList → Clause.parse text = some s.expr →
    Context.term ⟨pre, old⟩ text = .ok x.term

theorem Spelling.reaches_of_now {s : Spelling} {pre : Scope} {x : Variable}
    (now : ∀ old, s.expr.toTerm old pre = .ok x.term) : s.Reaches pre x where
  now := now
  old current := by
    simp only [Expr.toTerm, if_true]
    exact now _
  read old text plain parsed := by
    have shallow : s.expr.depth ≤ Clause.depthLimit := by
      cases s <;> simp [Spelling.expr, Expr.depth, Clause.depthLimit]
    exact Context.term_eq_ok.mpr ⟨plain, s.expr, parsed, shallow, now old⟩

/-! ## Variables and their spellings -/

theorem mem_declaredVariables {variableName : String → String} {ds : Declarations} {x : Variable} :
    x ∈ declaredVariables variableName ds ↔
      ∃ name typeName ty, (name, typeName) ∈ ds ∧ Clause.sortOf? typeName = some ty ∧ x = ⟨variableName name, ty⟩ := by
  simp only [declaredVariables, List.mem_filterMap, Option.map_eq_some_iff, Prod.exists]
  constructor
  · rintro ⟨name, typeName, declared, ty, known, rfl⟩
    exact ⟨name, typeName, ty, declared, known, rfl⟩
  · rintro ⟨name, typeName, ty, declared, known, rfl⟩
    exact ⟨name, typeName, declared, ty, known, rfl⟩

variable {subject : ClassModel} {method : MethodModel} {dependencies : List ClassModel} {frame : Frame}
  {unknowns : List Variable} {x y : Variable} {s : Spelling}

theorem mem_methodVariables :
    x ∈ methodVariables subject method dependencies ↔ ∃ s, Spelled subject method dependencies x s := by
  simp only [methodVariables, staticsOf, List.mem_append, List.mem_flatMap, mem_declaredVariables]
  constructor
  · rintro (((⟨p, typeName, ty, declared, known, rfl⟩ | ⟨f, typeName, ty, declared, known, rfl⟩) |
      ⟨f, typeName, ty, declared, known, rfl⟩) | ⟨m, related, f, typeName, ty, declared, known, rfl⟩)
    · exact ⟨_, .param declared known⟩
    · exact ⟨_, .field declared known⟩
    · exact ⟨_, .static declared known⟩
    · exact ⟨_, .other related declared known⟩
  · rintro ⟨s, spelled⟩
    cases spelled with
    | param declared known => exact .inl (.inl (.inl ⟨_, _, _, declared, known, rfl⟩))
    | field declared known => exact .inl (.inl (.inr ⟨_, _, _, declared, known, rfl⟩))
    | static declared known => exact .inl (.inr ⟨_, _, _, declared, known, rfl⟩)
    | other related declared known => exact .inr ⟨_, related, _, _, _, declared, known, rfl⟩

theorem Spelled.text_eq (h : Spelled subject method dependencies x s) : s.text = x.name := by
  cases h <;> rfl

theorem Scope.value_eq_ok {scope : Scope} {name : String} {t : SomeTerm} :
    scope.value name = .ok t ↔ scope.find? name = some (.value t) := by
  unfold Clause.Scope.value
  split <;> simp_all

theorem Scope.field_eq_ok {scope : Scope} {owner name : String} {t : SomeTerm} :
    scope.field owner name = .ok t ↔
      ∃ fields, scope.find? owner = some (.owner fields) ∧ fields.lookup name = some t := by
  unfold Clause.Scope.field
  split
  · rename_i fields found
    cases looked : fields.lookup name with
    | none => simp [found, looked]
    | some u => simp [found, looked]
  · rename_i unowned
    simp only [reduceCtorEq, false_iff, not_exists, not_and]
    intro fields found
    exact absurd found (unowned fields)

theorem lookup_declaredTerms_iff {variableName : String → String} {ds : Declarations} (known : KnownTypes ds)
    (distinct : (ds.map (·.1)).Nodup) {name : String} {t : SomeTerm} :
    (declaredTerms variableName ds).lookup name = some t ↔
      ∃ typeName ty, (name, typeName) ∈ ds ∧ Clause.sortOf? typeName = some ty ∧
        t = Variable.term ⟨variableName name, ty⟩ := by
  rw [lookup_declaredTerms known, Option.bind_eq_some_iff]
  simp only [Option.map_eq_some_iff]
  constructor
  · rintro ⟨typeName, found, ty, sort, rfl⟩
    exact ⟨typeName, ty, mem_of_lookup found, sort, rfl⟩
  · rintro ⟨typeName, ty, declared, sort, rfl⟩
    exact ⟨typeName, lookup_of_mem distinct declared, ty, sort, rfl⟩

theorem names_append (xs ys : List Variable) : names (xs ++ ys) = names xs ++ names ys := List.map_append

theorem names_flatMap (f : ClassModel → List Variable) (ms : List ClassModel) :
    names (ms.flatMap f) = ms.flatMap fun m => names (f m) := List.map_flatMap ..

theorem nodup_of_dotted {owner : String} {ds : Declarations} (h : (ds.map fun f => dotted owner f.1).Nodup) :
    (ds.map (·.1)).Nodup := by
  have keys : (ds.map fun f => dotted owner f.1) = (ds.map (·.1)).map (dotted owner) := by simp
  rw [keys] at h
  exact h.of_map _

theorem mem_dotted {m : ClassModel} (related : m ∈ dependencies) {f : String × String} (declared : f ∈ m.staticFields) :
    dotted m.simpleName f.1 ∈ dependencies.flatMap fun m => m.staticFields.map fun f => dotted m.simpleName f.1 :=
  List.mem_flatMap.mpr ⟨m, related, List.mem_map.mpr ⟨f, declared, rfl⟩⟩

structure Apart (subject : ClassModel) (method : MethodModel) (dependencies : List ClassModel) : Prop where
  params : (method.params.map (·.1)).Nodup
  fields : ((receiverFields subject method).map (·.1)).Nodup
  statics : (subject.staticFields.map (·.1)).Nodup
  others : ∀ m ∈ dependencies, (m.staticFields.map (·.1)).Nodup
  param_static : ∀ p ∈ method.params, ∀ f ∈ subject.staticFields, p.1 ≠ dotted subject.simpleName f.1
  param_other : ∀ p ∈ method.params, ∀ m ∈ dependencies, ∀ f ∈ m.staticFields, p.1 ≠ dotted m.simpleName f.1
  field_static : ∀ f ∈ receiverFields subject method, ∀ g ∈ subject.staticFields,
    dotted "this" f.1 ≠ dotted subject.simpleName g.1
  field_other : ∀ f ∈ receiverFields subject method, ∀ m ∈ dependencies, ∀ g ∈ m.staticFields,
    dotted "this" f.1 ≠ dotted m.simpleName g.1
  static_other : ∀ f ∈ subject.staticFields, ∀ m ∈ dependencies, ∀ g ∈ m.staticFields,
    dotted subject.simpleName f.1 ≠ dotted m.simpleName g.1
  other_other : dependencies.Pairwise fun m later => ∀ f ∈ m.staticFields, ∀ g ∈ later.staticFields,
    dotted m.simpleName f.1 ≠ dotted later.simpleName g.1

theorem isStatic_of_receiverFields {f : String × String} (declared : f ∈ receiverFields subject method) :
    method.isStatic = false := by
  unfold receiverFields at declared
  split at declared
  · cases declared
  · rename_i notStatic
    exact Bool.not_eq_true _ ▸ notStatic

theorem find?_reverse_split (before later : List ClassModel) (m : ClassModel) :
    (before ++ m :: later).reverse.find? (·.simpleName = m.simpleName) =
      (later.reverse.find? (·.simpleName = m.simpleName)).or (some m) := by
  simp [List.find?_append]

namespace Declares

variable (d : Declares subject method dependencies frame unknowns)

include d

theorem mem_unknowns : x ∈ unknowns ↔ ∃ s, Spelled subject method dependencies x s := by
  rw [d.unknown]
  exact mem_methodVariables

theorem eq_of_name_eq (first : x ∈ unknowns) (second : y ∈ unknowns) (same : x.name = y.name) : x = y :=
  List.inj_on_of_nodup_map d.distinct first second same

theorem eq_of_spelled (first : Spelled subject method dependencies x s)
    (second : Spelled subject method dependencies y s) : x = y :=
  d.eq_of_name_eq (d.mem_unknowns.mpr ⟨s, first⟩) (d.mem_unknowns.mpr ⟨s, second⟩)
    (first.text_eq.symm.trans second.text_eq)

theorem names_unknowns : names unknowns =
    method.params.map (·.1) ++ (receiverFields subject method).map (fun f => dotted "this" f.1) ++
      subject.staticFields.map (fun f => dotted subject.simpleName f.1) ++
      dependencies.flatMap fun m => m.staticFields.map fun f => dotted m.simpleName f.1 := by
  have others : (dependencies.flatMap fun m => names (staticsOf m)) =
      dependencies.flatMap fun m => m.staticFields.map fun f => dotted m.simpleName f.1 := by
    apply List.flatMap_congr
    intro m related
    exact names_declaredVariables (d.knownOwners m related)
  rw [d.unknown, methodVariables, names_append, names_append, names_append, names_flatMap, others, staticsOf,
    names_declaredVariables d.knownParams, names_declaredVariables d.knownFields,
    names_declaredVariables d.knownStatics]
  rfl

theorem apart : Apart subject method dependencies := by
  have distinct := d.distinct
  rw [d.names_unknowns] at distinct
  obtain ⟨front, distinctOthers, notOther⟩ := List.nodup_append.mp distinct
  obtain ⟨front, distinctStatics, notStatic⟩ := List.nodup_append.mp front
  obtain ⟨distinctParams, distinctFields, -⟩ := List.nodup_append.mp front
  obtain ⟨eachOther, othersApart⟩ := List.nodup_flatMap.mp distinctOthers
  refine ⟨distinctParams, nodup_of_dotted distinctFields, nodup_of_dotted distinctStatics,
    fun m related => nodup_of_dotted (eachOther m related), ?_, ?_, ?_, ?_, ?_, ?_⟩
  · intro p first f second
    refine notStatic _ (List.mem_append_left _ ?_) _ (List.mem_map.mpr ⟨f, second, rfl⟩)
    exact List.mem_map.mpr ⟨p, first, rfl⟩
  · intro p first m related f second
    refine notOther _ (List.mem_append_left _ (List.mem_append_left _ ?_)) _ (mem_dotted related second)
    exact List.mem_map.mpr ⟨p, first, rfl⟩
  · intro f first g second
    refine notStatic _ (List.mem_append_right _ ?_) _ (List.mem_map.mpr ⟨g, second, rfl⟩)
    exact List.mem_map.mpr ⟨f, first, rfl⟩
  · intro f first m related g second
    refine notOther _ (List.mem_append_left _ (List.mem_append_right _ ?_)) _ (mem_dotted related second)
    exact List.mem_map.mpr ⟨f, first, rfl⟩
  · intro f first m related g second
    refine notOther _ (List.mem_append_right _ ?_) _ (mem_dotted related second)
    exact List.mem_map.mpr ⟨f, first, rfl⟩
  · refine othersApart.imp ?_
    intro m later disjoint f first g second same
    exact disjoint (List.mem_map.mpr ⟨f, first, rfl⟩) (List.mem_map.mpr ⟨g, second, same.symm⟩)

/-! ## What the names of the pre-state stand for -/

theorem find?_preScope (name : String) : (preScope subject method frame).find? name =
    if name = subject.simpleName then some (.owner frame.statics)
    else if name = "this" ∧ method.isStatic = false then some (.owner frame.fields)
    else (((frame.params.lookup name).or ((frame.fields.lookup name).or (frame.statics.lookup name))).map
      Clause.Binding.value).or ((frame.owners.lookup name).map .owner) :=
  Frame.find?_scope d.distinctFrame method.isStatic subject.simpleName name

theorem find?_ownOwner {name : String} (own : IsOwnOwner subject method name) :
    ∃ fields, (preScope subject method frame).find? name = some (.owner fields) := by
  rw [d.find?_preScope]
  split
  · exact ⟨_, rfl⟩
  · rename_i notClass
    rw [if_pos (own.resolve_left notClass)]
    exact ⟨_, rfl⟩

theorem find?_other {name : String} (other : ¬ IsOwnOwner subject method name) :
    (preScope subject method frame).find? name =
      (((frame.params.lookup name).or ((frame.fields.lookup name).or (frame.statics.lookup name))).map
        Clause.Binding.value).or ((frame.owners.lookup name).map .owner) := by
  obtain ⟨notClass, notReceiver⟩ := not_or.mp other
  rw [d.find?_preScope, if_neg notClass, if_neg notReceiver]

theorem lookup_bare (name : String) :
    (frame.params.lookup name).or ((frame.fields.lookup name).or (frame.statics.lookup name)) = none ↔
      name ∉ bareNames subject method := by
  simp only [Option.or_eq_none_iff, lookup_eq_none_iff_not_mem, d.params, d.fields, d.statics,
    keys_declaredTerms d.knownParams, keys_declaredTerms d.knownFields, keys_declaredTerms d.knownStatics, bareNames,
    List.mem_append, not_or]

theorem lookup_params {name : String} {t : SomeTerm} : frame.params.lookup name = some t ↔
    ∃ typeName ty, (name, typeName) ∈ method.params ∧ Clause.sortOf? typeName = some ty ∧
      t = Variable.term ⟨name, ty⟩ := by
  rw [d.params]
  exact lookup_declaredTerms_iff d.knownParams d.apart.params

theorem lookup_fields {name : String} {t : SomeTerm} : frame.fields.lookup name = some t ↔
    ∃ typeName ty, (name, typeName) ∈ receiverFields subject method ∧ Clause.sortOf? typeName = some ty ∧
      t = Variable.term ⟨dotted "this" name, ty⟩ := by
  rw [d.fields]
  exact lookup_declaredTerms_iff d.knownFields d.apart.fields

theorem lookup_statics {name : String} {t : SomeTerm} : frame.statics.lookup name = some t ↔
    ∃ typeName ty, (name, typeName) ∈ subject.staticFields ∧ Clause.sortOf? typeName = some ty ∧
      t = Variable.term ⟨dotted subject.simpleName name, ty⟩ := by
  rw [d.statics]
  exact lookup_declaredTerms_iff d.knownStatics d.apart.statics

theorem lookup_owner {owner name : String} {t : SomeTerm} :
    (∃ members, frame.owners.lookup owner = some members ∧ members.lookup name = some t) ↔
      ∃ m, dependencies.reverse.find? (·.simpleName = owner) = some m ∧
        ∃ typeName ty, (name, typeName) ∈ m.staticFields ∧ Clause.sortOf? typeName = some ty ∧
          t = Variable.term ⟨dotted owner name, ty⟩ := by
  rw [d.owners, lookup_putOwners, lookup_reverse_ownersOf]
  cases found : dependencies.reverse.find? (·.simpleName = owner) with
  | none => simp
  | some m =>
    have related : m ∈ dependencies := List.mem_reverse.mp (List.mem_of_find?_eq_some found)
    obtain rfl : m.simpleName = owner := by simpa using List.find?_some found
    simp only [Option.map_some, Option.some_or, Option.some.injEq, exists_eq_left',
      lookup_declaredTerms_iff (d.knownOwners m related) (d.apart.others m related)]

theorem eq_term_of_field {owner f : String} {t : SomeTerm}
    (h : (preScope subject method frame).field owner f = .ok t) :
    ∃ x ∈ unknowns, x.name = dotted owner f ∧ t = x.term := by
  obtain ⟨fields, found, looked⟩ := Scope.field_eq_ok.mp h
  rw [d.find?_preScope] at found
  split at found
  · rename_i own
    cases found
    obtain ⟨typeName, ty, declared, known, rfl⟩ := d.lookup_statics.mp looked
    exact ⟨_, d.mem_unknowns.mpr ⟨_, .static declared known⟩, by rw [own], rfl⟩
  · split at found
    · rename_i receiver
      cases found
      obtain ⟨typeName, ty, declared, known, rfl⟩ := d.lookup_fields.mp looked
      exact ⟨_, d.mem_unknowns.mpr ⟨_, .field declared known⟩, by rw [receiver.1], rfl⟩
    · have seen : frame.owners.lookup owner = some fields := by
        cases bare : (frame.params.lookup owner).or ((frame.fields.lookup owner).or (frame.statics.lookup owner)) with
        | some u => simp [bare] at found
        | none => simpa [bare] using found
      obtain ⟨m, last, typeName, ty, declared, known, rfl⟩ := d.lookup_owner.mp ⟨fields, seen, looked⟩
      have related : m ∈ dependencies := List.mem_reverse.mp (List.mem_of_find?_eq_some last)
      obtain rfl : m.simpleName = owner := by simpa using List.find?_some last
      exact ⟨_, d.mem_unknowns.mpr ⟨_, .other related declared known⟩, rfl, rfl⟩

theorem eq_of_field {owner f : String} (spelled : Spelled subject method dependencies x (.member owner f))
    {t : SomeTerm} (h : (preScope subject method frame).field owner f = .ok t) : t = x.term := by
  obtain ⟨y, member, named, rfl⟩ := d.eq_term_of_field h
  rw [d.eq_of_name_eq member (d.mem_unknowns.mpr ⟨_, spelled⟩) (named.trans spelled.text_eq)]

theorem eq_term_of_spelled (spelled : Spelled subject method dependencies x s) {old : Option Scope} {t : SomeTerm}
    (h : s.expr.toTerm old (preScope subject method frame) = .ok t) : t = x.term := by
  cases spelled with
  | @param p typeName ty declared known =>
    have found := Scope.value_eq_ok.mp h
    by_cases own : IsOwnOwner subject method p
    · obtain ⟨fields, hidden⟩ := d.find?_ownOwner own
      rw [hidden] at found
      cases found
    · have value := d.lookup_params.mpr ⟨typeName, ty, declared, known, rfl⟩
      rw [d.find?_other own, value] at found
      cases found
      rfl
  | field declared known => exact d.eq_of_field (.field declared known) h
  | static declared known => exact d.eq_of_field (.static declared known) h
  | other related declared known => exact d.eq_of_field (.other related declared known) h

/-! ## Which spellings reach their variables -/

theorem reaches_param_iff {p typeName : String} {ty : Ty} (declared : (p, typeName) ∈ method.params)
    (known : Clause.sortOf? typeName = some ty) :
    (Spelling.bare p).Reaches (preScope subject method frame) ⟨p, ty⟩ ↔ ¬ IsOwnOwner subject method p := by
  constructor
  · intro reaches own
    have found := Scope.value_eq_ok.mp (reaches.now none)
    obtain ⟨fields, hidden⟩ := d.find?_ownOwner own
    rw [hidden] at found
    cases found
  · intro other
    refine Spelling.reaches_of_now fun old => Scope.value_eq_ok.mpr ?_
    rw [d.find?_other other, d.lookup_params.mpr ⟨typeName, ty, declared, known, rfl⟩]
    rfl

theorem reaches_field_iff {f typeName : String} {ty : Ty} (declared : (f, typeName) ∈ receiverFields subject method)
    (known : Clause.sortOf? typeName = some ty) :
    (Spelling.member "this" f).Reaches (preScope subject method frame) ⟨dotted "this" f, ty⟩ ↔
      subject.simpleName ≠ "this" := by
  constructor
  · intro reaches named
    obtain ⟨fields, found, looked⟩ := Scope.field_eq_ok.mp (reaches.now none)
    rw [d.find?_preScope, if_pos named.symm] at found
    cases found
    obtain ⟨_, _, static, -, -⟩ := d.lookup_statics.mp looked
    exact d.apart.field_static _ declared _ static (by rw [named])
  · intro named
    refine Spelling.reaches_of_now fun old => Scope.field_eq_ok.mpr ⟨frame.fields, ?_, ?_⟩
    · rw [d.find?_preScope, if_neg named.symm, if_pos ⟨rfl, isStatic_of_receiverFields declared⟩]
    · exact d.lookup_fields.mpr ⟨typeName, ty, declared, known, rfl⟩

theorem reaches_static {f typeName : String} {ty : Ty} (declared : (f, typeName) ∈ subject.staticFields)
    (known : Clause.sortOf? typeName = some ty) :
    (Spelling.member subject.simpleName f).Reaches (preScope subject method frame)
      ⟨dotted subject.simpleName f, ty⟩ := by
  refine Spelling.reaches_of_now fun old => Scope.field_eq_ok.mpr ⟨frame.statics, ?_, ?_⟩
  · rw [d.find?_preScope, if_pos rfl]
  · exact d.lookup_statics.mpr ⟨typeName, ty, declared, known, rfl⟩

theorem field_eq_ok_iff_last {owner f : String} {t : SomeTerm} (other : ¬ IsOwnOwner subject method owner) :
    (preScope subject method frame).field owner f = .ok t ↔
      owner ∉ bareNames subject method ∧
        ∃ members, frame.owners.lookup owner = some members ∧ members.lookup f = some t := by
  rw [Scope.field_eq_ok, d.find?_other other, ← d.lookup_bare]
  cases (frame.params.lookup owner).or ((frame.fields.lookup owner).or (frame.statics.lookup owner)) with
  | none => simp
  | some u => simp

theorem not_ownOwner_of_reaches {m : ClassModel} {f : String × String} (related : m ∈ dependencies)
    (declared : f ∈ m.staticFields)
    (reaches : (Spelling.member m.simpleName f.1).Reaches (preScope subject method frame) x) :
    ¬ IsOwnOwner subject method m.simpleName := by
  intro own
  obtain ⟨fields, found, looked⟩ := Scope.field_eq_ok.mp (reaches.now none)
  rw [d.find?_preScope] at found
  split at found
  · rename_i named
    cases found
    obtain ⟨_, _, static, -, -⟩ := d.lookup_statics.mp looked
    exact d.apart.static_other _ static m related f declared (by rw [named])
  · rename_i notClass
    have receiver := own.resolve_left notClass
    rw [if_pos receiver] at found
    cases found
    obtain ⟨_, _, field, -, -⟩ := d.lookup_fields.mp looked
    exact d.apart.field_other _ field m related f declared (by rw [receiver.1])

theorem reaches_other_iff {before later : List ClassModel} {m : ClassModel} {f typeName : String} {ty : Ty}
    (split : dependencies = before ++ m :: later) (declared : (f, typeName) ∈ m.staticFields)
    (known : Clause.sortOf? typeName = some ty) :
    (Spelling.member m.simpleName f).Reaches (preScope subject method frame) ⟨dotted m.simpleName f, ty⟩ ↔
      ¬ IsOwnOwner subject method m.simpleName ∧ m.simpleName ∉ bareNames subject method ∧
        ∀ other ∈ later, m.simpleName ≠ other.simpleName := by
  have related : m ∈ dependencies := by simp [split]
  constructor
  · intro reaches
    have other := d.not_ownOwner_of_reaches related declared reaches
    obtain ⟨free, seen⟩ := (d.field_eq_ok_iff_last other).mp (reaches.now none)
    refine ⟨other, free, ?_⟩
    -- a later class of this name would be the one that is seen, and would declare the same variable once more
    obtain ⟨last, found, _, _, again, -, -⟩ := d.lookup_owner.mp seen
    rw [split, find?_reverse_split] at found
    intro hider member same
    cases hidden : later.reverse.find? (·.simpleName = m.simpleName) with
    | none =>
      rw [List.find?_eq_none] at hidden
      exact hidden hider (List.mem_reverse.mpr member) (by simp [same])
    | some n =>
      rw [hidden, Option.some_or] at found
      cases found
      have apart := d.apart.other_other
      rw [split] at apart
      have distinct := (List.pairwise_cons.mp (List.pairwise_append.mp apart).2.1).1
      have comesLater : last ∈ later := List.mem_reverse.mp (List.mem_of_find?_eq_some hidden)
      have sameName : last.simpleName = m.simpleName := by simpa using List.find?_some hidden
      exact distinct last comesLater _ declared _ again (by rw [sameName])
  · rintro ⟨other, free, alone⟩
    have none : later.reverse.find? (·.simpleName = m.simpleName) = none := by
      rw [List.find?_eq_none]
      intro n member same
      exact alone n (List.mem_reverse.mp member) (of_decide_eq_true same).symm
    have last : dependencies.reverse.find? (·.simpleName = m.simpleName) = some m := by
      rw [split, find?_reverse_split, none, Option.none_or]
    refine Spelling.reaches_of_now fun old => (d.field_eq_ok_iff_last other).mpr ⟨free, ?_⟩
    exact d.lookup_owner.mpr ⟨m, last, typeName, ty, declared, known, rfl⟩

theorem reaches_of_unambiguous (clear : Unambiguous subject method dependencies)
    (spelled : Spelled subject method dependencies x s) : s.Reaches (preScope subject method frame) x := by
  cases spelled with
  | param declared known =>
    exact (d.reaches_param_iff declared known).mpr (clear.params _ (List.mem_map.mpr ⟨_, declared, rfl⟩))
  | field declared known =>
    exact (d.reaches_field_iff declared known).mpr (clear.receiver (List.ne_nil_of_mem declared))
  | static declared known => exact d.reaches_static declared known
  | @other m _ _ _ related declared known =>
    have declares := List.ne_nil_of_mem declared
    obtain ⟨other, free⟩ := clear.others m related declares
    obtain ⟨before, later, split⟩ := List.append_of_mem related
    refine (d.reaches_other_iff split declared known).mpr ⟨other, free, ?_⟩
    have apart := clear.apart
    rw [split] at apart
    intro n member
    exact ((List.pairwise_cons.mp (List.pairwise_append.mp apart).2.1).1 n member).resolve_left declares

theorem unambiguous_of_reaches
    (reaches : ∀ x s, Spelled subject method dependencies x s → s.Reaches (preScope subject method frame) x) :
    Unambiguous subject method dependencies := by
  have clear {before later : List ClassModel} {m : ClassModel} (split : dependencies = before ++ m :: later)
      (declares : m.staticFields ≠ []) : ¬ IsOwnOwner subject method m.simpleName ∧
        m.simpleName ∉ bareNames subject method ∧ ∀ other ∈ later, m.simpleName ≠ other.simpleName := by
    obtain ⟨⟨f, typeName⟩, declared⟩ := List.exists_mem_of_ne_nil _ declares
    have related : m ∈ dependencies := by simp [split]
    obtain ⟨ty, known⟩ := Option.isSome_iff_exists.mp (d.knownOwners m related _ declared)
    exact (d.reaches_other_iff split declared known).mp (reaches _ _ (.other related declared known))
  refine ⟨?_, ?_, ?_, ?_⟩
  · intro p member
    obtain ⟨⟨p, typeName⟩, declared, rfl⟩ := List.mem_map.mp member
    obtain ⟨ty, known⟩ := Option.isSome_iff_exists.mp (d.knownParams _ declared)
    exact (d.reaches_param_iff declared known).mp (reaches _ _ (.param declared known))
  · intro declares
    obtain ⟨⟨f, typeName⟩, declared⟩ := List.exists_mem_of_ne_nil _ declares
    obtain ⟨ty, known⟩ := Option.isSome_iff_exists.mp (d.knownFields _ declared)
    exact (d.reaches_field_iff declared known).mp (reaches _ _ (.field declared known))
  · intro m related declares
    obtain ⟨before, later, split⟩ := List.append_of_mem related
    obtain ⟨other, free, -⟩ := clear split declares
    exact ⟨other, free⟩
  · -- every end of the list is without repetition, the list itself being the longest one
    have ends (before later : List ClassModel) (split : dependencies = before ++ later) :
        later.Pairwise fun m later => m.staticFields = [] ∨ m.simpleName ≠ later.simpleName := by
      induction later generalizing before with
      | nil => exact .nil
      | cons m rest ih =>
        refine .cons ?_ (ih (before ++ [m]) (by simp [split]))
        intro n member
        refine or_iff_not_imp_left.mpr fun declares => ?_
        exact (clear split declares).2.2 n member
    exact ends [] dependencies rfl

end Declares

variable {bits : Nat} {enc : Encoding}

theorem declareFrame_of_ofMethod (h : Encoding.ofMethod subject method dependencies bits = .ok enc) :
    ∃ frame, (declareFrame subject method dependencies).run [] = .ok (frame, enc.unknowns) := by
  obtain ⟨⟨frame, unknowns⟩, declared, -⟩ := bind_eq_ok.mp h
  obtain ⟨e⟩ := ofMethod_ok h
  have same : unknowns = enc.unknowns := (declareFrame_ok declared).unknown.trans e.declares.unknown.symm
  exact ⟨frame, same ▸ declared⟩

structure Namings (subject : ClassModel) (method : MethodModel) (dependencies : List ClassModel) (pre : Scope)
    (unknowns : List Variable) : Prop where
  spelled : ∀ x, x ∈ unknowns ↔ ∃ s, Spelled subject method dependencies x s
  text : ∀ x s, Spelled subject method dependencies x s → s.text = x.name
  unshared : ∀ x y s, Spelled subject method dependencies x s → Spelled subject method dependencies y s → x = y
  unmistaken : ∀ x s, Spelled subject method dependencies x s → ∀ old t, s.expr.toTerm old pre = .ok t → t = x.term
  reached_iff : (∀ x s, Spelled subject method dependencies x s → s.Reaches pre x) ↔
    Unambiguous subject method dependencies

/-- Every variable of an encoded method has a spelling of its own, which is never taken for another variable; it is
understood for all of them if and only if the declared names are unambiguous. -/
theorem spellings_reach_iff_unambiguous (h : Encoding.ofMethod subject method dependencies bits = .ok enc) :
    ∃ frame, (declareFrame subject method dependencies).run [] = .ok (frame, enc.unknowns) ∧
      Namings subject method dependencies (preScope subject method frame) enc.unknowns := by
  obtain ⟨frame, declared⟩ := declareFrame_of_ofMethod h
  have d := declareFrame_ok declared
  refine ⟨frame, declared, fun _ => d.mem_unknowns, fun _ _ => Spelled.text_eq, fun _ _ _ => d.eq_of_spelled, ?_, ?_⟩
  · intro x s spelled old t translated
    exact d.eq_term_of_spelled spelled translated
  · exact ⟨d.unambiguous_of_reaches, fun clear _ _ => d.reaches_of_unambiguous clear⟩

/-! ## One name in all places, and one simple name for two classes -/

def borrow : MethodModel where
  name := "borrow"
  params := [("limit", "int")]
  requires := "limit <= this.limit and this.limit <= Reader.limit and Reader.limit <= Library.limit"

def reader : ClassModel where
  className := "town.Reader"
  fields := [("limit", "int")]
  staticFields := [("limit", "int")]
  methods := [("borrow", borrow)]

def library : ClassModel where
  className := "town.Library"
  staticFields := [("limit", "real")]

theorem limit_reached : Unambiguous reader borrow [library] ∧
    ∃ enc frame, Encoding.ofMethod reader borrow [library] 4 = .ok enc ∧
      (Spelling.bare "limit").Reaches (preScope reader borrow frame) ⟨"limit", .int⟩ ∧
      (Spelling.member "this" "limit").Reaches (preScope reader borrow frame) ⟨"this.limit", .int⟩ ∧
      (Spelling.member "Reader" "limit").Reaches (preScope reader borrow frame) ⟨"Reader.limit", .int⟩ ∧
      (Spelling.member "Library" "limit").Reaches (preScope reader borrow frame) ⟨"Library.limit", .real⟩ := by
  have clear : Unambiguous reader borrow [library] :=
    ⟨by decide +kernel, by decide +kernel, by decide +kernel, by decide +kernel⟩
  obtain ⟨enc, made⟩ : ∃ enc, Encoding.ofMethod reader borrow [library] 4 = .ok enc :=
    exists_of_isOk (by decide +kernel)
  obtain ⟨frame, -, namings⟩ := spellings_reach_iff_unambiguous made
  have reached := namings.reached_iff.mpr clear
  have whole : Clause.sortOf? "int" = some .int := by decide +kernel
  have real : Clause.sortOf? "real" = some .real := by decide +kernel
  have own : reader.simpleName = "Reader" := by decide +kernel
  have other : library.simpleName = "Library" := by decide +kernel
  refine ⟨clear, enc, frame, made, ?_, ?_, ?_, ?_⟩
  · exact reached _ _ (.param (.head _) whole)
  · have field : (Spelling.member "this" "limit").Reaches _ ⟨dotted "this" "limit", .int⟩ :=
      reached _ _ (.field (.head _) whole)
    exact field
  · have static := reached _ _ (.static (.head _) whole)
    rwa [own] at static
  · have static := reached _ _ (.other (.head _) (.head _) real)
    rwa [other] at static

def order : ClassModel where
  className := "shop.Order"

def submit : MethodModel where
  name := "submit"
  isStatic := true

def lowLimits : ClassModel where
  className := "low.Limits"
  staticFields := [("least", "int")]

def highLimits : ClassModel where
  className := "high.Limits"
  staticFields := [("most", "int")]

/-- Two classes in different packages share their simple name: both have their variables, and the field of the first
one cannot be named. -/
theorem first_limits_unreachable :
    ∃ enc frame, Encoding.ofMethod order submit [lowLimits, highLimits] 4 = .ok enc ∧
      (declareFrame order submit [lowLimits, highLimits]).run [] = .ok (frame, enc.unknowns) ∧
      ⟨"Limits.least", .int⟩ ∈ enc.unknowns ∧
      Spelled order submit [lowLimits, highLimits] ⟨"Limits.least", .int⟩ (.member "Limits" "least") ∧
      ∀ old, (Spelling.member "Limits" "least").expr.toTerm old (preScope order submit frame) =
        .error (.unknownField "Limits" "least") := by
  obtain ⟨enc, made⟩ : ∃ enc, Encoding.ofMethod order submit [lowLimits, highLimits] 4 = .ok enc :=
    exists_of_isOk (by decide +kernel)
  obtain ⟨frame, declared⟩ := declareFrame_of_ofMethod made
  have d := declareFrame_ok declared
  have whole : Clause.sortOf? "int" = some .int := by decide +kernel
  have named : lowLimits.simpleName = "Limits" := by decide +kernel
  have spelled : Spelled order submit [lowLimits, highLimits] ⟨"Limits.least", .int⟩ (.member "Limits" "least") := by
    have static : Spelled order submit [lowLimits, highLimits] _ _ := .other (.head _) (.head _) whole
    rwa [named] at static
  refine ⟨enc, frame, made, declared, d.mem_unknowns.mpr ⟨_, spelled⟩, spelled, fun old => ?_⟩
  have other : ¬ IsOwnOwner order submit "Limits" := by decide +kernel
  have free : "Limits" ∉ bareNames order submit := by decide
  have last : [lowLimits, highLimits].reverse.find? (·.simpleName = "Limits") = some highLimits :=
    List.find?_cons_of_pos (by decide +kernel)
  have seen : (preScope order submit frame).find? "Limits" =
      some (.owner (declaredTerms (dotted highLimits.simpleName) highLimits.staticFields)) := by
    rw [d.find?_other other, (d.lookup_bare _).mpr free, d.owners, lookup_putOwners, lookup_reverse_ownersOf, last]
    rfl
  have absent : (declaredTerms (dotted highLimits.simpleName) highLimits.staticFields).lookup "least" = none := by
    rw [lookup_declaredTerms (d.knownOwners _ (by simp))]
    rfl
  simp only [Spelling.expr, Expr.toTerm, Clause.Scope.field, seen, absent]

end Covenant
