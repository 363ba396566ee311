import Covenant.Model.Class
import Covenant.Proofs.Basic
import Covenant.Proofs.Settings.Sections

namespace Covenant

namespace ClassModel

/-! ## Shapes -/

def IsDeclarations (v : Value) : Prop := v = .null ∨ ∃ entries, v = .map entries

def IsBody (v : Value) : Prop :=
  v.truthy = false ∨ ∃ body : Mapping, v = .map body ∧ IsDeclarations (body.get "params") ∧
    IsDeclarations (body.get "effects")

def AreMethods (v : Value) : Prop := v.truthy = false ∨ ∃ methods, v = .map methods ∧ ∀ e ∈ methods, IsBody e.2

def NoMethods (v : Value) : Prop := v.truthy = true ∧ ∀ methods, v ≠ .map methods

structure IsHeader (entries : Mapping) (className : String) : Prop where
  declared : ∀ v, entries.get? "class" = some v → v.same (.str className) = true
  fields : IsDeclarations (entries.get "fields")
  staticFields : IsDeclarations (entries.get "static_fields")

def Shaped (raw : Value) (className : String) : Prop :=
  ∃ entries : Mapping, raw = .map entries ∧ IsHeader entries className ∧ AreMethods (entries.get "methods")

/-- The value has the shape of a model of the class except for its methods, which are not even a mapping. -/
def Misplaced (raw : Value) (className : String) : Prop :=
  ∃ entries : Mapping, raw = .map entries ∧ IsHeader entries className ∧ NoMethods (entries.get "methods")

/-! ## Texts -/

def declaredValues : Value → List Value
  | .map entries => entries.flatMap fun e => [e.1, e.2]
  | _ => []

def bodyValues : Value → List Value
  | .map body => declaredValues (Mapping.get body "params") ++ (Mapping.get? body "requires").toList ++
      (Mapping.get? body "ensures").toList ++ declaredValues (Mapping.get body "effects")
  | _ => []

def methodValues : Value → List Value
  | .map methods => methods.flatMap fun e => e.1 :: bodyValues e.2
  | _ => []

def textValues : Value → List Value
  | .map entries => (Mapping.get? entries "class").toList ++ declaredValues (Mapping.get entries "fields") ++
      declaredValues (Mapping.get entries "static_fields") ++ methodValues (Mapping.get entries "methods")
  | _ => []

def Writable (vs : List Value) : Prop := ∀ v ∈ vs, v.writable = true

end ClassModel

/-! ## Reading a part -/

/-- What an error says about the part that was read: that it does not have its shape, that a text in it cannot be
written, or that the methods are misplaced. -/
def ModelError.Blames (shaped written misplaced : Prop) : ModelError → Prop
  | .longNumber => ¬ written
  | .methodsShape => misplaced
  | _ => ¬ shaped ∧ ¬ misplaced

namespace ClassModel

/-- Reading a part ends well only if the part has its shape and can be written, and otherwise says what is wrong. -/
structure Reads {α : Type} (x : Except ModelError α) (shaped written misplaced : Prop) : Prop where
  ok : ∀ a, x = .ok a → shaped ∧ written
  error : ∀ err, x = .error err → err.Blames shaped written misplaced

namespace Reads

variable {α β : Type} {x : Except ModelError α} {S S' W W' M M' : Prop}

theorem congr (h : Reads x S W M) (shaped : S ↔ S') (written : W ↔ W') (misplaced : M ↔ M') : Reads x S' W' M' := by
  rwa [← propext shaped, ← propext written, ← propext misplaced]

theorem pure (a : α) : Reads (pure a : Except ModelError α) True True False :=
  ⟨fun _ _ => ⟨trivial, trivial⟩, fun _ impossible => nomatch impossible⟩

theorem fail (err : ModelError) (blames : err.Blames S W M) : Reads (.error err : Except ModelError α) S W M where
  ok := nofun
  error := by
    rintro _ ⟨⟩
    exact blames

theorem unshaped (h : Reads x False W False) (shaped : ¬ S') (written : W' → W) (misplaced : ¬ M') :
    Reads x S' W' M' where
  ok a read := (h.ok a read).1.elim
  error err failed := by
    have blames := h.error err failed
    cases err with
    | longNumber => exact fun w => blames (written w)
    | methodsShape => exact blames.elim
    | _ => exact ⟨shaped, misplaced⟩

theorem bind {f : α → Except ModelError β} (first : Reads x S W False) (next : ∀ a, Reads (f a) S' W' M) :
    Reads (x >>= f) (S ∧ S') (W ∧ W') (S ∧ M) where
  ok b h := by
    obtain ⟨a, read, rest⟩ := bind_eq_ok.mp h
    exact ⟨⟨(first.ok a read).1, ((next a).ok b rest).1⟩, (first.ok a read).2, ((next a).ok b rest).2⟩
  error err h := by
    rcases bind_eq_error.mp h with failed | ⟨a, read, failed⟩
    · have blames := first.error err failed
      cases err with
      | longNumber => exact fun written => blames written.1
      | methodsShape => exact blames.elim
      | _ => exact ⟨fun shaped => blames.1 shaped.1, fun misplaced => blames.1 misplaced.1⟩
    · have blames := (next a).error err failed
      cases err with
      | longNumber => exact fun written => blames written.2
      | methodsShape => exact ⟨(first.ok a read).1, blames⟩
      | _ => exact ⟨fun shaped => blames.1 shaped.2, fun misplaced => blames.2 misplaced.2⟩

theorem read_or_long (h : Reads x S W M) (shaped : S) (placed : ¬ M) :
    (∃ a, x = .ok a) ∧ W ∨ x = .error .longNumber ∧ ¬ W := by
  cases x with
  | ok a => exact .inl ⟨⟨a, rfl⟩, (h.ok a rfl).2⟩
  | error err =>
    have blames := h.error err rfl
    cases err with
    | longNumber => exact .inr ⟨rfl, blames⟩
    | methodsShape => exact absurd blames placed
    | _ => exact absurd shaped blames.1

theorem foldlM {f : β → α → Except ModelError β} {S W : α → Prop} {xs : List α} {start : β}
    (step : ∀ b, ∀ a ∈ xs, Reads (f b a) (S a) (W a) False) :
    Reads (xs.foldlM f start) (∀ a ∈ xs, S a) (∀ a ∈ xs, W a) False := by
  induction xs generalizing start with
  | nil => exact (pure start).congr (by simp) (by simp) Iff.rfl
  | cons a rest ih =>
    have here := step start a List.mem_cons_self
    have others (b : β) : Reads (rest.foldlM f b) (∀ a ∈ rest, S a) (∀ a ∈ rest, W a) False :=
      ih fun b a member => step b a (List.mem_cons_of_mem _ member)
    rw [List.foldlM_cons]
    exact (here.bind others).congr List.forall_mem_cons.symm List.forall_mem_cons.symm (by simp)

end Reads

theorem reads_textOf (v : Value) : Reads (textOf v) True (v.writable = true) False := by
  unfold textOf Value.text?
  by_cases writable : v.writable = true
  · rw [if_pos writable]
    exact (Reads.pure v.text).congr Iff.rfl (iff_of_true trivial writable) Iff.rfl
  · rw [if_neg writable]
    exact .fail _ writable

theorem reads_entryTexts (entries : Mapping) :
    Reads (entryTexts entries) True (Writable (declaredValues (.map entries))) False := by
  have step (ds : Declarations) (e : Value × Value) (_ : e ∈ entries) :
      Reads (do return ds.put (← textOf e.1) (← textOf e.2)) True (e.1.writable = true ∧ e.2.writable = true) False :=
    ((reads_textOf e.1).bind fun _ => (reads_textOf e.2).bind fun _ => .pure _).congr (by simp) (by simp) (by simp)
  refine (Reads.foldlM step).congr (by simp) ?_ Iff.rfl
  simp only [Writable, declaredValues, List.forall_mem_flatMap, List.forall_mem_cons, List.not_mem_nil, false_imp_iff,
    implies_true, and_true]

theorem reads_declarations (v : Value) (what : String) :
    Reads (declarations v what) (IsDeclarations v) (Writable (declaredValues v)) False := by
  cases v with
  | null => exact (Reads.pure []).congr (by simp [IsDeclarations]) (by simp [Writable, declaredValues]) Iff.rfl
  | map entries => exact (reads_entryTexts entries).congr (by simp [IsDeclarations]) Iff.rfl Iff.rfl
  | _ => exact .fail _ ⟨by simp [IsDeclarations], not_false⟩

theorem reads_clauseText (body : Mapping) (key : String) :
    Reads (clauseText body key) True (Writable (body.get? key).toList) False := by
  unfold clauseText
  cases body.get? key with
  | none => exact (Reads.pure _).congr Iff.rfl (by simp [Writable]) Iff.rfl
  | some v => exact (reads_textOf v).congr Iff.rfl (by simp [Writable]) Iff.rfl

theorem writable_append {vs ws : List Value} : Writable (vs ++ ws) ↔ Writable vs ∧ Writable ws := List.forall_mem_append

theorem isBody_map {body : Mapping} :
    IsBody (.map body) ↔ IsDeclarations (body.get "params") ∧ IsDeclarations (body.get "effects") := by
  constructor
  · rintro (empty | ⟨_, ⟨⟩, shaped⟩)
    · obtain rfl : body = [] := by simpa [Value.truthy] using empty
      exact ⟨.inl rfl, .inl rfl⟩
    · exact shaped
  · exact fun shaped => .inr ⟨body, rfl, shaped⟩

theorem reads_parseMethod (name : String) (body : Mapping) :
    Reads (parseMethod name body) (IsBody (.map body)) (Writable (bodyValues (.map body))) False := by
  have parts := (reads_declarations (body.get "params") (name ++ ".params")).bind fun params =>
    (reads_clauseText body "requires").bind fun requires => (reads_clauseText body "ensures").bind fun ensures =>
      (reads_declarations (body.get "effects") (name ++ ".effects")).bind fun effects =>
        .pure (MethodModel.mk name params (body.get "static").truthy (body.get "returns") requires ensures effects)
  exact parts.congr (by simp [isBody_map]) (by simp [bodyValues, writable_append]) (by simp)

theorem mappingOrEmpty?_cases (v : Value) :
    (∃ entries, v = .map entries ∧ mappingOrEmpty? v = some entries) ∨
      v.truthy = false ∧ (∀ entries, v ≠ .map entries) ∧ mappingOrEmpty? v = some [] ∨
      NoMethods v ∧ mappingOrEmpty? v = none := by
  by_cases isMap : ∃ entries, v = .map entries
  · obtain ⟨entries, rfl⟩ := isMap
    exact .inl ⟨entries, rfl, rfl⟩
  · rw [not_exists] at isMap
    rw [mappingOrEmpty?]
    · cases truthy : v.truthy with
      | false => exact .inr (.inl ⟨rfl, isMap, rfl⟩)
      | true => exact .inr (.inr ⟨⟨truthy, isMap⟩, rfl⟩)
    · exact isMap

theorem bodyValues_eq_nil {v : Value} (other : ∀ body, v ≠ .map body) : bodyValues v = [] := by
  unfold bodyValues
  split
  · exact absurd rfl (other _)
  · rfl

theorem methodValues_eq_nil {v : Value} (other : ∀ methods, v ≠ .map methods) : methodValues v = [] := by
  unfold methodValues
  split
  · exact absurd rfl (other _)
  · rfl

theorem areMethods_map {methods : Mapping} : AreMethods (.map methods) ↔ ∀ e ∈ methods, IsBody e.2 := by
  constructor
  · rintro (empty | ⟨_, ⟨⟩, bodies⟩)
    · obtain rfl : methods = [] := by simpa [Value.truthy] using empty
      exact nofun
    · exact bodies
  · exact fun bodies => .inr ⟨methods, rfl, bodies⟩

theorem reads_parseMethods (methods : Mapping) :
    Reads (parseMethods methods) (AreMethods (.map methods)) (Writable (methodValues (.map methods))) False := by
  have fold : Reads (parseMethods methods) (∀ e ∈ methods, IsBody e.2)
      (∀ e ∈ methods, e.1.writable = true ∧ Writable (bodyValues e.2)) False := by
    refine Reads.foldlM fun done e _ => ?_
    obtain ⟨k, v⟩ := e
    refine Reads.congr (S := True ∧ IsBody v) (M := True ∧ False) ((reads_textOf k).bind fun name => ?_) (by simp)
      Iff.rfl (by simp)
    rcases mappingOrEmpty?_cases v with ⟨body, rfl, found⟩ | ⟨falsy, other, found⟩ | ⟨⟨truthy, other⟩, found⟩
    · rw [found]
      exact ((reads_parseMethod name body).bind fun _ => .pure _).congr (by simp) (by simp) (by simp)
    · have isBody : IsBody v := .inl falsy
      have empty : IsBody (.map []) := .inl rfl
      rw [found, bodyValues_eq_nil other]
      exact ((reads_parseMethod name []).bind fun _ => .pure _).congr (by simp [isBody, empty])
        (and_iff_left trivial) (by simp)
    · rw [found]
      exact .fail _ ⟨by simp [IsBody, truthy, other], not_false⟩
  refine fold.congr areMethods_map.symm ?_ Iff.rfl
  simp only [Writable, methodValues, List.forall_mem_flatMap, List.forall_mem_cons]

/-! ## Reading a model -/

theorem isHeader_iff {entries : Mapping} {className : String}
    (same : ∀ v, entries.get? "class" = some v → v.same (.str className) = true) :
    IsHeader entries className ↔ IsDeclarations (entries.get "fields") ∧ IsDeclarations (entries.get "static_fields") :=
  ⟨fun header => ⟨header.fields, header.staticFields⟩, fun shaped => ⟨same, shaped.1, shaped.2⟩⟩

theorem reads_parseEntries (entries : Mapping) (className : String) :
    Reads (parseEntries entries className) (IsHeader entries className ∧ AreMethods (entries.get "methods"))
      (Writable (textValues (.map entries))) (IsHeader entries className ∧ NoMethods (entries.get "methods")) := by
  unfold parseEntries
  simp only
  split
  · rename_i differs
    obtain ⟨declared, found, other⟩ : ∃ v, entries.get? "class" = some v ∧ ¬ v.same (.str className) = true := by
      cases found : entries.get? "class" with
      | none => simp [found, Value.same_refl] at differs
      | some v => exact ⟨v, rfl, by simpa [found] using differs⟩
    -- nothing but the name of the other class is written before the model is refused
    have noHeader : ¬ IsHeader entries className := fun header => other (header.declared declared found)
    have unread := ((reads_textOf declared).bind fun text =>
      Reads.fail (α := ClassModel) (S := False) (W := True) (M := False) (.declares text className)
        ⟨not_false, not_false⟩).congr (and_iff_right trivial) Iff.rfl (and_iff_right trivial)
    simp only [found, Option.getD_some]
    refine unread.unshaped (fun shaped => noHeader shaped.1) (fun written => ⟨written declared ?_, trivial⟩)
      fun misplaced => noHeader misplaced.1
    simp [textValues, found]
  · rename_i agrees
    have same (v : Value) (found : entries.get? "class" = some v) : v.same (.str className) = true := by
      simpa [found] using agrees
    -- a class that is the same is named by a text, which can always be written
    have named : Writable (entries.get? "class").toList := by
      intro v member
      rw [Value.eq_of_same_str (same v (Option.mem_toList.mp member))]
      rfl
    refine Reads.congr (W := Writable (declaredValues (entries.get "fields")) ∧
        Writable (declaredValues (entries.get "static_fields")) ∧ Writable (methodValues (entries.get "methods")))
      (M := IsDeclarations (entries.get "fields") ∧ IsDeclarations (entries.get "static_fields") ∧
        NoMethods (entries.get "methods"))
      ((reads_declarations _ _).bind fun fields => (reads_declarations _ _).bind fun staticFields => ?_)
      (by rw [isHeader_iff same, and_assoc]) (by simp [textValues, writable_append, named])
      (by rw [isHeader_iff same, and_assoc])
    rcases mappingOrEmpty?_cases (entries.get "methods") with
      ⟨methods, isMap, found⟩ | ⟨falsy, other, found⟩ | ⟨none, found⟩
    · rw [found, isMap]
      exact ((reads_parseMethods methods).bind fun _ => .pure _).congr (and_iff_left trivial) (and_iff_left trivial)
        (iff_of_false (fun impossible => impossible.2) fun none => none.2 methods rfl)
    · have absent : AreMethods (entries.get "methods") := .inl falsy
      rw [found, methodValues_eq_nil other]
      exact ((reads_parseMethods []).bind fun _ => .pure _).congr (iff_of_true ⟨.inl rfl, trivial⟩ absent)
        (and_iff_left trivial) (iff_of_false (fun impossible => impossible.2) (by simp [NoMethods, falsy]))
    · rw [found]
      exact .fail _ none

theorem reads_parse (raw : Value) (className : String) :
    Reads (parse raw className) (Shaped raw className) (Writable (textValues raw)) (Misplaced raw className) := by
  cases raw with
  | map entries => exact (reads_parseEntries entries className).congr (by simp [Shaped]) Iff.rfl (by simp [Misplaced])
  | _ => exact .fail _ ⟨by simp [Shaped], by simp [Misplaced]⟩

theorem not_misplaced_of_shaped {raw : Value} {className : String} (shaped : Shaped raw className) :
    ¬ Misplaced raw className := by
  rintro ⟨_, rfl, -, truthy, other⟩
  obtain ⟨_, ⟨⟩, -, falsy | ⟨methods, isMap, -⟩⟩ := shaped
  · rw [falsy] at truthy
    cases truthy
  · exact other methods isMap

theorem parse_ok_iff {raw : Value} {className : String} :
    (∃ m, parse raw className = .ok m) ↔ Shaped raw className ∧ Writable (textValues raw) := by
  have reads := reads_parse raw className
  constructor
  · rintro ⟨m, read⟩
    exact reads.ok m read
  · rintro ⟨shaped, written⟩
    rcases reads.read_or_long shaped (not_misplaced_of_shaped shaped) with ⟨read, -⟩ | ⟨-, unwritten⟩
    · exact read
    · exact absurd written unwritten

theorem parse_long {raw : Value} {className : String} (shaped : Shaped raw className)
    (unwritten : ¬ Writable (textValues raw)) : parse raw className = .error .longNumber := by
  have placed := not_misplaced_of_shaped shaped
  rcases (reads_parse raw className).read_or_long shaped placed with ⟨-, written⟩ | ⟨failed, -⟩
  · exact absurd written unwritten
  · exact failed

end ClassModel

def OnlySemantic {α : Type} (x : Except Fault α) : Prop := ∀ f, x = .error f → f.kind = .semantic

theorem ClassModel.onlySemantic_parse_iff {raw : Value} {className : String} (written : Writable (textValues raw)) :
    OnlySemantic ((parse raw className).mapError .ofModel) ↔ ¬ Misplaced raw className := by
  have reads := reads_parse raw className
  constructor
  · intro contained misplaced
    cases read : parse raw className with
    | ok m => exact not_misplaced_of_shaped (reads.ok m read).1 misplaced
    | error err =>
      have blames := reads.error err read
      have kind := contained (.ofModel err) (mapError_eq_error.mpr ⟨err, read, rfl⟩)
      cases err with
      | longNumber => exact blames written
      | methodsShape => cases kind
      | _ => exact blames.2 misplaced
  · intro placed f failed
    obtain ⟨err, read, rfl⟩ := mapError_eq_error.mp failed
    have blames := reads.error err read
    cases err with
    | longNumber => exact absurd written blames
    | methodsShape => exact absurd blames placed
    | _ => rfl

end Covenant
