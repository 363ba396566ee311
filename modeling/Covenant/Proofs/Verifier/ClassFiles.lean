import Covenant.Proofs.Text.Pieces
import Covenant.Proofs.Verifier.Site

namespace Covenant

/-! ## Paths below another path -/

namespace Path

def components (p : Path) : List String :=
  (if p.root = .current then [] else [rootText p.root]) ++ p.parts

def Below (p top : Path) : Prop := top.components <+: p.components

instance (p top : Path) : Decidable (p.Below top) := inferInstanceAs (Decidable (_ <+: _))

theorem join_current {p q : Path} (relative : q.root = .current) : p.join q = ⟨p.root, p.parts ++ q.parts⟩ := by
  rw [join, relative]

theorem join_rooted {p q : Path} (rooted : q.root ≠ .current) : p.join q = q := by
  rw [join]
  split
  · contradiction
  · rfl

theorem join_below {p q : Path} (relative : q.root = .current) : (p.join q).Below p := by
  rw [join_current relative, Below, components, components, ← List.append_assoc]
  exact List.prefix_append _ _

theorem rootOf_eq_current {cs : List Char} : rootOf cs = .current ↔ cs.head? ≠ some '/' := by
  cases cs with
  | nil => simp [rootOf]
  | cons c cs =>
    by_cases top : c = '/'
    · subst top
      refine iff_of_false (fun relative => ?_) (by simp)
      unfold rootOf at relative
      split at relative <;> simp_all
    · simp [rootOf, top]

theorem rootOf_append (cs : List Char) {suffix : List Char} (plain : '/' ∉ suffix) :
    rootOf (cs ++ suffix) = rootOf cs := by
  cases suffix with
  | nil => rw [List.append_nil]
  | cons c suffix =>
    have other : c ≠ '/' := fun same => plain (same ▸ List.mem_cons_self)
    rcases cs with _ | ⟨a, _ | ⟨b, _ | ⟨d, cs⟩⟩⟩
    · simp [rootOf, other]
    · by_cases first : a = '/' <;> simp [rootOf, first, other]
    · by_cases first : a = '/' <;> by_cases second : b = '/' <;> simp [rootOf, first, second, other]
    · by_cases first : a = '/' <;> by_cases second : b = '/' <;> by_cases third : d = '/' <;>
        simp [rootOf, first, second, third]

end Path

/-! ## Names of classes as paths -/

def StartsInside (className : String) : Prop :=
  className.toList.head? ≠ some '.' ∧ className.toList.head? ≠ some '/'

/-- A suffix that makes a file name out of any name: it has no strokes, and is neither empty nor a single dot. -/
def IsFileSuffix (suffix : String) : Prop := '/' ∉ suffix.toList ∧ suffix ≠ "" ∧ suffix ≠ "."

theorem dot_notin_classPath (className : String) : '.' ∉ (classPath className).toList := by
  rw [classPath, replaceChar_toList]
  intro member
  obtain ⟨c, -, made⟩ := List.mem_map.mp member
  split at made
  · cases made
  · contradiction

theorem root_of_class_iff {className : String} (named : className ≠ "") (suffix : String) :
    (Path.parse (classPath className ++ suffix)).root = .current ↔ StartsInside className := by
  obtain ⟨c, rest, listed⟩ := List.exists_cons_of_ne_nil (mt String.toList_eq_nil_iff.mp named)
  have first : (classPath className ++ suffix).toList.head? = some (if c = '.' then '/' else c) := by
    rw [String.toList_append, classPath, replaceChar_toList, listed]
    rfl
  rw [Path.parse, Path.rootOf_eq_current, first, StartsInside, listed]
  by_cases dot : c = '.' <;> simp [dot]

theorem classPath_replaceChar (className : String) :
    classPath (Text.replaceChar '/' '.' className) = classPath className := by
  have each (c : Char) : (if (if c = '/' then '.' else c) = '.' then '/' else if c = '/' then '.' else c) =
      if c = '.' then '/' else c := by
    by_cases stroke : c = '/'
    · simp [stroke]
    · simp [stroke]
  rw [classPath, Text.replaceChar, replaceChar_toList, List.map_map, classPath, Text.replaceChar]
  simp only [Function.comp_def, each]

variable {className : String}

theorem classFile_of_inside (named : className ≠ "") (inside : StartsInside className) (sourceRoot suffix : String) :
    (classFile sourceRoot className suffix).Below (.parse sourceRoot) :=
  Path.join_below ((root_of_class_iff named suffix).mpr inside)

theorem classFile_of_not_inside (named : className ≠ "") (outside : ¬ StartsInside className) (suffix : String) :
    ¬ (classFile "src" className suffix).Below (.parse "src") := by
  have rooted := mt (root_of_class_iff named suffix).mp outside
  rw [classFile, Path.join_rooted rooted]
  rintro ⟨rest, split⟩
  have listed (p : Path) (rooted : p.root ≠ .current) : p.components = Path.rootText p.root :: p.parts := by
    rw [Path.components, if_neg rooted, List.singleton_append]
  have first : "src" = Path.rootText (Path.parse (classPath className ++ suffix)).root :=
    (List.cons.inj (split.trans (listed _ rooted))).1
  cases located : (Path.parse (classPath className ++ suffix)).root with
  | current => exact rooted located
  | _ =>
    rw [located] at first
    revert first
    decide

theorem append_isFileName {name suffix : String} (undotted : '.' ∉ name.toList) (fits : IsFileSuffix suffix) :
    (name ++ suffix != "" && name ++ suffix != ".") = true := by
  obtain ⟨-, some_suffix, not_dot⟩ := fits
  rw [Bool.and_eq_true, bne_iff_ne, bne_iff_ne]
  refine ⟨fun empty => some_suffix (String.append_eq_empty_iff.mp empty).2, fun dot => ?_⟩
  have chars : name.toList ++ suffix.toList = ['.'] := by rw [← String.toList_append, dot]; rfl
  rcases List.append_eq_singleton_iff.mp chars with ⟨-, only⟩ | ⟨only, -⟩
  · exact not_dot (String.toList_inj.mp only)
  · exact undotted (only ▸ List.mem_singleton_self _)

theorem exists_stem (className : String) : ∃ (directories : List String) (name : String), ".." ∉ directories ∧
    '.' ∉ name.toList ∧ ∀ suffix, IsFileSuffix suffix →
      Path.parse (classPath className ++ suffix) =
        ⟨Path.rootOf (classPath className).toList, directories ++ [name ++ suffix]⟩ := by
  have made := Text.madeOf_splitText '/' (classPath className)
  have undotted : ∀ part ∈ Text.splitText '/' (classPath className), '.' ∉ part.toList := by
    intro part member dot
    obtain ⟨piece, cut, rfl⟩ := List.mem_map.mp member
    rw [String.toList_ofList] at dot
    exact dot_notin_classPath className (Text.mem_of_mem_pieces cut dot)
  obtain ⟨before, name, listed⟩ : ∃ before name, Text.splitText '/' (classPath className) = before ++ [name] :=
    ⟨_, _, (List.dropLast_append_getLast made.nonempty).symm⟩
  rw [listed] at made undotted
  refine ⟨before.filter fun part => part != "" && part != ".", name, ?_, undotted name (by simp), ?_⟩
  · intro up
    exact undotted ".." (List.mem_append_left _ (List.mem_of_mem_filter up)) (by decide)
  · intro suffix fits
    have whole : Text.MadeOf '/' (classPath className ++ suffix) (before ++ [name ++ suffix]) := by
      refine ⟨by simp, fun part member => ?_, ?_⟩
      · rcases List.mem_append.mp member with earlier | final
        · exact made.free part (List.mem_append_left _ earlier)
        · rw [List.mem_singleton.mp final, String.toList_append, List.mem_append]
          exact not_or.mpr ⟨made.free name (by simp), fits.1⟩
      · rw [Text.joined_append_last, ← made.whole]
    have named : [name ++ suffix].filter (fun part => part != "" && part != ".") = [name ++ suffix] :=
      List.filter_cons_of_pos (append_isFileName (undotted name (by simp)) fits)
    rw [Path.parse, whole.splitText_eq, String.toList_append, Path.rootOf_append _ fits.1, List.filter_append, named]

theorem Path.text_append_suffix (root : PathRoot) (parts : List String) (name : String) {suffix : String}
    (fits : IsFileSuffix suffix) :
    Path.text ⟨root, parts ++ [name ++ suffix]⟩ = rootText root ++ Text.joined "/" (parts ++ [name]) ++ suffix := by
  have shown : rootText root ++ Text.joined "/" (parts ++ [name ++ suffix]) =
      rootText root ++ Text.joined "/" (parts ++ [name]) ++ suffix := by
    rw [Text.joined_append_last, String.append_assoc]
  have nonempty : ¬ (rootText root ++ Text.joined "/" (parts ++ [name]) ++ suffix == "") = true := by
    rw [beq_iff_eq, String.append_eq_empty_iff]
    exact fun empty => fits.2.1 empty.2
  rw [Path.text, shown]
  exact if_neg nonempty

theorem classFile_texts (sourceRoot className : String) :
    ∃ stem, ∀ suffix, IsFileSuffix suffix → (classFile sourceRoot className suffix).text = stem ++ suffix := by
  obtain ⟨directories, name, -, -, parsed⟩ := exists_stem className
  by_cases relative : Path.rootOf (classPath className).toList = .current
  · have joined (suffix : String) (fits : IsFileSuffix suffix) : classFile sourceRoot className suffix =
        ⟨(Path.parse sourceRoot).root, (Path.parse sourceRoot).parts ++ directories ++ [name ++ suffix]⟩ := by
      rw [classFile, parsed suffix fits, Path.join_current relative, List.append_assoc]
    exact ⟨_, fun suffix fits => joined suffix fits ▸ Path.text_append_suffix _ _ name fits⟩
  · have joined (suffix : String) (fits : IsFileSuffix suffix) : classFile sourceRoot className suffix =
        ⟨Path.rootOf (classPath className).toList, directories ++ [name ++ suffix]⟩ := by
      rw [classFile, parsed suffix fits, Path.join_rooted relative]
    exact ⟨_, fun suffix fits => joined suffix fits ▸ Path.text_append_suffix _ _ name fits⟩

theorem classFile_never_climbs (named : className ≠ "") (inside : StartsInside className) (sourceRoot : String)
    {suffix : String} (fits : IsFileSuffix suffix) (level : suffix ≠ "..") : ∃ inner,
    (classFile sourceRoot className suffix).parts = (Path.parse sourceRoot).parts ++ inner ∧ ".." ∉ inner := by
  obtain ⟨directories, name, kept, undotted, parsed⟩ := exists_stem className
  refine ⟨directories ++ [name ++ suffix], ?_, fun up => ?_⟩
  · rw [classFile, Path.join_current ((root_of_class_iff named suffix).mpr inside), parsed suffix fits]
  · rcases List.mem_append.mp up with up | up
    · exact kept up
    · have chars : name.toList ++ suffix.toList = ['.', '.'] := by
        rw [← String.toList_append, ← List.mem_singleton.mp up]
        rfl
      cases listed : name.toList with
      | nil =>
        rw [listed] at chars
        exact level (String.toList_inj.mp chars)
      | cons c rest =>
        rw [listed] at chars undotted
        exact undotted ((List.cons.inj chars).1 ▸ List.mem_cons_self)

/-! ## The files that are asked for -/

def Subject.ChecksFile (s : Subject) (file : Path) : Prop :=
  s.sourceFile = .ok file ∧ ∀ {τ : Type} (desk : Desk τ), s.valid = none →
    (s.validate.ends desk).2.checked = desk.checked ++ [file.text]

def ClassModel.ReadsFile (sourceRoot className suffix : String) (file : Path) : Prop :=
  file = classFile sourceRoot className suffix ∧ ∀ files files' : FileTree,
    files.isFile file.text = files'.isFile file.text → files.read file.text = files'.read file.text →
      load files sourceRoot className suffix = load files' sourceRoot className suffix

theorem Subject.checksFile {s : Subject} (named : s.className ≠ "") {suffix : String}
    (suffixed : s.suffix = .str suffix) : s.ChecksFile (classFile s.sourceRoot s.className suffix) := by
  have found : s.sourceFile = .ok (classFile s.sourceRoot s.className suffix) := by
    rw [sourceFile, suffixed]
  refine ⟨found, fun desk fresh => ?_⟩
  have unnamed : ¬ (s.className == "") = true := by simpa using named
  simp only [validate, fresh, if_neg unnamed, found, ends_bind, ends_check, ends_modify, ends_get]
  cases s.check.run desk.files (classFile s.sourceRoot s.className suffix).text <;> rfl

theorem ClassModel.readsFile (sourceRoot className suffix : String) :
    ReadsFile sourceRoot className suffix (classFile sourceRoot className suffix) := by
  refine ⟨rfl, fun files files' present read => ?_⟩
  rw [load, load, present, read]

/-- The files of a class with a name are below the source root, whatever that is, if and only if the name begins with
neither a dot nor a stroke; then no part below the source root leads up again. The class that the engine is asked about
has the path of the subject, so that source and model differ in their suffixes only. -/
theorem class_files_below_iff_starts_inside (named : className ≠ "") (suffix modelSuffix : String) :
    ((∀ s : Subject, s.className = className → s.suffix = .str suffix →
        ∃ file, s.ChecksFile file ∧ file.Below (.parse s.sourceRoot)) ↔ StartsInside className) ∧
      ((∀ sourceRoot, ∃ file, ClassModel.ReadsFile sourceRoot className modelSuffix file ∧
        file.Below (.parse sourceRoot)) ↔ StartsInside className) ∧
      (StartsInside className → IsFileSuffix suffix → suffix ≠ ".." → ∀ sourceRoot, ∃ inner,
        (classFile sourceRoot className suffix).parts = (Path.parse sourceRoot).parts ++ inner ∧ ".." ∉ inner) ∧
      ∀ (s : Subject) (request : Request), s.className = className → s.suffix = .str suffix →
        ∃ site file model, Site.ofConfiguration (Configuration.build s request) = .ok site ∧
          site.root = .str s.sourceRoot ∧ s.ChecksFile file ∧
          ClassModel.ReadsFile s.sourceRoot site.className modelSuffix model ∧
          (∃ stem, file = (Path.parse s.sourceRoot).join (.parse (stem ++ suffix)) ∧
            model = (Path.parse s.sourceRoot).join (.parse (stem ++ modelSuffix))) ∧
          (IsFileSuffix suffix → IsFileSuffix modelSuffix →
            ∃ stem, file.text = stem ++ suffix ∧ model.text = stem ++ modelSuffix) := by
  refine ⟨⟨fun below => ?_, ?_⟩, ⟨fun below => ?_, ?_⟩, ?_, ?_⟩
  · by_contra outside
    obtain ⟨file, checks, lies⟩ := below ⟨"src", className, .str suffix, .readable, none⟩ rfl rfl
    cases checks.1
    exact classFile_of_not_inside named outside suffix lies
  · rintro inside s rfl suffixed
    exact ⟨_, s.checksFile named suffixed, classFile_of_inside named inside _ _⟩
  · by_contra outside
    obtain ⟨file, ⟨rfl, -⟩, lies⟩ := below "src"
    exact classFile_of_not_inside named outside modelSuffix lies
  · exact fun inside root => ⟨_, ClassModel.readsFile root _ _, classFile_of_inside named inside _ _⟩
  · exact fun inside fits level root => classFile_never_climbs named inside root fits level
  · rintro s request rfl suffixed
    obtain ⟨stem, texts⟩ := classFile_texts s.sourceRoot s.className
    refine ⟨_, _, _, ofConfiguration_build s request, rfl, s.checksFile named suffixed, ClassModel.readsFile _ _ _,
      ⟨classPath s.className, rfl, ?_⟩, fun fits modelFits => ⟨stem, texts suffix fits, ?_⟩⟩
    · rw [classFile, classPath_replaceChar]
    · rw [classFile, classPath_replaceChar]
      exact texts modelSuffix modelFits

theorem tank_files_below : "plant.Tank" ≠ "" ∧ StartsInside "plant.Tank" ∧
    (∃ file, ({ sourceRoot := "src", className := "plant.Tank" } : Subject).ChecksFile file ∧
      file.Below (.parse "src") ∧ file.text = "src/plant/Tank.java") ∧
    ∃ file, ClassModel.ReadsFile "src" "plant.Tank" ".model.yaml" file ∧ file.Below (.parse "src") ∧
      file.text = "src/plant/Tank.model.yaml" := by
  have inside : StartsInside "plant.Tank" := by
    unfold StartsInside
    decide
  have named : "plant.Tank" ≠ "" := by decide
  obtain ⟨checks, reads, -, -⟩ := class_files_below_iff_starts_inside named ".java" ".model.yaml"
  obtain ⟨file, checked, below⟩ := checks.mpr inside { sourceRoot := "src", className := "plant.Tank" } rfl rfl
  obtain ⟨model, ⟨rfl, read⟩, modelBelow⟩ := reads.mpr inside "src"
  refine ⟨named, inside, ⟨file, checked, below, ?_⟩, _, ⟨rfl, read⟩, modelBelow, by decide⟩
  cases checked.1
  decide

/-- A leading dot makes a path from the top out of the name, which ignores the source root. -/
theorem leading_dot_leaves_root : ∃ file model,
    ({ sourceRoot := "src", className := ".plant.Tank" } : Subject).ChecksFile file ∧
      ClassModel.ReadsFile "src" ".plant.Tank" ".model.yaml" model ∧
      file.text = "/plant/Tank.java" ∧ model.text = "/plant/Tank.model.yaml" ∧
      ¬ file.Below (.parse "src") ∧ ¬ model.Below (.parse "src") :=
  ⟨_, _, Subject.checksFile (by decide) rfl, ClassModel.readsFile _ _ _, by decide, by decide, by decide, by decide⟩

end Covenant
