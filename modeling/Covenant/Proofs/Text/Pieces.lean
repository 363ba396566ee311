import Covenant.Text.Blank
import Covenant.Text.Pieces
import Mathlib.Data.List.DropRight
import Mathlib.Data.List.TakeWhile

namespace Covenant.Text

variable {separator : Char} {s : String} {parts : List String}

/-! ## Pieces -/

structure MadeOf (separator : Char) (s : String) (parts : List String) : Prop where
  nonempty : parts ≠ []
  free : ∀ part ∈ parts, separator ∉ part.toList
  whole : s = joined (String.singleton separator) parts

theorem pieces_eq_splitOn (separator : Char) (cs : List Char) : pieces separator cs = cs.splitOn separator := by
  induction cs with
  | nil => rfl
  | cons c cs ih =>
    rw [pieces, ih, List.splitOn, List.splitOn, List.splitOnP_cons_eq_if_modifyHead]
    by_cases ends : c = separator
    · rw [if_pos ends, if_pos (beq_iff_eq.mpr ends)]
    · rw [if_neg ends, if_neg fun same => ends (beq_iff_eq.mp same)]
      cases found : List.splitOnP (· == separator) cs with
      | nil => exact absurd found (List.splitOnP_ne_nil _ cs)
      | cons piece rest => rfl

theorem not_mem_of_mem_pieces {cs piece : List Char} (h : piece ∈ pieces separator cs) : separator ∉ piece := by
  induction cs generalizing piece with
  | nil =>
    rw [List.mem_singleton.mp h]
    exact List.not_mem_nil
  | cons c cs ih =>
    rw [pieces] at h
    split at h
    · rcases List.mem_cons.mp h with rfl | later
      · exact List.not_mem_nil
      · exact ih later
    · rename_i other
      split at h
      · rw [List.mem_singleton.mp h, List.mem_singleton]
        exact Ne.symm other
      · rename_i first rest found
        rcases List.mem_cons.mp h with rfl | later
        · have free : separator ∉ first := ih (found ▸ List.mem_cons_self)
          exact List.not_mem_cons_of_ne_of_not_mem (Ne.symm other) free
        · exact ih (found ▸ List.mem_cons_of_mem first later)

theorem mem_of_mem_pieces {c : Char} {cs piece : List Char} (h : piece ∈ pieces separator cs)
    (member : c ∈ piece) : c ∈ cs := by
  induction cs generalizing piece with
  | nil =>
    rw [List.mem_singleton.mp h] at member
    exact member
  | cons d cs ih =>
    rw [pieces] at h
    split at h
    · rcases List.mem_cons.mp h with rfl | later
      · cases member
      · exact List.mem_cons_of_mem d (ih later member)
    · split at h
      · rw [List.mem_singleton.mp h, List.mem_singleton] at member
        exact member ▸ List.mem_cons_self
      · rename_i first rest found
        rcases List.mem_cons.mp h with rfl | later
        · refine List.mem_cons.mpr ((List.mem_cons.mp member).imp_right fun further => ?_)
          exact ih (found ▸ List.mem_cons_self) further
        · exact List.mem_cons_of_mem d (ih (found ▸ List.mem_cons_of_mem first later) member)

theorem toList_joined (separator : Char) (parts : List String) :
    (joined (String.singleton separator) parts).toList = [separator].intercalate (parts.map String.toList) := by
  induction parts with
  | nil => rfl
  | cons part rest ih =>
    cases rest with
    | nil => simp [joined, List.intercalate]
    | cons next rest =>
      rw [joined, String.toList_append, String.toList_append, ih]
      · simp [List.intercalate]
      · exact nofun

theorem joined_append_last (separator : String) (parts : List String) (last suffix : String) :
    joined separator (parts ++ [last ++ suffix]) = joined separator (parts ++ [last]) ++ suffix := by
  induction parts with
  | nil => rfl
  | cons part parts ih =>
    have more (s : String) :
        joined separator (part :: parts ++ [s]) = part ++ separator ++ joined separator (parts ++ [s]) := by
      cases parts <;> rfl
    rw [more, more, ih, ← String.append_assoc]

theorem MadeOf.splitText_eq (h : MadeOf separator s parts) : splitText separator s = parts := by
  have free : ∀ cs ∈ parts.map String.toList, separator ∉ cs := List.forall_mem_map.mpr h.free
  rw [splitText, pieces_eq_splitOn, h.whole, toList_joined,
    List.splitOn_intercalate separator free (by simpa using h.nonempty), List.map_map]
  simp

theorem madeOf_splitText (separator : Char) (s : String) : MadeOf separator s (splitText separator s) where
  nonempty := by simp [splitText, pieces_eq_splitOn, List.splitOn_ne_nil]
  free part member := by
    obtain ⟨piece, cut, rfl⟩ := List.mem_map.mp member
    rw [String.toList_ofList]
    exact not_mem_of_mem_pieces cut
  whole := by
    rw [← String.toList_inj, toList_joined, splitText, List.map_map, pieces_eq_splitOn]
    simp [Function.comp_def, List.intercalate_splitOn]

theorem cutLast?_eq_none {cs : List Char} : cutLast? separator cs = none ↔ separator ∉ cs := by
  induction cs with
  | nil => simp [cutLast?]
  | cons c rest ih =>
    rw [cutLast?, List.mem_cons, not_or]
    cases cut : cutLast? separator rest with
    | some parts =>
      refine iff_of_false nofun fun absent => ?_
      rw [ih.mpr absent.2] at cut
      cases cut
    | none =>
      simp only [ih.mp cut, not_false_eq_true, and_true]
      split
      · rename_i same
        exact iff_of_false nofun fun differs => differs same.symm
      · rename_i differs
        exact iff_of_true rfl (Ne.symm differs)

theorem cutLast?_eq_some {cs before after : List Char} :
    cutLast? separator cs = some (before, after) ↔ cs = before ++ separator :: after ∧ separator ∉ after := by
  constructor
  · intro h
    induction cs generalizing before with
    | nil => cases h
    | cons c rest ih =>
      rw [cutLast?] at h
      split at h
      · rename_i start last cut
        cases h
        obtain ⟨whole, absent⟩ := ih cut
        exact ⟨congrArg (c :: ·) whole, absent⟩
      · rename_i none_left
        split at h
        · rename_i same
          cases h
          exact ⟨congrArg (· :: after) same, cutLast?_eq_none.mp none_left⟩
        · cases h
  · rintro ⟨rfl, absent⟩
    induction before with
    | nil => rw [List.nil_append, cutLast?, cutLast?_eq_none.mpr absent, if_pos rfl]
    | cons c before ih => rw [List.cons_append, cutLast?, ih]

theorem dropStart?_append {α : Type} [DecidableEq α] (start rest : List α) :
    dropStart? start (start ++ rest) = some rest := by
  induction start with
  | nil => rfl
  | cons a start ih => rw [List.cons_append, dropStart?, if_pos rfl, ih]

/-! ## Blanks -/

theorem trimChars_eq (cs : List Char) : trimChars cs = (cs.dropWhile isBlank).rdropWhile isBlank := rfl

theorem trimChars_append_left {blanks : List Char} (blank : ∀ c ∈ blanks, isBlank c = true) (cs : List Char) :
    trimChars (blanks ++ cs) = trimChars cs := by
  rw [trimChars, List.dropWhile_append_of_pos blank, ← trimChars]

theorem trimChars_append_right {blanks : List Char} (blank : ∀ c ∈ blanks, isBlank c = true) (cs : List Char) :
    trimChars (cs ++ blanks) = trimChars cs := by
  have reversed : ∀ c ∈ blanks.reverse, isBlank c = true := fun c member => blank c (List.mem_reverse.mp member)
  rw [trimChars, List.dropWhile_append]
  split
  · rename_i gone
    rw [trimChars, List.isEmpty_iff.mp gone, List.dropWhile_eq_nil_iff.mpr blank]
  · rw [List.reverse_append, List.dropWhile_append_of_pos reversed, ← trimChars]

theorem trimChars_eq_nil {cs : List Char} : trimChars cs = [] ↔ ∀ c ∈ cs, isBlank c = true := by
  rw [trimChars_eq, List.rdropWhile_eq_nil_iff]
  constructor
  · intro blank
    rw [← List.dropWhile_eq_nil_iff]
    -- what is left would begin with a character that is not blank
    cases left : cs.dropWhile isBlank with
    | nil => rfl
    | cons c rest =>
      have first : isBlank c = false := by simpa [left] using List.head?_dropWhile_not isBlank cs
      rw [left] at blank
      rw [blank c List.mem_cons_self] at first
      cases first
  · intro blank c member
    exact blank c ((List.dropWhile_sublist _).subset member)

theorem trimChars_eq_self {cs : List Char} :
    trimChars cs = cs ↔ cs.dropWhile isBlank = cs ∧ cs.rdropWhile isBlank = cs := by
  rw [trimChars_eq]
  constructor
  · intro whole
    have start : cs.dropWhile isBlank = cs := by
      refine (List.dropWhile_sublist _).eq_of_length_le ?_
      have shorter := (List.rdropWhile_prefix isBlank (cs.dropWhile isBlank)).length_le
      rwa [whole] at shorter
    rw [start] at whole
    exact ⟨start, whole⟩
  · rintro ⟨start, final⟩
    rw [start, final]

theorem dropWhile_of_none {p : Char → Bool} {cs : List Char} (none : ∀ c ∈ cs, p c = false) : cs.dropWhile p = cs := by
  rw [List.dropWhile_eq_self_iff]
  intro nonempty
  rw [none _ (List.getElem_mem nonempty)]
  exact Bool.false_ne_true

theorem trimChars_of_none {cs : List Char} (none : ∀ c ∈ cs, isBlank c = false) : trimChars cs = cs := by
  have backwards : ∀ c ∈ cs.reverse, isBlank c = false := fun c member => none c (List.mem_reverse.mp member)
  rw [trimChars, dropWhile_of_none none, dropWhile_of_none backwards, List.reverse_reverse]

theorem trimChars_append {start middle final : List Char} (first : trimChars start = start) (some_first : start ≠ [])
    (last : trimChars final = final) (some_last : final ≠ []) :
    trimChars (start ++ middle ++ final) = start ++ middle ++ final := by
  rw [trimChars_eq_self] at first last ⊢
  have backwards : final.reverse.dropWhile isBlank = final.reverse := by
    rw [List.reverse_eq_iff.symm]
    exact last.2
  constructor
  · rw [List.append_assoc, List.dropWhile_append, first.1, if_neg (by simpa using some_first)]
  · rw [List.rdropWhile, List.reverse_append, List.dropWhile_append, backwards, if_neg (by simpa using some_last),
      ← List.reverse_append, List.reverse_reverse]

theorem trim_surrounded {left right : String} (before : allBlank left = true) (after : allBlank right = true)
    (s : String) : trim (left ++ s ++ right) = trim s := by
  rw [allBlank, List.all_eq_true] at before after
  rw [trim, trim, String.toList_append, String.toList_append, trimChars_append_right after,
    trimChars_append_left before]

theorem mem_of_mem_trim {s : String} {c : Char} (h : c ∈ (trim s).toList) : c ∈ s.toList := by
  rw [trim, String.toList_ofList, trimChars_eq] at h
  exact (List.dropWhile_sublist _).subset ((List.rdropWhile_prefix _ _).subset h)

theorem trim_eq_empty : trim s = "" ↔ allBlank s = true := by
  rw [trim, ← String.toList_inj, String.toList_ofList, allBlank, List.all_eq_true]
  exact trimChars_eq_nil

end Covenant.Text
