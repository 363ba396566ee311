import Covenant.Model.Scope
import Covenant.Proofs.Basic
import Covenant.Proofs.Decimal.Printed
import Covenant.Proofs.Text.Pieces

namespace Covenant

/-! ## Whole numbers -/

namespace Text

theorem toNat_of_isDigit {c : Char} (digit : c.isDigit = true) : 48 ≤ c.toNat ∧ c.toNat ≤ 57 := by
  simp only [Char.isDigit, Bool.and_eq_true, decide_eq_true_eq] at digit
  exact digit

theorem digitValue?_of_isDigit {c : Char} (digit : c.isDigit = true) : digitValue? c = some (c.toNat - 48) := by
  obtain ⟨low, high⟩ := toNat_of_isDigit digit
  have below : c.toNat < 48 + 10 := by omega
  have first : zeroCodes.find? (fun first => first ≤ c.toNat && c.toNat < first + 10) = some 48 := by
    rw [zeroCodes, List.find?_cons_of_pos]
    simp [low, below]
  rw [digitValue?, first, Option.map_some]

theorem isBlank_of_isDigit {c : Char} (digit : c.isDigit = true) : isBlank c = false := by
  obtain ⟨low, high⟩ := toNat_of_isDigit digit
  have absent : c.toNat ∉ blankCodes := by
    simp only [blankCodes, List.mem_cons, List.not_mem_nil, or_false]
    omega
  rw [isBlank, List.contains_eq_mem]
  exact decide_eq_false absent

theorem ne_of_isDigit {c d : Char} (digit : c.isDigit = true) (other : d.isDigit = false) : c ≠ d := by
  rintro rfl
  rw [digit] at other
  cases other

theorem digitsFrom?_of_digits {cs : List Char} (digits : Decimal.AllDigits cs) (read : Nat) :
    digitsFrom? read cs = some (Nat.ofDigitChars 10 cs read) := by
  induction cs generalizing read with
  | nil => rfl
  | cons c cs ih =>
    have digit := digits c List.mem_cons_self
    rw [digitsFrom?, digitValue?_of_isDigit digit, Nat.ofDigitChars_cons]
    · exact ih (fun d member => digits d (List.mem_cons_of_mem c member)) _
    · rintro d rest rfl
      cases digit

theorem countDigits_of_digits {cs : List Char} (digits : Decimal.AllDigits cs) : countDigits cs = cs.length := by
  rw [countDigits, List.filter_eq_self.mpr]
  exact fun c member => bne_iff_ne.mpr (ne_of_isDigit (digits c member) rfl)

theorem trimNumber_of_digits {s : String} (digits : Decimal.AllDigits s.toList) : trimNumber s = s.toList := by
  have none (c : Char) (member : c ∈ s.toList) : isNumberBlank c = false := by
    rw [isNumberBlank, isBlank_of_isDigit (digits c member), Bool.false_and]
  have backwards (c : Char) (member : c ∈ s.toList.reverse) : isNumberBlank c = false :=
    none c (List.mem_reverse.mp member)
  rw [trimNumber, dropWhile_of_none none, dropWhile_of_none backwards, List.reverse_reverse]

theorem readSigned?_of_digits {cs : List Char} (nonempty : cs ≠ []) (digits : Decimal.AllDigits cs) :
    readSigned? cs = if cs.length ≤ digitLimit then some (Decimal.digitsValue cs : Int) else none := by
  obtain ⟨c, rest, rfl⟩ := List.exists_cons_of_ne_nil nonempty
  have digit := digits c List.mem_cons_self
  have value : digits? (c :: rest) = some (Decimal.digitsValue (c :: rest)) := by
    rw [digits?, digitValue?_of_isDigit digit, Decimal.digitsValue, Nat.ofDigitChars_cons, Nat.mul_zero, Nat.zero_add]
    exact digitsFrom?_of_digits (fun d member => digits d (List.mem_cons_of_mem c member)) (c.toNat - 48)
  rw [readSigned?, countDigits_of_digits digits, value]
  · rfl
  · rintro d ⟨⟩
    cases digit
  · rintro d ⟨⟩
    cases digit

theorem allDigits_digitsText (n : Nat) : Decimal.AllDigits (Decimal.digitsText n).toList := by
  rw [Decimal.toList_digitsText]
  exact Decimal.allDigits_toDigits n

theorem readInt?_digitsText (n : Nat) :
    readInt? (Decimal.digitsText n) = if exceedsDigits n then none else some (n : Int) := by
  rw [readInt?, trimNumber_of_digits (allDigits_digitsText n), Decimal.toList_digitsText,
    readSigned?_of_digits Nat.toDigits_ne_nil (Decimal.allDigits_toDigits n), Decimal.digitsValue_toDigits]
  have below (k : Nat) : n < 10 ^ k ↔ ¬ Nat.pow 10 k ≤ (n : Int).natAbs := by
    rw [not_le]
    rfl
  have short : (Nat.toDigits 10 n).length ≤ digitLimit ↔ ¬ exceedsDigits n = true := by
    rw [Nat.length_toDigits_le_iff (by decide) (by decide), exceedsDigits, decide_eq_true_eq]
    exact below digitLimit
  by_cases long : exceedsDigits n = true
  · rw [if_pos long, if_neg fun fits => short.mp fits long]
  · rw [if_neg long, if_pos (short.mpr long)]

end Text

namespace TypeScopes

/-! ## Entries -/

/-- The piece gives a name its bound. Its last colon stands between the two; the name may have blanks around it, but is
not blank itself, and the bound is a positive number. -/
def Gives (piece : String) (e : String × Nat) : Prop :=
  ∃ before after : String, Text.trim piece = before ++ ":" ++ after ∧ ':' ∉ after.toList ∧
    Text.allBlank before = false ∧ Text.trim before = e.1 ∧ Text.readInt? after = some (e.2 : Int) ∧ 1 ≤ e.2

inductive Lists : List String → List (String × Nat) → Prop
  | nil : Lists [] []
  | blank {piece : String} {pieces : List String} {entries : List (String × Nat)}
      (isBlank : Text.allBlank piece = true) (rest : Lists pieces entries) : Lists (piece :: pieces) entries
  | entry {piece : String} {pieces : List String} {e : String × Nat} {entries : List (String × Nat)}
      (gives : Gives piece e) (rest : Lists pieces entries) : Lists (piece :: pieces) (e :: entries)

/-- Every name has the bound of its last entry, and stands where its first entry does. -/
structure Collects (entries : List (String × Nat)) (scopes : TypeScopes) : Prop where
  names : scopes.map (·.1) = (entries.map (·.1)).eraseDups
  bounds : ∀ name, scopes.lookup name = entries.reverse.lookup name

variable {piece text name : String} {pieces : List String} {e : String × Nat} {entries : List (String × Nat)}
  {scopes : TypeScopes}

theorem cut_text {text before after : String} :
    Text.cutLast? ':' text.toList = some (before.toList, after.toList) ↔
      text = before ++ ":" ++ after ∧ ':' ∉ after.toList := by
  rw [Text.cutLast?_eq_some, ← String.toList_inj, String.toList_append, String.toList_append, List.append_assoc]
  rfl

theorem entry_eq_ok : entry (Text.trim piece) = .ok e ↔ Gives piece e := by
  unfold entry
  constructor
  · intro h
    split at h
    · cases h
    · rename_i before after cut
      simp only at h
      split at h
      · cases h
      · rename_i named
        split at h
        · cases h
        · rename_i n read
          split at h
          · cases h
          · rename_i positive
            cases h
            rw [← @String.toList_ofList before, ← @String.toList_ofList after, cut_text] at cut
            refine ⟨_, _, cut.1, cut.2, Bool.eq_false_iff.mpr named, rfl, ?_, ?_⟩
            · rw [read, Int.toNat_of_nonneg (by omega)]
            · change 1 ≤ n.toNat
              omega
  · rintro ⟨before, after, cut, last, named, trimmed, read, positive⟩
    have enough : ¬ (e.2 : Int) < 1 := by omega
    rw [cut_text.mpr ⟨cut, last⟩]
    simp [named, trimmed, read, enough]

theorem not_blank_of_gives (h : Gives piece e) : Text.allBlank piece = false := by
  obtain ⟨before, after, cut, -⟩ := h
  rw [Bool.eq_false_iff]
  intro blank
  rw [Text.trim_eq_empty.mpr blank, ← String.toList_inj] at cut
  simp at cut

theorem lists_cons_blank (blank : Text.allBlank piece = true) :
    Lists (piece :: pieces) entries ↔ Lists pieces entries := by
  refine ⟨fun lists => ?_, .blank blank⟩
  cases lists with
  | blank _ rest => exact rest
  | entry gives _ =>
    rw [not_blank_of_gives gives] at blank
    cases blank

theorem lists_cons_entry (named : Text.allBlank piece = false) :
    Lists (piece :: pieces) entries ↔ ∃ e rest, entries = e :: rest ∧ Gives piece e ∧ Lists pieces rest := by
  constructor
  · intro lists
    cases lists with
    | blank isBlank _ =>
      rw [isBlank] at named
      cases named
    | entry gives rest => exact ⟨_, _, rfl, gives, rest⟩
  · rintro ⟨e, rest, rfl, gives, lists⟩
    exact .entry gives lists

theorem exists_lists_iff :
    (∃ entries, Lists pieces entries) ↔ ∀ piece ∈ pieces, Text.allBlank piece = false → ∃ e, Gives piece e := by
  induction pieces with
  | nil => exact iff_of_true ⟨[], .nil⟩ nofun
  | cons piece pieces ih =>
    rw [List.forall_mem_cons, ← ih]
    cases blank : Text.allBlank piece with
    | true => simp [lists_cons_blank blank]
    | false =>
      simp only [lists_cons_entry blank, true_imp_iff]
      constructor
      · rintro ⟨_, e, rest, -, gives, lists⟩
        exact ⟨⟨e, gives⟩, rest, lists⟩
      · rintro ⟨⟨e, gives⟩, rest, lists⟩
        exact ⟨e :: rest, e, rest, rfl, gives, lists⟩

/-! ## Reading -/

def putAll (scopes : TypeScopes) (entries : List (String × Nat)) : TypeScopes :=
  entries.foldl (fun scopes e => scopes.put e.1 e.2) scopes

theorem parseEntries_eq_ok {last : TypeScopes} :
    parseEntries scopes pieces = .ok last ↔ ∃ entries, Lists pieces entries ∧ putAll scopes entries = last := by
  induction pieces generalizing scopes with
  | nil =>
    constructor
    · rintro ⟨⟩
      exact ⟨[], .nil, rfl⟩
    · rintro ⟨_, ⟨⟩, rfl⟩
      rfl
  | cons piece pieces ih =>
    rw [parseEntries]
    cases blank : Text.allBlank piece with
    | true =>
      have skipped : (Text.trim piece).isEmpty = true := String.isEmpty_iff.mpr (Text.trim_eq_empty.mpr blank)
      rw [if_pos skipped, ih]
      simp only [lists_cons_blank blank]
    | false =>
      have kept : ¬ (Text.trim piece).isEmpty = true := by
        rw [String.isEmpty_iff, Text.trim_eq_empty, blank]
        exact Bool.false_ne_true
      rw [if_neg kept, bind_eq_ok]
      simp only [entry_eq_ok, ih, lists_cons_entry blank]
      constructor
      · rintro ⟨e, gives, entries, lists, collected⟩
        exact ⟨e :: entries, ⟨e, entries, rfl, gives, lists⟩, collected⟩
      · rintro ⟨_, ⟨e, entries, rfl, gives, lists⟩, collected⟩
        exact ⟨e, gives, entries, lists, collected⟩

theorem ofValue_str (text : String) : ofValue (.str text) = parse text := by
  rw [ofValue]
  split
  · rfl
  · rename_i counts
    have empty : text = "" := by simpa [Value.truthy] using counts
    rw [empty]
    rfl

theorem lookup_put (scopes : TypeScopes) (name key : String) (bound : Nat) :
    (scopes.put name bound).lookup key = if key = name then some bound else scopes.lookup key := by
  induction scopes with
  | nil => rw [put, lookup_cons_eq]
  | cons e rest ih =>
    obtain ⟨n, b⟩ := e
    rw [put]
    split
    · rename_i same
      rw [lookup_cons_eq, lookup_cons_eq, same]
      split <;> rfl
    · rename_i differs
      rw [lookup_cons_eq, lookup_cons_eq, ih]
      split
      · rename_i same
        rw [if_neg fun other => differs (same.symm.trans other)]
      · rfl

theorem names_put (scopes : TypeScopes) (name : String) (bound : Nat) :
    (scopes.put name bound).map (·.1) =
      scopes.map (·.1) ++ if name ∈ scopes.map (·.1) then [] else [name] := by
  induction scopes with
  | nil => rfl
  | cons e rest ih =>
    obtain ⟨n, b⟩ := e
    rw [put]
    split
    · rename_i same
      simp [same]
    · rename_i differs
      have other : ¬ name = n := Ne.symm differs
      simp only [List.map_cons, ih, List.cons_append, List.mem_cons, other, false_or]

theorem putAll_append_singleton (scopes : TypeScopes) (entries : List (String × Nat)) (e : String × Nat) :
    putAll scopes (entries ++ [e]) = (putAll scopes entries).put e.1 e.2 := by
  rw [putAll, List.foldl_append]
  rfl

theorem collects_putAll (entries : List (String × Nat)) : Collects entries (putAll [] entries) := by
  induction entries using List.reverseRecOn with
  | nil => exact ⟨rfl, fun _ => rfl⟩
  | append_singleton entries e ih =>
    refine ⟨?_, fun name => ?_⟩
    · rw [putAll_append_singleton, names_put, ih.names, List.map_append, List.eraseDups_append]
      by_cases known : e.1 ∈ entries.map (·.1)
      · simp [known, List.removeAll]
      · simp [known, List.removeAll, List.eraseDups_cons]
    · rw [putAll_append_singleton, lookup_put, ih.bounds, List.reverse_append]
      exact (lookup_cons_eq e.1 e.2 entries.reverse name).symm

/-! ## Writing -/

structure Proper (scopes : TypeScopes) : Prop where
  distinct : (scopes.map (·.1)).Nodup
  named : ∀ e ∈ scopes, e.1 ≠ "" ∧ Text.trim e.1 = e.1 ∧ ',' ∉ e.1.toList
  positive : ∀ e ∈ scopes, 1 ≤ e.2

def written (e : String × Nat) : String := e.1 ++ ":" ++ Decimal.digitsText e.2

/-- The pieces write the bounds in their order. Blanks may stand around each of them, and blank pieces anywhere. -/
inductive Spells : TypeScopes → List String → Prop
  | nil : Spells [] []
  | blank {scopes : TypeScopes} {piece : String} {pieces : List String} (isBlank : Text.allBlank piece = true)
      (rest : Spells scopes pieces) : Spells scopes (piece :: pieces)
  | entry {scopes : TypeScopes} {pieces : List String} (e : String × Nat) (left right : String)
      (before : Text.allBlank left = true) (after : Text.allBlank right = true) (rest : Spells scopes pieces) :
      Spells (e :: scopes) ((left ++ written e ++ right) :: pieces)

theorem not_mem_of_allBlank (blank : Text.allBlank text = true) {c : Char} (other : Text.isBlank c = false) :
    c ∉ text.toList := by
  intro member
  rw [Text.allBlank, List.all_eq_true] at blank
  rw [blank c member] at other
  cases other

theorem toList_written (e : String × Nat) :
    (written e).toList = e.1.toList ++ [':'] ++ (Decimal.digitsText e.2).toList := by
  rw [written, String.toList_append, String.toList_append]
  rfl

theorem trim_written (named : e.1 ≠ "") (trimmed : Text.trim e.1 = e.1) : Text.trim (written e) = written e := by
  have digits : Text.trimChars (Decimal.digitsText e.2).toList = (Decimal.digitsText e.2).toList :=
    Text.trimChars_of_none fun c member => Text.isBlank_of_isDigit (Text.allDigits_digitsText e.2 c member)
  have name : Text.trimChars e.1.toList = e.1.toList := by
    rw [Text.trim, ← String.toList_inj, String.toList_ofList] at trimmed
    exact trimmed
  rw [Text.trim, ← String.toList_inj, String.toList_ofList, toList_written]
  refine Text.trimChars_append name (by simpa using named) digits ?_
  rw [Decimal.toList_digitsText]
  exact Nat.toDigits_ne_nil

theorem gives_written {left right : String} {e' : String × Nat} (before : Text.allBlank left = true)
    (after : Text.allBlank right = true) (named : e.1 ≠ "") (trimmed : Text.trim e.1 = e.1) (positive : 1 ≤ e.2) :
    Gives (left ++ written e ++ right) e' ↔ e' = e ∧ Text.exceedsDigits e.2 = false := by
  have whole : Text.trim (left ++ written e ++ right) = e.1 ++ ":" ++ Decimal.digitsText e.2 := by
    rw [Text.trim_surrounded before after, trim_written named trimmed, written]
  have last : ':' ∉ (Decimal.digitsText e.2).toList := fun member =>
    Text.ne_of_isDigit (Text.allDigits_digitsText e.2 _ member) rfl rfl
  have some_name : Text.allBlank e.1 = false := by
    rw [Bool.eq_false_iff, Ne, ← Text.trim_eq_empty, trimmed]
    exact named
  constructor
  · rintro ⟨name, bound, cut, free, -, trimmed_name, read, -⟩
    -- digits are no colons, so that the entry is cut where it was put together
    have both := (cut_text.mpr ⟨cut, free⟩).symm.trans (cut_text.mpr ⟨whole, last⟩)
    simp only [Option.some.injEq, Prod.mk.injEq, String.toList_inj] at both
    obtain ⟨rfl, rfl⟩ := both
    rw [Text.readInt?_digitsText] at read
    split at read
    · cases read
    · rename_i short
      have same : e.2 = e'.2 := by simpa using read
      exact ⟨Prod.ext (trimmed_name.symm.trans trimmed) same.symm, Bool.eq_false_iff.mpr short⟩
  · rintro ⟨rfl, short⟩
    refine ⟨_, _, whole, last, some_name, trimmed, ?_, positive⟩
    rw [Text.readInt?_digitsText, short]
    rfl

theorem lists_of_spells (spelled : Spells scopes pieces) (named : ∀ e ∈ scopes, e.1 ≠ "" ∧ Text.trim e.1 = e.1)
    (positive : ∀ e ∈ scopes, 1 ≤ e.2) :
    Lists pieces entries ↔ entries = scopes ∧ ∀ e ∈ scopes, Text.exceedsDigits e.2 = false := by
  induction spelled generalizing entries with
  | nil =>
    constructor
    · rintro ⟨⟩
      exact ⟨rfl, nofun⟩
    · rintro ⟨rfl, -⟩
      exact .nil
  | blank isBlank _ ih => rw [lists_cons_blank isBlank, ih named positive]
  | @entry scopes pieces e left right before after _ ih =>
    rw [List.forall_mem_cons] at named positive
    have colon : Text.allBlank (left ++ written e ++ right) = false := by
      rw [Bool.eq_false_iff]
      intro blank
      refine not_mem_of_allBlank blank (c := ':') (by decide) ?_
      simp [toList_written]
    rw [lists_cons_entry colon, List.forall_mem_cons]
    simp only [gives_written before after named.1.1 named.1.2 positive.1, ih named.2 positive.2]
    constructor
    · rintro ⟨_, _, rfl, ⟨rfl, short⟩, rfl, rest⟩
      exact ⟨rfl, short, rest⟩
    · rintro ⟨rfl, short, rest⟩
      exact ⟨_, _, rfl, ⟨rfl, short⟩, rfl, rest⟩

theorem comma_free_of_spells (spelled : Spells scopes pieces) (free : ∀ e ∈ scopes, ',' ∉ e.1.toList) :
    ∀ piece ∈ pieces, ',' ∉ piece.toList := by
  induction spelled with
  | nil => exact nofun
  | blank isBlank _ ih =>
    rw [List.forall_mem_cons]
    exact ⟨not_mem_of_allBlank isBlank (by decide), ih free⟩
  | @entry scopes pieces e left right before after _ ih =>
    rw [List.forall_mem_cons] at free ⊢
    refine ⟨?_, ih free.2⟩
    have digits : ',' ∉ (Decimal.digitsText e.2).toList := fun member =>
      Text.ne_of_isDigit (Text.allDigits_digitsText e.2 _ member) rfl rfl
    have comma : Text.isBlank ',' = false := by decide
    simp [toList_written, not_mem_of_allBlank before comma, not_mem_of_allBlank after comma, free.1, digits]

theorem put_of_not_mem (new : name ∉ scopes.map (·.1)) (bound : Nat) :
    scopes.put name bound = scopes ++ [(name, bound)] := by
  induction scopes with
  | nil => rfl
  | cons e rest ih =>
    obtain ⟨n, b⟩ := e
    rw [List.map_cons, List.mem_cons, not_or] at new
    rw [put, if_neg (Ne.symm new.1), ih new.2, List.cons_append]

theorem putAll_of_distinct (distinct : (entries.map (·.1)).Nodup) : putAll [] entries = entries := by
  induction entries using List.reverseRecOn with
  | nil => rfl
  | append_singleton entries e ih =>
    rw [List.map_append, List.nodup_append] at distinct
    rw [putAll_append_singleton, ih distinct.1, put_of_not_mem]
    intro member
    exact distinct.2.2 _ member _ (by simp) rfl

theorem splitText_spelled (spelled : Spells scopes pieces) (free : ∀ e ∈ scopes, ',' ∉ e.1.toList)
    (some_piece : pieces ≠ []) : Text.splitText ',' (Text.joined "," pieces) = pieces :=
  Text.MadeOf.splitText_eq ⟨some_piece, comma_free_of_spells spelled free, rfl⟩

theorem parse_spelled (proper : scopes.Proper) (spelled : Spells scopes pieces) :
    parse (Text.joined "," pieces) = .ok scopes ↔ ∀ e ∈ scopes, Text.exceedsDigits e.2 = false := by
  have lists (entries : List (String × Nat)) :
      Lists pieces entries ↔ entries = scopes ∧ ∀ e ∈ scopes, Text.exceedsDigits e.2 = false :=
    lists_of_spells spelled (fun e member => ⟨(proper.named e member).1, (proper.named e member).2.1⟩) proper.positive
  cases pieces with
  | nil =>
    cases spelled
    exact iff_of_true rfl nofun
  | cons piece rest =>
    have cut := splitText_spelled spelled (fun e member => (proper.named e member).2.2) nofun
    rw [parse, cut, parseEntries_eq_ok]
    simp only [lists]
    constructor
    · rintro ⟨_, ⟨rfl, short⟩, -⟩
      exact short
    · intro short
      exact ⟨scopes, ⟨rfl, short⟩, putAll_of_distinct proper.distinct⟩

/-- Which texts are read, what they are read as, and which texts the bounds of types are read back from. -/
theorem scope_texts_exact :
    (∀ text : String,
      Text.MadeOf ',' text (Text.splitText ',' text) ∧
      ((∃ scopes, ofValue (.str text) = .ok scopes) ↔
        ∀ piece ∈ Text.splitText ',' text, Text.allBlank piece = false → ∃ e, Gives piece e) ∧
      (∀ scopes, ofValue (.str text) = .ok scopes →
        ∃ entries, Lists (Text.splitText ',' text) entries ∧ Collects entries scopes) ∧
      (∀ problem, ofValue (.str text) = .error problem → (Fault.ofScope problem).kind = .semantic)) ∧
    (∀ (scopes : TypeScopes) (pieces : List String), scopes.Proper → Spells scopes pieces →
      (ofValue (.str (Text.joined "," pieces)) = .ok scopes ↔ ∀ e ∈ scopes, Text.exceedsDigits e.2 = false)) := by
  refine ⟨fun text => ⟨Text.madeOf_splitText ',' text, ?_, fun scopes read => ?_, fun _ _ => rfl⟩,
    fun scopes pieces proper spelled => ?_⟩
  · simp only [ofValue_str, parse, parseEntries_eq_ok, ← exists_lists_iff]
    constructor
    · rintro ⟨_, entries, lists, -⟩
      exact ⟨entries, lists⟩
    · rintro ⟨entries, lists⟩
      exact ⟨_, entries, lists, rfl⟩
  · rw [ofValue_str, parse, parseEntries_eq_ok] at read
    obtain ⟨entries, lists, rfl⟩ := read
    exact ⟨entries, lists, collects_putAll entries⟩
  · rw [ofValue_str]
    exact parse_spelled proper spelled

theorem scopes_read_back :
    let scopes : TypeScopes := [("a:b", 3), ("x y", 12)]
    let pieces := [" a:b:3\t", "", "  ", "x y:12"]
    scopes.Proper ∧ Spells scopes pieces ∧ (∀ e ∈ scopes, Text.exceedsDigits e.2 = false) ∧
      ofValue (.str " a:b:3\t,,  ,x y:12") = .ok scopes := by
  intro scopes pieces
  have proper : scopes.Proper := ⟨by decide, by decide, by decide⟩
  have spelled : Spells scopes pieces :=
    .entry ("a:b", 3) " " "\t" rfl rfl (.blank rfl (.blank rfl (.entry ("x y", 12) "" "" rfl rfl .nil)))
  have short : ∀ e ∈ scopes, Text.exceedsDigits e.2 = false := by decide +kernel
  exact ⟨proper, spelled, short, (scope_texts_exact.2 scopes pieces proper spelled).mpr short⟩

theorem spells_singleton (e : String × Nat) : Spells [e] [written e] := by
  simpa using Spells.entry e "" "" rfl rfl .nil

theorem not_read_of_long {n : Nat} (positive : 1 ≤ n) (long : Text.exceedsDigits n = true) :
    Proper [("int", n)] ∧ ofValue (.str (written ("int", n))) ≠ .ok [("int", n)] := by
  have proper : Proper [("int", n)] := by
    refine ⟨List.nodup_singleton _, ?_, ?_⟩
    · rw [List.forall_mem_singleton]
      exact (by decide : "int" ≠ "" ∧ Text.trim "int" = "int" ∧ ',' ∉ "int".toList)
    · rwa [List.forall_mem_singleton]
  refine ⟨proper, fun read => ?_⟩
  rw [ofValue_str] at read
  have short := (parse_spelled proper (spells_singleton ("int", n))).mp read
  rw [List.forall_mem_singleton, long] at short
  cases short

theorem long_bound_refused :
    Proper [("int", Nat.pow 10 Text.digitLimit)] ∧
      Spells [("int", Nat.pow 10 Text.digitLimit)] [written ("int", Nat.pow 10 Text.digitLimit)] ∧
      ofValue (.str (Text.joined "," [written ("int", Nat.pow 10 Text.digitLimit)])) ≠
        .ok [("int", Nat.pow 10 Text.digitLimit)] := by
  have positive (k : Nat) : 1 ≤ Nat.pow 10 k := Nat.pow_pos (by decide)
  have long (k : Nat) : Nat.pow 10 k ≤ (Nat.pow 10 k : Int).natAbs := le_refl _
  obtain ⟨proper, refused⟩ := not_read_of_long (positive Text.digitLimit) (decide_eq_true (long Text.digitLimit))
  exact ⟨proper, spells_singleton _, refused⟩

end TypeScopes

end Covenant
