import Covenant.Decimal.Text
import Mathlib.Algebra.Order.Field.Rat
import Mathlib.Tactic.FieldSimp
import Mathlib.Tactic.Ring

namespace Covenant.Decimal

/-! ## Reading exactly -/

def digitsValue (cs : List Char) : Nat := Nat.ofDigitChars 10 cs 0

def exponentOf? : List Char → Option Int
  | [] => some 0
  | 'e' :: '+' :: ds => if ds.all Char.isDigit then some (digitsValue ds) else none
  | 'e' :: '-' :: ds => if ds.all Char.isDigit then some (-digitsValue ds) else none
  | _ => none

def unsignedOf? (cs : List Char) : Option Rat :=
  let whole := cs.takeWhile Char.isDigit
  match cs.dropWhile Char.isDigit with
  | '.' :: rest =>
    let places := rest.takeWhile Char.isDigit
    (exponentOf? (rest.dropWhile Char.isDigit)).map fun e : Int =>
      (digitsValue (whole ++ places) : Rat) * 10 ^ (e - places.length)
  | rest => (exponentOf? rest).map fun e : Int => (digitsValue whole : Rat) * 10 ^ e

def numberOf? (cs : List Char) : Option Rat :=
  match cs with
  | '-' :: cs => (unsignedOf? cs).map (-·)
  | cs => unsignedOf? cs

/-! ## Digits -/

def AllDigits (cs : List Char) : Prop := ∀ c ∈ cs, c.isDigit = true

theorem AllDigits.append {cs ds : List Char} (left : AllDigits cs) (right : AllDigits ds) : AllDigits (cs ++ ds) := by
  intro c member
  rcases List.mem_append.mp member with member | member
  · exact left c member
  · exact right c member

theorem allDigits_toDigits (n : Nat) : AllDigits (Nat.toDigits 10 n) :=
  fun _ member => Nat.isDigit_of_mem_toDigits (by decide) (by decide) member

theorem allDigits_zeros (n : Nat) : AllDigits (List.replicate n '0') := by
  intro c member
  rw [List.eq_of_mem_replicate member]
  rfl

theorem digitsValue_toDigits (n : Nat) : digitsValue (Nat.toDigits 10 n) = n :=
  Nat.ofDigitChars_toDigits (by decide) (by decide)

theorem digitsValue_zeros_left (n : Nat) (cs : List Char) :
    digitsValue (List.replicate n '0' ++ cs) = digitsValue cs := by
  induction n with
  | zero => rfl
  | succ n ih => exact ih

theorem digitsValue_zeros_right (n : Nat) (cs : List Char) :
    digitsValue (cs ++ List.replicate n '0') = digitsValue cs * 10 ^ n := by
  induction n with
  | zero => simp
  | succ n ih =>
    rw [List.replicate_succ', ← List.append_assoc, digitsValue, Nat.ofDigitChars, List.foldl_append, List.foldl_cons,
      List.foldl_nil, ← Nat.ofDigitChars, ← digitsValue, ih, pow_succ]
    simp
    ring

/-! ## Reading what is written -/

theorem toList_digitsText (n : Nat) : (digitsText n).toList = Nat.toDigits 10 n := by
  simp [digitsText]

theorem toList_zeros (n : Nat) : (zeros n).toList = List.replicate n '0' := by
  simp [zeros]

theorem exponentOf?_exponentText (e : Int) : exponentOf? ('e' :: (exponentText e).toList) = some e := by
  let padded := List.replicate (2 - (digitsText e.natAbs).length) '0' ++ Nat.toDigits 10 e.natAbs
  have digits : padded.all Char.isDigit = true :=
    List.all_eq_true.mpr ((allDigits_zeros _).append (allDigits_toDigits _))
  have value : digitsValue padded = e.natAbs := by rw [digitsValue_zeros_left, digitsValue_toDigits]
  by_cases negative : e < 0
  · have written : (exponentText e).toList = '-' :: padded := by
      simp [exponentText, negative, toList_zeros, toList_digitsText, padded]
    rw [written, exponentOf?, if_pos digits, value, Int.ofNat_natAbs_of_nonpos negative.le, neg_neg]
  · have written : (exponentText e).toList = '+' :: padded := by
      simp [exponentText, negative, toList_zeros, toList_digitsText, padded]
    rw [written, exponentOf?, if_pos digits, value, Int.natAbs_of_nonneg (not_lt.mp negative)]

theorem unsignedOf?_point {whole places tail : List Char} {e : Int} (wholeDigits : AllDigits whole)
    (placesDigits : AllDigits places) (ends : tail.takeWhile Char.isDigit = [])
    (exponent : exponentOf? tail = some e) :
    unsignedOf? (whole ++ '.' :: (places ++ tail)) =
      some ((digitsValue (whole ++ places) : Rat) * 10 ^ (e - places.length)) := by
  have point : ('.' : Char).isDigit = false := by decide
  have rest : tail.dropWhile Char.isDigit = tail := by
    have whole := List.takeWhile_append_dropWhile (p := Char.isDigit) (l := tail)
    rwa [ends] at whole
  simp only [unsignedOf?, List.takeWhile_append_of_pos wholeDigits, List.dropWhile_append_of_pos wholeDigits,
    List.takeWhile_cons, List.dropWhile_cons, point]
  simp [List.takeWhile_append_of_pos placesDigits, List.dropWhile_append_of_pos placesDigits, ends, rest, exponent]

theorem unsignedOf?_plain {whole tail : List Char} {e : Int} (wholeDigits : AllDigits whole)
    (exponent : exponentOf? ('e' :: tail) = some e) :
    unsignedOf? (whole ++ 'e' :: tail) = some ((digitsValue whole : Rat) * 10 ^ e) := by
  have mark : ('e' : Char).isDigit = false := by decide
  simp only [unsignedOf?, List.takeWhile_append_of_pos wholeDigits, List.dropWhile_append_of_pos wholeDigits,
    List.takeWhile_cons, List.dropWhile_cons, mark]
  simp [exponent]

theorem toRat_eq (s : Scientific) : s.toRat = s.digits * 10 ^ s.exponent := by
  unfold Scientific.toRat
  split
  · rename_i nonneg
    obtain ⟨n, exponent⟩ := Int.eq_ofNat_of_zero_le nonneg
    simp [exponent]
  · rename_i negative
    obtain ⟨n, exponent⟩ := Int.eq_ofNat_of_zero_le (by omega : 0 ≤ -s.exponent)
    have exponent' : s.exponent = -(n : Int) := by omega
    rw [exponent', Rat.mkRat_eq_div, zpow_neg, zpow_natCast]
    simp [div_eq_mul_inv]

theorem unsignedOf?_positional {s : Scientific} {whole places : List Char} (wholeDigits : AllDigits whole)
    (placesDigits : AllDigits places)
    (value : (digitsValue (whole ++ places) : Rat) = s.digits * 10 ^ (s.exponent + places.length)) :
    unsignedOf? (whole ++ '.' :: places) = some s.toRat := by
  have read : unsignedOf? (whole ++ '.' :: (places ++ [])) =
      some ((digitsValue (whole ++ places) : Rat) * 10 ^ ((0 : Int) - places.length)) :=
    unsignedOf?_point wholeDigits placesDigits rfl rfl
  rw [List.append_nil] at read
  rw [read, value, toRat_eq, mul_assoc, ← zpow_add₀ (by norm_num)]
  congr 3
  ring

section Notations

variable {s : Scientific} {ds : List Char} (digits : AllDigits ds) (value : digitsValue ds = s.digits)

include digits value

theorem unsignedOf?_below_one {k : Nat} (count : (k : Int) = -(ds.length + s.exponent)) :
    unsignedOf? (['0'] ++ '.' :: (List.replicate k '0' ++ ds)) = some s.toRat := by
  refine unsignedOf?_positional (allDigits_zeros 1) ((allDigits_zeros k).append digits) ?_
  have leading : digitsValue (['0'] ++ (List.replicate k '0' ++ ds)) = s.digits := by
    rw [← value, ← digitsValue_zeros_left k ds]
    rfl
  have places : s.exponent + ((List.replicate k '0' ++ ds).length : Int) = 0 := by
    rw [List.length_append, List.length_replicate]
    omega
  rw [leading, places, zpow_zero, mul_one]

theorem unsignedOf?_whole {m : Nat} (exponent : s.exponent = m) :
    unsignedOf? ((ds ++ List.replicate m '0') ++ '.' :: ['0']) = some s.toRat := by
  refine unsignedOf?_positional (digits.append (allDigits_zeros m)) (allDigits_zeros 1) ?_
  have trailing : digitsValue (ds ++ List.replicate m '0' ++ ['0']) = s.digits * 10 ^ (m + 1) := by
    rw [← value, ← digitsValue_zeros_right, List.replicate_succ', List.append_assoc]
  rw [trailing, exponent]
  push_cast
  rw [← zpow_natCast]
  rfl

theorem unsignedOf?_between {whole places : List Char} (parts : whole ++ places = ds)
    (exponent : s.exponent + places.length = 0) : unsignedOf? (whole ++ '.' :: places) = some s.toRat := by
  subst parts
  refine unsignedOf?_positional (fun c member => digits c (List.mem_append_left _ member))
    (fun c member => digits c (List.mem_append_right _ member)) ?_
  rw [value, exponent, zpow_zero, mul_one]

theorem unsignedOf?_scientific {first : Char} {rest : List Char} (parts : ds = first :: rest) {e : Int}
    (exponent : e - rest.length = s.exponent) :
    unsignedOf? (first :: '.' :: (rest ++ 'e' :: (exponentText e).toList)) = some s.toRat := by
  subst parts
  have firstDigit : AllDigits [first] := fun c member =>
    digits c (List.mem_cons.mpr (.inl (List.mem_singleton.mp member)))
  have restDigits : AllDigits rest := fun c member => digits c (List.mem_cons_of_mem _ member)
  rw [toRat_eq, ← exponent, ← value]
  exact unsignedOf?_point firstDigit restDigits rfl (exponentOf?_exponentText e)

theorem unsignedOf?_single {first : Char} (parts : ds = [first]) :
    unsignedOf? (first :: 'e' :: (exponentText s.exponent).toList) = some s.toRat := by
  subst parts
  rw [toRat_eq, ← value]
  exact unsignedOf?_plain digits (exponentOf?_exponentText s.exponent)

end Notations

theorem unsignedOf?_write (s : Scientific) : unsignedOf? (displayed.write s).toList = some s.toRat := by
  obtain ⟨ds, made⟩ : ∃ ds, ds = Nat.toDigits 10 s.digits := ⟨_, rfl⟩
  have text : (digitsText s.digits).toList = ds := by rw [toList_digitsText, made]
  have digits : AllDigits ds := made ▸ allDigits_toDigits _
  have value : digitsValue ds = s.digits := made ▸ digitsValue_toDigits _
  have size : (digitsText s.digits).length = ds.length := by rw [← text, String.length_toList]
  unfold Style.write
  simp only [size, text]
  split
  · split
    · have read := unsignedOf?_below_one digits value (k := (-((ds.length : Int) + s.exponent)).toNat) (by omega)
      simpa [toList_zeros, text] using read
    · split
      · have read := unsignedOf?_whole digits value (m := s.exponent.toNat) (by omega)
        simpa [toList_zeros, text] using read
      · have parts : ds.take ((ds.length : Int) + s.exponent).toNat ++ ds.drop ((ds.length : Int) + s.exponent).toNat =
            ds := List.take_append_drop ..
        have read := unsignedOf?_between digits value parts (by rw [List.length_drop]; omega)
        simpa [List.splitAt_eq] using read
  · rcases ds with _ | ⟨first, _ | ⟨second, rest⟩⟩
    · exact absurd made.symm Nat.toDigits_ne_nil
    · have read := unsignedOf?_single digits value rfl
      simpa [text] using read
    · have exponent : ((first :: second :: rest).length : Int) + s.exponent - 1 - (second :: rest).length =
          s.exponent := by
        simp only [List.length_cons]
        omega
      have read := unsignedOf?_scientific digits value rfl exponent
      simpa using read

theorem numberOf?_of_unsigned {cs : List Char} {q : Rat} (h : unsignedOf? cs = some q) : numberOf? cs = some q := by
  unfold numberOf?
  split
  · rename_i rest
    have sign : unsignedOf? ('-' :: rest) = none := rfl
    rw [sign] at h
    cases h
  · exact h

/-- The text of a machine number stands for its shortest decimal; infinite and undefined ones have none. -/
theorem numberOf?_text (x : Float) : numberOf? (text x).toList = shortestValue? x := by
  unfold text shortestValue?
  cases parts x with
  | undefined => decide
  | infinite negative => cases negative <;> decide
  | zero negative => cases negative <;> decide +kernel
  | finite negative size =>
    cases negative with
    | true => simp [minus, numberOf?, unsignedOf?_write]
    | false => simpa [minus] using numberOf?_of_unsigned (unsignedOf?_write size.shortest)

end Covenant.Decimal
