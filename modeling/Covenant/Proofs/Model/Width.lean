import Covenant.Proofs.Model.Dependencies

namespace Covenant

variable {subject : ClassModel} {method : MethodModel} {dependencies : List ClassModel} {bits bits' : Nat}
  {enc enc' : Encoding} {xs : List Variable} {i : Interpretation}

namespace Encoding

def Writable (bits : Nat) (xs : List Variable) : Prop := tooWide bits = false ∨ ∀ x ∈ xs, x.ty ≠ .int

theorem writable_iff : Writable bits xs ↔ ¬ (tooWide bits && xs.any (·.ty = .int)) = true := by
  rw [Writable, Bool.and_eq_true, not_and_or, Bool.not_eq_true]
  simp

instance : Decidable (Writable bits xs) := decidable_of_iff _ writable_iff.symm

theorem Writable.of_perm {ys : List Variable} (perm : xs.Perm ys) (h : Writable bits xs) : Writable bits ys :=
  h.imp_right fun noInt x member => noInt x (perm.mem_iff.mpr member)

theorem pow_bits_le (le : bits ≤ bits') : (2 : Int) ^ (bits - 1) ≤ 2 ^ (bits' - 1) := by
  apply pow_le_pow_right₀ (by decide)
  omega

theorem lowest_anti (le : bits ≤ bits') : lowest bits' ≤ lowest bits :=
  neg_le_neg (pow_bits_le le)

theorem tooWide_mono (le : bits ≤ bits') (wide : tooWide bits = true) : tooWide bits' = true := by
  rw [tooWide, Bool.or_eq_true] at wide ⊢
  rcases wide with many | long
  · left
    have more := of_decide_eq_true many
    exact decide_eq_true (by omega)
  · right
    have digits : Nat.pow 10 Text.digitLimit ≤ (lowest bits).natAbs := of_decide_eq_true long
    have negative : lowest bits ≤ 0 := neg_nonpos.mpr (pow_nonneg (by decide) _)
    have larger : (lowest bits).natAbs ≤ (lowest bits').natAbs := by
      have lower := lowest_anti le
      omega
    exact decide_eq_true (digits.trans larger)

theorem Writable.narrower (le : bits ≤ bits') (h : Writable bits' xs) : Writable bits xs := by
  refine h.imp_left fun narrow => ?_
  by_contra wide
  rw [tooWide_mono le (Bool.not_eq_false _ ▸ wide)] at narrow
  cases narrow

theorem ofMethod_at (encoded : ofMethod subject method dependencies bits = .ok enc) (bits' : Nat) :
    ofMethod subject method dependencies bits' =
      if Writable bits' enc.unknowns then .ok { enc with bits := bits' } else .error .longNumber := by
  obtain ⟨e⟩ := ofMethod_ok encoded
  obtain ⟨frame, declared⟩ := declareFrame_of_ofMethod encoded
  obtain rfl : frame = e.frame := (declareFrame_ok declared).frame_unique e.declares
  rw [ofMethod_eq declared e.effects e.requires e.ensures (invariant_written encoded) e.invariant,
    ← e.statics_eq, ← e.assumptions, ← e.obligations]
  by_cases writable : Writable bits' enc.unknowns
  · rw [if_neg (writable_iff.mp writable), if_pos writable]
  · rw [if_pos (not_not.mp (mt writable_iff.mpr writable)), if_neg writable]

end Encoding

theorem Within.wider (le : bits ≤ bits') (h : Within bits xs i) : Within bits' xs i := by
  intro x member isInt
  obtain ⟨low, high⟩ := h x member isInt
  have powers := Encoding.pow_bits_le le
  exact ⟨(neg_le_neg powers).trans low, high.trans (sub_le_sub_right powers 1)⟩

def Encoding.Solves (enc : Encoding) (i : Interpretation) : Prop := ∀ c ∈ enc.constraints, c.eval i = true

namespace Encoding.Solves

theorem within (h : enc.Solves i) : Within enc.bits enc.unknowns i :=
  bounds_iff.mp (constraints_iff.mp h).1

theorem rebound (h : enc.Solves i) (within : Within bits' enc.unknowns i) : { enc with bits := bits' }.Solves i :=
  constraints_iff.mpr ⟨bounds_iff.mpr within, (constraints_iff.mp h).2⟩

theorem wider (h : enc.Solves i) (le : enc.bits ≤ bits') : { enc with bits := bits' }.Solves i :=
  h.rebound (h.within.wider le)

end Encoding.Solves

structure Widens (subject : ClassModel) (method : MethodModel) (dependencies : List ClassModel) (bits bits' : Nat) :
    Prop where
  encodes_iff : (∃ enc', Encoding.ofMethod subject method dependencies bits' = .ok enc') ↔
    ∃ enc, Encoding.ofMethod subject method dependencies bits = .ok enc ∧
      Encoding.Writable bits' (methodVariables subject method dependencies)
  unwritable : ∀ enc, Encoding.ofMethod subject method dependencies bits = .ok enc →
    ¬ Encoding.Writable bits' (methodVariables subject method dependencies) →
    Encoding.ofMethod subject method dependencies bits' = .error .longNumber
  alike : ∀ enc enc', Encoding.ofMethod subject method dependencies bits = .ok enc →
    Encoding.ofMethod subject method dependencies bits' = .ok enc' →
    enc'.unknowns = enc.unknowns ∧ enc'.assumptions = enc.assumptions ∧ enc'.obligations = enc.obligations ∧
      (∀ i, enc.Solves i → enc'.Solves i) ∧ ∀ i, enc'.Solves i → Within bits enc.unknowns i → enc.Solves i

theorem widens (le : bits ≤ bits') : Widens subject method dependencies bits bits' where
  encodes_iff := by
    constructor
    · rintro ⟨enc', encoded'⟩
      obtain ⟨e'⟩ := ofMethod_ok encoded'
      have writable : Encoding.Writable bits' enc'.unknowns := e'.narrow
      refine ⟨{ enc' with bits := bits }, ?_, e'.declares.unknown ▸ writable⟩
      rw [Encoding.ofMethod_at encoded', if_pos (writable.narrower le)]
    · rintro ⟨enc, encoded, writable⟩
      obtain ⟨e⟩ := ofMethod_ok encoded
      rw [← e.declares.unknown] at writable
      refine ⟨{ enc with bits := bits' }, ?_⟩
      rw [Encoding.ofMethod_at encoded, if_pos writable]
  unwritable enc encoded unwritable := by
    obtain ⟨e⟩ := ofMethod_ok encoded
    rw [← e.declares.unknown] at unwritable
    rw [Encoding.ofMethod_at encoded, if_neg unwritable]
  alike enc enc' encoded encoded' := by
    obtain ⟨e⟩ := ofMethod_ok encoded
    have made := Encoding.ofMethod_at encoded bits'
    rw [encoded'] at made
    split at made
    case isFalse => cases made
    obtain rfl : enc' = { enc with bits := bits' } := Except.ok.inj made
    refine ⟨rfl, rfl, rfl, fun i solves => solves.wider (e.bits_eq ▸ le), fun i solves within => ?_⟩
    have back := solves.rebound within
    rwa [← e.bits_eq] at back

end Covenant
