/-!
# The shortest decimal of a binary number

A finite binary number is `significand * 2 ^ exponent`. Every decimal closer to it than to its neighbours reads
back as that number; at the two ends of this interval a decimal reads back if the significand is even. The
shortest decimal is the first that reads back when the number of digits grows from one; of two candidates the
nearer is taken, and of two equally near the even one.
-/

namespace Covenant.Decimal

structure Scientific where
  digits : Nat
  exponent : Int
deriving Repr, DecidableEq

/-- The binary number `significand * 2 ^ exponent`; `narrow` if the neighbour below is at half distance. -/
structure Binary where
  significand : Nat
  exponent : Int
  narrow : Bool
deriving Repr, DecidableEq

structure Fraction where
  num : Nat
  den : Nat

def scaled2 (n : Nat) (e : Int) : Fraction :=
  if 0 ≤ e then ⟨n * Nat.pow 2 e.toNat, 1⟩ else ⟨n, Nat.pow 2 (-e).toNat⟩

def Fraction.over10 (x : Fraction) (e : Int) : Fraction :=
  if 0 ≤ e then ⟨x.num, x.den * Nat.pow 10 e.toNat⟩ else ⟨x.num * Nat.pow 10 (-e).toNat, x.den⟩

def Fraction.le (x y : Fraction) : Bool := x.num * y.den ≤ y.num * x.den
def Fraction.lt (x y : Fraction) : Bool := x.num * y.den < y.num * x.den

/-- The numbers from here on are kept in quarters of the last place, so that the ends are whole. -/
def Binary.quarters (b : Binary) : Fraction := scaled2 (4 * b.significand) (b.exponent - 2)

def Binary.lowEnd (b : Binary) : Fraction :=
  scaled2 (4 * b.significand - (if b.narrow then 1 else 2)) (b.exponent - 2)

def Binary.highEnd (b : Binary) : Fraction :=
  scaled2 (4 * b.significand + 2) (b.exponent - 2)

/-- The whole number `n`, in units of `10 ^ e`, reads back as `b`. -/
def Binary.readsBack (b : Binary) (e : Int) (n : Nat) : Bool :=
  let low := b.lowEnd.over10 e
  let high := b.highEnd.over10 e
  if b.significand % 2 = 0 then low.le ⟨n, 1⟩ && (Fraction.mk n 1).le high
  else low.lt ⟨n, 1⟩ && (Fraction.mk n 1).lt high

def Binary.onGrid? (b : Binary) (e : Int) : Option Scientific :=
  let x := b.quarters.over10 e
  let below := x.num / x.den
  let rest := x.num % x.den
  let above := below + 1
  let lowOk := b.readsBack e below
  let highOk := rest ≠ 0 && b.readsBack e above
  if lowOk && highOk then
    if 2 * rest < x.den then some ⟨below, e⟩
    else if x.den < 2 * rest then some ⟨above, e⟩
    else some ⟨if below % 2 = 0 then below else above, e⟩
  else if lowOk then some ⟨below, e⟩
  else if highOk then some ⟨above, e⟩
  else none

def leadingExponent (x : Fraction) (guess : Int) : Nat → Int
  | 0 => guess
  | fuel + 1 =>
    let y := x.over10 guess
    if y.num < y.den then leadingExponent x (guess - 1) fuel
    else if 10 * y.den ≤ y.num then leadingExponent x (guess + 1) fuel
    else guess

def Binary.firstOnGrid (b : Binary) (lead : Int) : Nat → Scientific
  | 0 => ⟨0, 0⟩
  | fuel + 1 =>
    match b.onGrid? (lead + fuel - 17) with
    | some s => s
    | none => b.firstOnGrid lead fuel

def Scientific.stripped (s : Scientific) : Nat → Scientific
  | 0 => s
  | fuel + 1 =>
    if s.digits ≠ 0 ∧ s.digits % 10 = 0 then
      (Scientific.mk (s.digits / 10) (s.exponent + 1)).stripped fuel
    else s

def Binary.shortest (b : Binary) : Scientific :=
  let x := b.quarters
  let guess := ((x.num.log2 : Int) - x.den.log2) * 30103 / 100000
  let lead := leadingExponent x guess 8
  (b.firstOnGrid lead 18).stripped 400

/-! ## Machine numbers -/

inductive Parts where
  | undefined
  | infinite (negative : Bool)
  | zero (negative : Bool)
  | finite (negative : Bool) (size : Binary)

def parts (x : Float) : Parts :=
  let bits : Nat := x.toBits.toNat
  let negative := bits / Nat.pow 2 63 = 1
  let biased : Nat := bits / Nat.pow 2 52 % Nat.pow 2 11
  let fraction : Nat := bits % Nat.pow 2 52
  if biased = 2047 then (if fraction = 0 then .infinite negative else .undefined)
  else if biased = 0 then
    (if fraction = 0 then .zero negative else .finite negative ⟨fraction, -1074, false⟩)
  else .finite negative ⟨Nat.pow 2 52 + fraction, (biased : Int) - 1075, fraction = 0 && biased ≠ 1⟩

def Binary.toRat (b : Binary) (negative : Bool) : Rat :=
  let size : Rat := if 0 ≤ b.exponent then (b.significand * Nat.pow 2 b.exponent.toNat : Nat)
    else mkRat b.significand (Nat.pow 2 (-b.exponent).toNat)
  if negative then -size else size

def exactValue? (x : Float) : Option Rat :=
  match parts x with
  | .finite negative size => some (size.toRat negative)
  | .zero _ => some 0
  | _ => none

def Scientific.toRat (s : Scientific) : Rat :=
  if 0 ≤ s.exponent then (s.digits * Nat.pow 10 s.exponent.toNat : Nat)
  else mkRat s.digits (Nat.pow 10 (-s.exponent).toNat)

def shortestValue? (x : Float) : Option Rat :=
  match parts x with
  | .finite negative size =>
    let value := size.shortest.toRat
    some (if negative then -value else value)
  | .zero _ => some 0
  | _ => none

end Covenant.Decimal
