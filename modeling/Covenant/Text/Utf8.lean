namespace Covenant.Text

structure Undecodable where
  start : Nat
  bytes : List UInt8
  reason : String
deriving Repr, DecidableEq

def byteCount? (b : UInt8) : Option Nat :=
  let n := b.toNat
  if n < 0x80 then some 1
  else if n < 0xC2 then none
  else if n < 0xE0 then some 2
  else if n < 0xF0 then some 3
  else if n < 0xF5 then some 4
  else none

def isContinuation (b : UInt8) : Bool := b.toNat / 64 == 2

/-- The second byte excludes forms that are too long, surrogates, and numbers above the last code point. -/
def mayFollow (first second : UInt8) : Bool :=
  let (n, m) := (first.toNat, second.toNat)
  isContinuation second && (n != 0xE0 || 0xA0 ≤ m) && (n != 0xED || m < 0xA0) && (n != 0xF0 || 0x90 ≤ m) &&
    (n != 0xF4 || m < 0x90)

def followers (first : UInt8) (count : Nat) (rest : List UInt8) : List UInt8 :=
  match rest.take count with
  | [] => []
  | second :: others => if mayFollow first second then second :: others.takeWhile isContinuation else []

def undecodableFrom : Nat → (start : Nat) → List UInt8 → Option Undecodable
  | 0, _, _ => none
  | _, _, [] => none
  | fuel + 1, start, first :: rest =>
    match byteCount? first with
    | none => some ⟨start, [first], "invalid start byte"⟩
    | some count =>
      let found := followers first (count - 1) rest
      if found.length + 1 == count then undecodableFrom fuel (start + count) (rest.drop found.length)
      else if found.length == rest.length then some ⟨start, first :: found, "unexpected end of data"⟩
      else some ⟨start, first :: found, "invalid continuation byte"⟩

def undecodable? (bytes : List UInt8) : Option Undecodable :=
  undecodableFrom (bytes.length + 1) 0 bytes

end Covenant.Text
