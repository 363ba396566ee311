import Covenant.Value.Basic

namespace Covenant.Value

def items? : Value → Option (List Value)
  | list xs => some xs
  | tuple xs => some xs
  | set xs => some xs
  | frozenSet xs => some xs
  | map es => some (es.map (·.1))
  | str s => some (s.toList.map fun c => str c.toString)
  | bytes bs => some (bs.map fun (b : Nat) => int b)
  | _ => none

def decode? (bs : List Nat) : Option String :=
  String.fromUTF8? ⟨(bs.map UInt8.ofNat).toArray⟩

end Covenant.Value
