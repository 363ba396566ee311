import Covenant.Value.Graph

namespace Covenant

structure DumpLimits where
  depth : Int := 5
  breadth : Int := 5
deriving Repr, DecidableEq

namespace Graph

def limited (breadth : Int) (items : List α) (shownAs : α → String) : String :=
  let shown := (items.take breadth.toNat).map shownAs
  Text.joined ", " (if breadth < items.length then shown ++ ["..."] else shown)

def braces (s : String) : String := "\x7b" ++ s ++ "\x7d"

def sortedMembers (g : Graph) (members : List Slot) : List Slot :=
  members.mergeSort fun a b => !decide ((g.value b).inner < (g.value a).inner)

def leafText : Value → String
  | .null => "null"
  | v => v.text

def dumpFrom (g : Graph) (breadth : Int) : Nat → List Nat → Slot → String
  | _, _, .leaf v => leafText v
  | depth, path, .node i =>
    if path.contains i then "<cycle>"
    else match depth with
      | 0 => "..."
      | depth + 1 =>
        let below := dumpFrom g breadth depth (i :: path)
        match g.node? i with
        | none => "null"
        | some (.map entries) =>
          braces (limited breadth entries fun (k, v) => g.text k ++ "=" ++ below v)
        | some (.list items) => "[" ++ limited breadth items below ++ "]"
        | some (.tuple items) => "[" ++ limited breadth items below ++ "]"
        | some (.set members) => braces (limited breadth (g.sortedMembers members) below)
        | some (.frozenSet members) => braces (limited breadth (g.sortedMembers members) below)
        | some (.object name _ attributes) =>
          name ++ braces (limited breadth attributes fun (k, v) => k ++ "=" ++ below v)
        | some (.foreign _ plain _) => plain

/-- The dump of a slot whose numbers are all `Value.writable`: one with too many digits has no text to show. Apart from
the limits it does not matter how deep the values are nested. -/
def dump (g : Graph) (s : Slot) (limits : DumpLimits) : String :=
  g.dumpFrom limits.breadth limits.depth.toNat [] s

end Graph

end Covenant
