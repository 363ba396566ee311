import Covenant.Command.Disk

namespace Covenant.Command

structure Glyph where
  char : Char
  isQuoted : Bool
deriving Repr, DecidableEq

def textOf (glyphs : List Glyph) : String := String.ofList (glyphs.map (·.char))

inductive GlobItem where
  | char (c : Char)
  | one
  | any
  | among (negated : Bool) (ranges : List (Char × Char)) (classes : List String)
deriving Repr, DecidableEq

abbrev Glob := List GlobItem

namespace Glob

def inClass (name : String) (c : Char) : Bool :=
  match name with
  | "alpha" => c.isAlpha
  | "digit" => c.isDigit
  | "alnum" => c.isAlphanum
  | "upper" => c.isUpper
  | "lower" => c.isLower
  | "space" => [' ', '\t', '\n', '\r', '\x0b', '\x0c'].contains c
  | "blank" => c == ' ' || c == '\t'
  | "punct" => '!' ≤ c && c ≤ '~' && !c.isAlphanum
  | "print" => ' ' ≤ c && c ≤ '~'
  | "graph" => '!' ≤ c && c ≤ '~'
  | "cntrl" => c < ' ' || c == '\x7f'
  | "xdigit" => c.isDigit || ('a' ≤ c && c ≤ 'f') || ('A' ≤ c && c ≤ 'F')
  | _ => false

def className? (gs : List Glyph) : Option (String × List Glyph) :=
  match gs with
  | ⟨'[', _⟩ :: ⟨':', _⟩ :: rest =>
    let name := rest.takeWhile fun g => g.char != ':'
    match rest.drop name.length with
    | _ :: ⟨']', _⟩ :: after => some (textOf name, after)
    | _ => none
  | _ => none

def bracket? : Nat → (first : Bool) → List Glyph → List (Char × Char) → List String →
    Option (List (Char × Char) × List String × List Glyph)
  | 0, _, _, _, _ => none
  | _, _, [], _, _ => none
  | fuel + 1, first, g :: gs, ranges, classes =>
    if g.char == ']' && !g.isQuoted && !first then some (ranges, classes, gs)
    else if let some (name, rest) := className? (g :: gs) then bracket? fuel false rest ranges (name :: classes)
    else match gs with
      | ⟨'-', false⟩ :: high :: rest =>
        if high.char == ']' && !high.isQuoted then bracket? fuel false gs ((g.char, g.char) :: ranges) classes
        else bracket? fuel false rest ((g.char, high.char) :: ranges) classes
      | _ => bracket? fuel false gs ((g.char, g.char) :: ranges) classes

def itemsWithin : Nat → List Glyph → Glob
  | 0, _ => []
  | _, [] => []
  | fuel + 1, g :: gs =>
    if g.isQuoted then .char g.char :: itemsWithin fuel gs
    else match g.char with
      | '*' => .any :: itemsWithin fuel gs
      | '?' => .one :: itemsWithin fuel gs
      | '[' =>
        let (negated, inside) := match gs with
          | ⟨'!', false⟩ :: rest => (true, rest)
          | gs => (false, gs)
        match bracket? (inside.length + 1) true inside [] [] with
        | some (ranges, classes, rest) => .among negated ranges classes :: itemsWithin fuel rest
        | none => .char '[' :: itemsWithin fuel gs
      | c => .char c :: itemsWithin fuel gs

def ofGlyphs (gs : List Glyph) : Glob := itemsWithin (gs.length + 1) gs

def itemMatches : GlobItem → Char → Bool
  | .char d, c => c == d
  | .one, _ => true
  | .any, _ => true
  | .among negated ranges classes, c =>
    (ranges.any (fun (low, high) => low ≤ c && c ≤ high) || classes.any (inClass · c)) != negated

def fits : Glob → List Char → Bool
  | [], [] => true
  | [], _ :: _ => false
  | .any :: items, [] => fits items []
  | .any :: items, c :: cs => fits items (c :: cs) || fits (.any :: items) cs
  | _ :: _, [] => false
  | item :: items, c :: cs => itemMatches item c && fits items cs
termination_by items cs => items.length + cs.length

def trim (p : Glob) (atEnd longest : Bool) (cs : List Char) : List Char :=
  let cuts := List.range (cs.length + 1)
  -- a cut leaves the part before it (at the end) or the part after it
  let cuts := if atEnd == longest then cuts else cuts.reverse
  let leaves (n : Nat) : Bool := p.fits (if atEnd then cs.drop n else cs.take n)
  match cuts.find? leaves with
  | some n => if atEnd then cs.take n else cs.drop n
  | none => cs

def isOpen (p : Glob) : Bool := p.any fun
  | .char _ => false
  | _ => true

end Glob

/-! ## Names of files -/

def splitGlyphs (gs : List Glyph) : List (List Glyph) :=
  gs.foldr (fun g pieces => if g.char == '/' then [] :: pieces else match pieces with
    | [] => [[g]]
    | piece :: rest => (g :: piece) :: rest) [[]]

def selectPaths (d : Disk) (directory : List String) : (pieces : List (List Glyph)) → (found : String) → List String
  | [], found => [found]
  | piece :: rest, found =>
    let pattern := Glob.ofGlyphs piece
    let extend (name : String) : String := if rest.isEmpty then found ++ name else found ++ name ++ "/"
    if pattern.isOpen then
      let place := if found == "" then some directory else d.resolve directory found
      let names := ((place.map d.names).getD []).filter fun name =>
        pattern.fits name.toList && (name.toList.head? != some '.' || piece.head?.any (·.char == '.'))
      names.flatMap fun name =>
        if rest.isEmpty || (d.find? directory (found ++ name)) == some .directory then
          selectPaths d directory rest (extend name)
        else []
    else
      let next := extend (textOf piece)
      if rest.isEmpty && textOf piece != "" && (d.find? directory next).isNone then []
      else selectPaths d directory rest next

def expandNames (d : Disk) (directory : List String) (field : List Glyph) : List String :=
  if (Glob.ofGlyphs field).isOpen then
    match selectPaths d directory (splitGlyphs field) "" with
    | [] => [textOf field]
    | paths => paths
  else [textOf field]

end Covenant.Command
