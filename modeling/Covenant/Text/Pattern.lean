namespace Covenant.Text

inductive Pattern where
  | nothing
  | empty
  | one (allowed : Char → Bool)
  | seq (p q : Pattern)
  | alt (p q : Pattern)
  | star (p : Pattern)

namespace Pattern

def nullable : Pattern → Bool
  | nothing => false
  | empty => true
  | one _ => false
  | seq p q => p.nullable && q.nullable
  | alt p q => p.nullable || q.nullable
  | star _ => true

def chain : Pattern → Pattern → Pattern
  | nothing, _ => nothing
  | _, nothing => nothing
  | empty, q => q
  | p, q => seq p q

def either : Pattern → Pattern → Pattern
  | nothing, q => q
  | p, nothing => p
  | p, q => alt p q

def derivative (c : Char) : Pattern → Pattern
  | nothing => nothing
  | empty => nothing
  | one allowed => if allowed c then empty else nothing
  | seq p q =>
    if p.nullable then either (chain (p.derivative c) q) (q.derivative c) else chain (p.derivative c) q
  | alt p q => either (p.derivative c) (q.derivative c)
  | star p => chain (p.derivative c) (star p)

def matchesChars (p : Pattern) : List Char → Bool
  | [] => p.nullable
  | c :: cs => (p.derivative c).matchesChars cs

def matchesText (p : Pattern) (s : String) : Bool :=
  p.matchesChars s.toList

/-! ## Building patterns -/

def char (c : Char) : Pattern := one (· == c)

def among (s : String) : Pattern := one (s.toList.contains ·)

def text (s : String) : Pattern := s.toList.foldr (fun c p => chain (char c) p) empty

def anyOf (ps : List Pattern) : Pattern := ps.foldr either nothing

def inOrder (ps : List Pattern) : Pattern := ps.foldr chain empty

def maybe (p : Pattern) : Pattern := alt p empty

def many (p : Pattern) : Pattern := seq p (star p)

def digit : Pattern := one Char.isDigit

end Pattern

def withoutLineBreak (text : String) : String :=
  match text.toList.reverse with
  | '\n' :: c :: cs => String.ofList (c :: cs).reverse
  | _ => text

end Covenant.Text
