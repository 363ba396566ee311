import Covenant.Term.Basic
import Covenant.Value.Text

namespace Covenant

inductive Tree where
  | atom (s : String)
  | truth (b : Bool)
  | node (items : List Tree)
deriving Inhabited

namespace Tree

def op (name : String) (args : List Tree) : Tree := node (atom name :: args)

end Tree

def ratText (q : Rat) : String :=
  if q.den = 1 then Value.intText q.num else Value.intText q.num ++ "/" ++ Decimal.digitsText q.den

namespace Term

def isNumeral : {t : Ty} → Term t → Bool
  | _, .int _ => true
  | _, .real _ => true
  | _, .toReal (.int _) => true
  | _, _ => false

mutual
def toTree : {t : Ty} → Term t → Tree
  | _, .int n => .node [.atom "int", .atom (Value.intText n)]
  | _, .real q => .node [.atom "real", .atom (ratText q)]
  | _, .bool b => .node [.atom "bool", .truth b]
  | _, .var name ty => .node [.atom "var", .atom name, .atom ty.name]
  | _, .neg a => .op "-" [toTree a]
  | _, .add a b => .op "+" [toTree a, toTree b]
  | _, .sub a b => .op "-" [toTree a, toTree b]
  | _, .mul a b => .op "*" [toTree a, toTree b]
  | _, .div a b => .op "div" [toTree a, toTree b]
  | _, .mod a b => .op "mod" [toTree a, toTree b]
  | _, .quot a b => .op "/" [toTree a, toTree b]
  | _, .toReal a => .op "to_real" [toTree a]
  | _, .ite c a b => .op "if" [toTree c, toTree a, toTree b]
  | _, .and parts => .op "and" (toTrees parts)
  | _, .or parts => .op "or" (toTrees parts)
  | _, .not a => .op "not" [toTree a]
  | _, .implies a b => .op "=>" [toTree a, toTree b]
  | _, .eq a b =>
    .op "=" (if a.isNumeral && !b.isNumeral then [toTree b, toTree a] else [toTree a, toTree b])
  | _, .distinct a b =>
    .op "distinct" (if a.isNumeral && !b.isNumeral then [toTree b, toTree a] else [toTree a, toTree b])
  | _, .lt a b => .op "<" [toTree a, toTree b]
  | _, .le a b => .op "<=" [toTree a, toTree b]
def toTrees : List (Term .bool) → List Tree
  | [] => []
  | a :: rest => toTree a :: toTrees rest
end

end Term

end Covenant
