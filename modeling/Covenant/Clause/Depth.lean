import Covenant.Clause.Expr

namespace Covenant.Clause

mutual
/-- The number of steps that are begun and not yet finished at the deepest point. -/
def Expr.depth : Expr → Nat
  | .constant _ => 2
  | .name _ => 2
  | .field _ _ => 2
  | .unary _ operand => 1 + operand.depth
  | .binary _ left right => 2 + max left.depth right.depth
  | .bool _ operands => 2 + deepest operands
  | .compare first rest => 2 + max first.depth (deepestCompared rest)
  | .ifElse test body other => 1 + max test.depth (max body.depth other.depth)
  | .call (.name function) args false => (if function = "old" then 2 else 3) + deepest args
  | .call _ _ _ => 2
  | .other _ _ => 1
def deepest : List Expr → Nat
  | [] => 0
  | e :: rest => max e.depth (deepest rest)
def deepestCompared : List (CompareOp × Expr) → Nat
  | [] => 0
  | (_, e) :: rest => max e.depth (deepestCompared rest)
end

def depthLimit : Nat := 988

end Covenant.Clause
