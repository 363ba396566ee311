import Covenant.Decimal.Text
import Covenant.Text.Quoted

namespace Covenant.Clause

inductive Constant where
  | none
  | ellipsis
  | bool (b : Bool)
  | int (n : Nat)
  | float (x : Float)
  | imaginary (x : Float)
  /-- A text by its code points, surrogates included. -/
  | str (codes : List Nat)
  | bytes (bs : List Nat)
deriving Inhabited

inductive BinaryOp where
  | add | sub | mul | floorDiv | mod | div
  | pow | matMul | shiftLeft | shiftRight | bitOr | bitXor | bitAnd
deriving Repr, DecidableEq

inductive UnaryOp where
  | neg | pos | not | invert
deriving Repr, DecidableEq

inductive CompareOp where
  | lt | le | gt | ge | eq | ne | is | isNot | isIn | notIn
deriving Repr, DecidableEq

inductive BoolOp where
  | and | or
deriving Repr, DecidableEq

inductive Construct where
  | lambda | dict | set | list | tuple | listComp | setComp | dictComp | generator
  | await | yield | yieldFrom | namedExpr | formattedText | subscript | starred
deriving Repr, DecidableEq

inductive Expr where
  | constant (c : Constant)
  | name (id : String)
  | field (owner : Expr) (name : String)
  | unary (op : UnaryOp) (operand : Expr)
  | binary (op : BinaryOp) (left right : Expr)
  | bool (op : BoolOp) (operands : List Expr)
  | compare (first : Expr) (rest : List (CompareOp × Expr))
  | ifElse (test body other : Expr)
  | call (function : Expr) (args : List Expr) (keywords : Bool)
  | other (kind : Construct) (parts : List Expr)
deriving Inhabited

/-! ## Names in messages -/

def BinaryOp.name : BinaryOp → String
  | .add => "Add"
  | .sub => "Sub"
  | .mul => "Mult"
  | .floorDiv => "FloorDiv"
  | .mod => "Mod"
  | .div => "Div"
  | .pow => "Pow"
  | .matMul => "MatMult"
  | .shiftLeft => "LShift"
  | .shiftRight => "RShift"
  | .bitOr => "BitOr"
  | .bitXor => "BitXor"
  | .bitAnd => "BitAnd"

def UnaryOp.name : UnaryOp → String
  | .neg => "USub"
  | .pos => "UAdd"
  | .not => "Not"
  | .invert => "Invert"

def CompareOp.name : CompareOp → String
  | .lt => "Lt"
  | .le => "LtE"
  | .gt => "Gt"
  | .ge => "GtE"
  | .eq => "Eq"
  | .ne => "NotEq"
  | .is => "Is"
  | .isNot => "IsNot"
  | .isIn => "In"
  | .notIn => "NotIn"

def Construct.name : Construct → String
  | .lambda => "Lambda"
  | .dict => "Dict"
  | .set => "Set"
  | .list => "List"
  | .tuple => "Tuple"
  | .listComp => "ListComp"
  | .setComp => "SetComp"
  | .dictComp => "DictComp"
  | .generator => "GeneratorExp"
  | .await => "Await"
  | .yield => "Yield"
  | .yieldFrom => "YieldFrom"
  | .namedExpr => "NamedExpr"
  | .formattedText => "JoinedStr"
  | .subscript => "Subscript"
  | .starred => "Starred"

def imaginaryText (x : Float) : String :=
  let shown := Decimal.text x
  let cs := shown.toList
  match cs.reverse with
  | '0' :: '.' :: rest => String.ofList rest.reverse ++ "j"
  | _ => shown ++ "j"

def Constant.text : Constant → String
  | .none => "None"
  | .ellipsis => "Ellipsis"
  | .bool b => if b then "True" else "False"
  | .int n => Decimal.digitsText n
  | .float x => Decimal.text x
  | .imaginary x => imaginaryText x
  | .str codes => Text.quoteCodes codes
  | .bytes bs => Text.quoteBytes bs

/-! ## Binding targets -/

mutual
def Expr.isTarget : Expr → Bool
  | .name _ => true
  | .field _ _ => true
  | .other .subscript _ => true
  | .other .tuple items => allTargets items
  | .other .list items => allTargets items
  | .other .starred items => starTargets items
  | _ => false
def allTargets : List Expr → Bool
  | [] => true
  | e :: rest => e.isTarget && allTargets rest
def starTargets : List Expr → Bool
  | [] => true
  | .other .starred _ :: _ => false
  | e :: rest => e.isTarget && starTargets rest
end

end Covenant.Clause
