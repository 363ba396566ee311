import Covenant.Clause.Depth
import Covenant.Clause.Parse
import Covenant.Clause.Scope
import Covenant.Clause.Error

namespace Covenant.Clause

structure Context where
  current : Scope
  old : Option Scope := none

def ofOperands (r : Except OperandError α) : Except Error α :=
  match r with
  | .ok a => .ok a
  | .error .illTyped => .error .illTyped
  | .error .undefined => .error .undefinedOperator

def Constant.toTerm : Constant → Except Error SomeTerm
  | .bool b => .ok (.bool (.bool b))
  | .int n => if Text.exceedsDigits n then .error .longNumber else .ok (.num (.int n))
  | .float x =>
    match Decimal.shortestValue? x with
    | some q => .ok (.num (.real q))
    | Option.none => .error .illTyped
  | c => .error (.literal c)

def Scope.value (scope : Scope) (name : String) : Except Error SomeTerm :=
  match scope.find? name with
  | some (.value t) => .ok t
  | some (.owner _) => .error (.notAValue name)
  | none => .error (.unknownName name)

def Scope.field (scope : Scope) (owner name : String) : Except Error SomeTerm :=
  match scope.find? owner with
  | some (.owner fields) =>
    match fields.lookup name with
    | some t => .ok t
    | none => .error (.unknownField owner name)
  | _ => .error (.noFields owner)

def BinaryOp.apply (op : BinaryOp) (a b : SomeTerm) : Except Error SomeTerm :=
  match op with
  | .add => ofOperands (a.add b)
  | .sub => ofOperands (a.sub b)
  | .mul => ofOperands (a.mul b)
  | .floorDiv => ofOperands (a.floorDiv b)
  | .mod => ofOperands (a.mod b)
  | .div => ofOperands (a.div b)
  | op => .error (.binaryOp op)

def UnaryOp.apply (op : UnaryOp) (a : SomeTerm) : Except Error SomeTerm :=
  match op with
  | .neg => ofOperands a.neg
  | .pos => .ok a
  | .not => ofOperands a.not
  | .invert => .error (.unaryOp .invert)

def CompareOp.apply (op : CompareOp) (a b : SomeTerm) : Except Error SomeTerm :=
  match op with
  | .lt => ofOperands (a.lt b)
  | .le => ofOperands (a.le b)
  | .gt => ofOperands (a.gt b)
  | .ge => ofOperands (a.ge b)
  | .eq => .ok (a.eq b)
  | .ne => .ok (a.distinct b)
  | op => .error (.comparison op)

def BoolOp.apply (op : BoolOp) (parts : List SomeTerm) : Except Error SomeTerm :=
  match op with
  | .and => ofOperands (SomeTerm.and parts)
  | .or => ofOperands (SomeTerm.or parts)

def applyHelper (function : String) (args : List SomeTerm) : Except Error SomeTerm :=
  match function, args with
  | "implies", [a, b] => ofOperands (a.implies b)
  | "implies", args => .error (.arity "implies" 2 args.length)
  | "abs", [a] => ofOperands a.abs
  | "abs", args => .error (.arity "abs" 1 args.length)
  | "min", [a, b] => ofOperands (a.min b)
  | "min", args => .error (.arity "min" 2 args.length)
  | "max", [a, b] => ofOperands (a.max b)
  | "max", args => .error (.arity "max" 2 args.length)
  | function, _ => .error (.unknownCall function)

def joinComparisons : List SomeTerm → Except Error SomeTerm
  | [part] => .ok part
  | parts => ofOperands (SomeTerm.and parts)

mutual
/-- The term of an expression in `scope`, where `old` is the scope below `old(...)`. -/
def Expr.toTerm (old : Option Scope) (scope : Scope) : Expr → Except Error SomeTerm
  | .constant c => c.toTerm
  | .name id => scope.value id
  | .field (.name owner) name => scope.field owner name
  | .field _ _ => .error .nestedField
  | .unary op operand => do op.apply (← Expr.toTerm old scope operand)
  | .binary op left right => do
    let a ← Expr.toTerm old scope left
    let b ← Expr.toTerm old scope right
    op.apply a b
  | .bool op operands => do op.apply (← toTerms old scope operands)
  | .compare first rest => do
    let a ← Expr.toTerm old scope first
    joinComparisons (← toComparisons old scope a rest)
  | .ifElse test body other => do
    let c ← Expr.toTerm old scope test
    let a ← Expr.toTerm old scope body
    let b ← Expr.toTerm old scope other
    ofOperands (c.ite a b)
  | .call (.name function) args false =>
    if function = "old" then
      match old with
      | none => .error .oldOutside
      | some before =>
        match args with
        | [arg] => Expr.toTerm old before arg
        | args => .error (.arity "old" 1 args.length)
    else do applyHelper function (← toTerms old scope args)
  | .call _ _ _ => .error .irregularCall
  | .other kind _ => .error (.construct kind)
def toTerms (old : Option Scope) (scope : Scope) : List Expr → Except Error (List SomeTerm)
  | [] => .ok []
  | e :: rest => do
    let t ← e.toTerm old scope
    return t :: (← toTerms old scope rest)
def toComparisons (old : Option Scope) (scope : Scope) (a : SomeTerm) :
    List (CompareOp × Expr) → Except Error (List SomeTerm)
  | [] => .ok []
  | (op, e) :: rest => do
    let b ← e.toTerm old scope
    let part ← op.apply a b
    return part :: (← toComparisons old scope b rest)
end

def Context.term (context : Context) (text : String) : Except Error SomeTerm :=
  if text.toList.contains '\x00' then .error .nullCharacter
  else match parse text with
    | none => .error .malformed
    | some e =>
      if depthLimit < e.depth then .error .tooDeep else e.toTerm context.old context.current

def Context.boolTerm (context : Context) (text : String) : Except Error (Term .bool) := do
  match ← context.term text with
  | ⟨.bool, t⟩ => return t
  | _ => .error .notBoolean

def sortOf (typeName : String) : Except Error Ty :=
  match sortOf? typeName with
  | some ty => .ok ty
  | none => .error (.unknownType typeName)

end Covenant.Clause
