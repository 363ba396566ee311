import Covenant.Clause.Expr
import Covenant.Term.Basic
import Covenant.Value.Text

namespace Covenant.Clause

inductive Error where
  -- constructs without a meaning
  | construct (kind : Construct)
  | unaryOp (op : UnaryOp)
  | binaryOp (op : BinaryOp)
  | comparison (op : CompareOp)
  | literal (c : Constant)
  | nestedField
  | irregularCall
  | unknownCall (function : String)
  | unknownType (typeName : String)
  -- wrong clauses
  | malformed
  | illTyped
  | notBoolean
  | unknownName (name : String)
  | notAValue (name : String)
  | noFields (name : String)
  | unknownField (owner field : String)
  | oldOutside
  | arity (function : String) (expected found : Nat)
  -- neither
  | undefinedOperator
  | nullCharacter
  | longNumber
  | tooDeep

inductive Severity where
  | unsupported
  | semantic
  | operands
  | text
  | depth
deriving Repr, DecidableEq

def Error.severity : Error → Severity
  | .construct _ | .unaryOp _ | .binaryOp _ | .comparison _ | .literal _ | .nestedField | .irregularCall
  | .unknownCall _ | .unknownType _ => .unsupported
  | .malformed | .illTyped | .notBoolean | .unknownName _ | .notAValue _ | .noFields _ | .unknownField _ _
  | .oldOutside | .arity _ _ _ => .semantic
  | .undefinedOperator => .operands
  | .nullCharacter | .longNumber => .text
  | .tooDeep => .depth

def Error.message (place text : String) : Error → String
  | .construct kind => s!"expression {kind.name} is not supported"
  | .unaryOp op => s!"unary operator {op.name} is not supported"
  | .binaryOp op => s!"operator {op.name} is not supported"
  | .comparison op => s!"comparison {op.name} is not supported"
  | .literal c => s!"literal {c.text} is not supported"
  | .nestedField => "only single-level field access is supported"
  | .irregularCall => "only plain calls to contract helpers are supported"
  | .unknownCall function => s!"call to '{function}' is not supported"
  | .unknownType typeName => s!"type '{typeName}' is not supported"
  | .malformed => s!"malformed {place} '{text}': <syntax>"
  | .illTyped => s!"ill-typed {place} '{text}': <z3>"
  | .notBoolean => s!"{place} '{text}' is not a boolean expression"
  | .unknownName name => s!"unknown name '{name}'"
  | .notAValue name => s!"'{name}' is not a value"
  | .noFields name => s!"'{name}' has no fields"
  | .unknownField owner field => s!"unknown field '{owner}.{field}'"
  | .oldOutside => "old() is only allowed in postconditions and effects"
  | .arity function expected found => s!"{function}() takes {expected} argument(s), got {found}"
  | .undefinedOperator => ""
  | .nullCharacter => "source code string cannot contain null bytes"
  | .longNumber => Text.tooLongToWrite
  | .tooDeep => ""

end Covenant.Clause
