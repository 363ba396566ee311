import Covenant.Clause.Token

/-!
# Reading clauses

A clause is one expression, or several with commas between them. The reader descends from the loosest operators
to the tightest; what a construct without a meaning in clauses consists of is checked and then forgotten.
-/

namespace Covenant.Clause

abbrev Reader (α : Type) := StateT (List Token) Option α

namespace Reader

def next? : Reader (Option Token) := do
  return (← get).head?

def skip : Reader Unit := modify List.tail

def isSym (s : String) : Option Token → Bool
  | some (.sym t) => s == t
  | _ => false

def isWord (s : String) : Option Token → Bool
  | some (.keyword t) => s == t
  | _ => false

def symbol? (s : String) : Reader Bool := do
  if isSym s (← next?) then
    skip
    return true
  return false

def word? (s : String) : Reader Bool := do
  if isWord s (← next?) then
    skip
    return true
  return false

def symbol (s : String) : Reader Unit := do
  if !(← symbol? s) then failure

def word (s : String) : Reader Unit := do
  if !(← word? s) then failure

def nextIs (s : String) : Reader Bool := do
  return isSym s (← next?)

def nameToken : Reader String := do
  match ← next? with
  | some (.name id) =>
    skip
    return id
  | _ => failure

def nameBefore? (s : String) : Reader Bool := do
  match ← get with
  | .name _ :: t :: _ => return isSym s (some t)
  | _ => return false

def atLoop : Reader Bool := do
  let t ← next?
  return isWord "for" t || isWord "async" t

end Reader

open Reader

/-- The binary operators with their levels, greater levels binding tighter. -/
def binaryOp? : Option Token → Option (Nat × BinaryOp)
  | some (.sym "|") => some (0, .bitOr)
  | some (.sym "^") => some (1, .bitXor)
  | some (.sym "&") => some (2, .bitAnd)
  | some (.sym "<<") => some (3, .shiftLeft)
  | some (.sym ">>") => some (3, .shiftRight)
  | some (.sym "+") => some (4, .add)
  | some (.sym "-") => some (4, .sub)
  | some (.sym "*") => some (5, .mul)
  | some (.sym "/") => some (5, .div)
  | some (.sym "//") => some (5, .floorDiv)
  | some (.sym "%") => some (5, .mod)
  | some (.sym "@") => some (5, .matMul)
  | _ => none

def compareOp? : Reader (Option CompareOp) := do
  match ← get with
  | .sym "<" :: rest => set rest; return some .lt
  | .sym "<=" :: rest => set rest; return some .le
  | .sym ">" :: rest => set rest; return some .gt
  | .sym ">=" :: rest => set rest; return some .ge
  | .sym "==" :: rest => set rest; return some .eq
  | .sym "!=" :: rest => set rest; return some .ne
  | .keyword "is" :: .keyword "not" :: rest => set rest; return some .isNot
  | .keyword "is" :: rest => set rest; return some .is
  | .keyword "in" :: rest => set rest; return some .isIn
  | .keyword "not" :: .keyword "in" :: rest => set rest; return some .notIn
  | _ => return none

def unaryOp? : Option Token → Option UnaryOp
  | some (.sym "-") => some .neg
  | some (.sym "+") => some .pos
  | some (.sym "~") => some .invert
  | _ => none

structure Parameters where
  count : Nat := 0
  slash : Bool := false
  star : Bool := false
  /-- A bare star needs a name behind it. -/
  bareStar : Bool := false
  default : Bool := false

def joinTexts : List Token → Option (Option (List (List Token)) × Constant)
  | [.text codes] => some (none, .str codes)
  | [.bytes bs] => some (none, .bytes bs)
  | [.formatted fields] => some (some fields, .none)
  | .text codes :: rest => do
    match ← joinTexts rest with
    | (none, .str more) => return (none, .str (codes ++ more))
    | (some fields, c) => return (some fields, c)
    | _ => none
  | .bytes bs :: rest => do
    match ← joinTexts rest with
    | (none, .bytes more) => return (none, .bytes (bs ++ more))
    | _ => none
  | .formatted fields :: rest => do
    match ← joinTexts rest with
    | (none, .str _) => return (some fields, .none)
    | (some more, c) => return (some (fields ++ more), c)
    | _ => none
  | _ => none

def isTextToken : Token → Bool
  | .text _ => true
  | .bytes _ => true
  | .formatted _ => true
  | _ => false

inductive ArgumentPhase where
  | positional
  | keyword
  | mapping
deriving DecidableEq

mutual
def expression : Nat → Reader Expr
  | 0 => failure
  | fuel + 1 => do
    if ← word? "lambda" then
      parameters fuel {}
      let _ ← expression fuel
      return .other .lambda []
    let body ← disjunction fuel
    if ← word? "if" then
      let test ← disjunction fuel
      word "else"
      let other ← expression fuel
      return .ifElse test body other
    return body

def parameters : Nat → Parameters → Reader Unit
  | 0, _ => failure
  | fuel + 1, p => do
    if ← symbol? ":" then
      if p.bareStar then failure
    else if ← symbol? "/" then
      if p.count = 0 || p.slash || p.star then failure
      parameterEnd fuel { p with slash := true }
    else if ← symbol? "*" then
      if p.star then failure
      if ← nextIs "," then parameterEnd fuel { p with star := true, bareStar := true }
      else
        let _ ← nameToken
        parameterEnd fuel { p with star := true }
    else if ← symbol? "**" then
      if p.bareStar then failure
      let _ ← nameToken
      let _ ← symbol? ","
      symbol ":"
    else
      let _ ← nameToken
      if ← symbol? "=" then
        let _ ← expression fuel
        parameterEnd fuel { p with count := p.count + 1, default := true, bareStar := false }
      else
        if p.default && !p.star then failure
        parameterEnd fuel { p with count := p.count + 1, bareStar := false }

def parameterEnd : Nat → Parameters → Reader Unit
  | 0, _ => failure
  | fuel + 1, p => do
    if ← symbol? "," then parameters fuel p
    else if ← nextIs ":" then parameters fuel p
    else failure

def disjunction : Nat → Reader Expr
  | 0 => failure
  | fuel + 1 => do
    let first ← conjunction fuel
    match ← moreOperands fuel "or" with
    | [] => return first
    | rest => return .bool .or (first :: rest)

def conjunction : Nat → Reader Expr
  | 0 => failure
  | fuel + 1 => do
    let first ← inversion fuel
    match ← moreOperands fuel "and" with
    | [] => return first
    | rest => return .bool .and (first :: rest)

def moreOperands : Nat → String → Reader (List Expr)
  | 0, _ => failure
  | fuel + 1, connective => do
    if ← word? connective then
      let operand ← if connective == "or" then conjunction fuel else inversion fuel
      return operand :: (← moreOperands fuel connective)
    return []

def inversion : Nat → Reader Expr
  | 0 => failure
  | fuel + 1 => do
    if ← word? "not" then return .unary .not (← inversion fuel)
    let first ← binary fuel 0
    match ← comparisons fuel with
    | [] => return first
    | rest => return .compare first rest

def comparisons : Nat → Reader (List (CompareOp × Expr))
  | 0 => failure
  | fuel + 1 => do
    match ← compareOp? with
    | none => return []
    | some op =>
      let operand ← binary fuel 0
      return (op, operand) :: (← comparisons fuel)

def binary : Nat → Nat → Reader Expr
  | 0, _ => failure
  | fuel + 1, level => do
    let first ← factor fuel
    binaryRest fuel level first

def binaryRest : Nat → Nat → Expr → Reader Expr
  | 0, _, _ => failure
  | fuel + 1, level, left => do
    match binaryOp? (← next?) with
    | some (l, op) =>
      if l < level then return left
      skip
      let right ← binary fuel (l + 1)
      binaryRest fuel level (.binary op left right)
    | none => return left

def factor : Nat → Reader Expr
  | 0 => failure
  | fuel + 1 => do
    match unaryOp? (← next?) with
    | some op =>
      skip
      return .unary op (← factor fuel)
    | none =>
      let base ← if ← word? "await" then do
          let _ ← primary fuel
          pure (Expr.other .await [])
        else primary fuel
      if ← symbol? "**" then return .binary .pow base (← factor fuel)
      return base

def primary : Nat → Reader Expr
  | 0 => failure
  | fuel + 1 => do
    let start ← atom fuel
    primaryRest fuel start

def primaryRest : Nat → Expr → Reader Expr
  | 0, _ => failure
  | fuel + 1, e => do
    if ← symbol? "." then primaryRest fuel (.field e (← nameToken))
    else if ← symbol? "[" then
      subscripts fuel
      primaryRest fuel (.other .subscript [])
    else if ← symbol? "(" then
      let (args, keywords) ← arguments fuel true .positional
      primaryRest fuel (.call e args keywords)
    else return e

def arguments : Nat → Bool → ArgumentPhase → Reader (List Expr × Bool)
  | 0, _, _ => failure
  | fuel + 1, first, phase => do
    if ← symbol? ")" then return ([], false)
    if ← nameBefore? "=" then
      skip
      skip
      let _ ← expression fuel
      let phase := if phase = .mapping then .mapping else .keyword
      let (args, _) ← argumentEnd fuel phase
      return (args, true)
    else if ← symbol? "**" then
      let _ ← expression fuel
      let (args, _) ← argumentEnd fuel .mapping
      return (args, true)
    else if ← symbol? "*" then
      if phase = .mapping then failure
      let e ← expression fuel
      let (args, keywords) ← argumentEnd fuel phase
      return (.other .starred [e] :: args, keywords)
    else
      if phase ≠ .positional then failure
      let e ← namedExpression fuel
      if (← atLoop) && first then
        -- a generator stands alone
        loops fuel
        symbol ")"
        return ([.other .generator []], false)
      let (args, keywords) ← argumentEnd fuel phase
      return (e :: args, keywords)

def argumentEnd : Nat → ArgumentPhase → Reader (List Expr × Bool)
  | 0, _ => failure
  | fuel + 1, phase => do
    if ← symbol? "," then arguments fuel false phase
    else
      symbol ")"
      return ([], false)

def namedExpression : Nat → Reader Expr
  | 0 => failure
  | fuel + 1 => do
    if ← nameBefore? ":=" then
      skip
      skip
      let _ ← expression fuel
      return .other .namedExpr []
    expression fuel

def loops : Nat → Reader Unit
  | 0 => failure
  | fuel + 1 => do
    let _ ← word? "async"
    word "for"
    let target ← targets fuel
    if !target.isTarget then failure
    word "in"
    let _ ← disjunction fuel
    conditions fuel
    if ← atLoop then loops fuel

def conditions : Nat → Reader Unit
  | 0 => failure
  | fuel + 1 => do
    if ← word? "if" then
      let _ ← disjunction fuel
      conditions fuel

def targets : Nat → Reader Expr
  | 0 => failure
  | fuel + 1 => do
    let first ← target fuel
    if ← nextIs "," then
      let rest ← moreTargets fuel
      return .other .tuple (first :: rest)
    return first

def target : Nat → Reader Expr
  | 0 => failure
  | fuel + 1 => do
    if ← symbol? "*" then return .other .starred [← binary fuel 0]
    binary fuel 0

def moreTargets : Nat → Reader (List Expr)
  | 0 => failure
  | fuel + 1 => do
    if ← symbol? "," then
      if isWord "in" (← next?) then return []
      let e ← target fuel
      return e :: (← moreTargets fuel)
    return []

def subscripts : Nat → Reader Unit
  | 0 => failure
  | fuel + 1 => do
    if ← symbol? "*" then
      let _ ← expression fuel
    else if ← nameBefore? ":=" then
      let _ ← namedExpression fuel
    else if ← nextIs ":" then slice fuel
    else
      let _ ← expression fuel
      if ← nextIs ":" then slice fuel
    if ← symbol? "," then
      if ← symbol? "]" then return
      subscripts fuel
    else symbol "]"

def slice : Nat → Reader Unit
  | 0 => failure
  | fuel + 1 => do
    symbol ":"
    sliceBound fuel
    if ← symbol? ":" then sliceBound fuel

def sliceBound : Nat → Reader Unit
  | 0 => failure
  | fuel + 1 => do
    let t ← next?
    if isSym ":" t || isSym "," t || isSym "]" t then return
    let _ ← expression fuel

def atom : Nat → Reader Expr
  | 0 => failure
  | fuel + 1 => do
    match ← next? with
    | some (.name id) =>
      skip
      return .name id
    | some (.keyword "True") =>
      skip
      return .constant (.bool true)
    | some (.keyword "False") =>
      skip
      return .constant (.bool false)
    | some (.keyword "None") =>
      skip
      return .constant .none
    | some (.number c) =>
      skip
      return .constant c
    | some (.sym "...") =>
      skip
      return .constant .ellipsis
    | some (.sym "(") =>
      skip
      group fuel
    | some (.sym "[") =>
      skip
      display fuel
    | some (.sym "\x7b") =>
      skip
      braces fuel
    | _ =>
      let parts := (← get).takeWhile isTextToken
      match joinTexts parts with
      | none => failure
      | some (none, c) =>
        modify (·.drop parts.length)
        return .constant c
      | some (some fields, _) =>
        modify (·.drop parts.length)
        embedded fuel fields
        return .other .formattedText []

def embedded : Nat → List (List Token) → Reader Unit
  | 0, _ => failure
  | _, [] => return
  | fuel + 1, field :: rest => do
    let outer ← get
    set field
    starExpressions fuel
    if !(← get).isEmpty then failure
    set outer
    embedded fuel rest

def group : Nat → Reader Expr
  | 0 => failure
  | fuel + 1 => do
    if ← symbol? ")" then return .other .tuple []
    if ← word? "yield" then
      if ← word? "from" then
        let _ ← expression fuel
        symbol ")"
        return .other .yieldFrom []
      if !(← nextIs ")") then starExpressions fuel
      symbol ")"
      return .other .yield []
    let starred ← nextIs "*"
    let first ← element fuel
    if ← nextIs "," then
      let rest ← moreElements fuel ")"
      return .other .tuple (first :: rest)
    if starred then failure
    if ← atLoop then
      loops fuel
      symbol ")"
      return .other .generator []
    symbol ")"
    return first

def element : Nat → Reader Expr
  | 0 => failure
  | fuel + 1 => do
    if ← symbol? "*" then return .other .starred [← binary fuel 0]
    namedExpression fuel

def moreElements : Nat → String → Reader (List Expr)
  | 0, _ => failure
  | fuel + 1, closing => do
    if ← symbol? closing then return []
    symbol ","
    if ← symbol? closing then return []
    let e ← element fuel
    return e :: (← moreElements fuel closing)

def display : Nat → Reader Expr
  | 0 => failure
  | fuel + 1 => do
    if ← symbol? "]" then return .other .list []
    let starred ← nextIs "*"
    let first ← element fuel
    if (← atLoop) && !starred then
      loops fuel
      symbol "]"
      return .other .listComp []
    let rest ← moreElements fuel "]"
    return .other .list (first :: rest)

def braces : Nat → Reader Expr
  | 0 => failure
  | fuel + 1 => do
    if ← symbol? "\x7d" then return .other .dict []
    if ← nextIs "**" then
      pairs fuel
      return .other .dict []
    let plain := !((← nextIs "*") || (← nameBefore? ":="))
    let starred ← nextIs "*"
    let _ ← element fuel
    if (← nextIs ":") && plain then
      symbol ":"
      let _ ← expression fuel
      if ← atLoop then
        loops fuel
        symbol "\x7d"
        return .other .dictComp []
      pairEnd fuel
      return .other .dict []
    if (← atLoop) && !starred then
      loops fuel
      symbol "\x7d"
      return .other .setComp []
    let _ ← moreElements fuel "\x7d"
    return .other .set []

def pairs : Nat → Reader Unit
  | 0 => failure
  | fuel + 1 => do
    if ← symbol? "**" then
      let _ ← binary fuel 0
    else
      let _ ← expression fuel
      symbol ":"
      let _ ← expression fuel
    pairEnd fuel

def pairEnd : Nat → Reader Unit
  | 0 => failure
  | fuel + 1 => do
    if ← symbol? "\x7d" then return
    symbol ","
    if ← symbol? "\x7d" then return
    pairs fuel

def starExpressions : Nat → Reader Unit
  | 0 => failure
  | fuel + 1 => do
    if ← symbol? "*" then
      let _ ← binary fuel 0
    else
      let _ ← expression fuel
    if ← symbol? "," then
      let t ← next?
      if t.isNone || isSym ")" t then return
      starExpressions fuel
end

def clauseExpressions (fuel : Nat) : Nat → Reader (List Expr × Bool)
  | 0 => failure
  | n + 1 => do
    let first ← expression fuel
    if ← symbol? "," then
      match ← next? with
      | none => return ([first], true)
      | some .newline => return ([first], true)
      | _ =>
        let (rest, _) ← clauseExpressions fuel n
        return (first :: rest, true)
    return ([first], false)

def isNewline : Token → Bool
  | .newline => true
  | _ => false

def parse (text : String) : Option Expr := do
  let cs := Text.trimChars text.toList
  let all ← tokens cs
  let fuel := 40 * (cs.length + 4)
  let ((es, many), rest) ← (clauseExpressions fuel fuel).run all
  if !rest.all isNewline then none
  match es, many with
  | [e], false => some e
  | es, _ => some (.other .tuple es)

end Covenant.Clause
