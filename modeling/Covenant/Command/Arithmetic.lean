import Covenant.Text.Pieces

namespace Covenant.Command.Arithmetic

inductive Symbol where
  | number (n : Int)
  | name (s : String)
  | operator (s : String)
deriving Repr, DecidableEq

def operators : List String :=
  ["<<=", ">>=", "<<", ">>", "<=", ">=", "==", "!=", "&&", "||", "+=", "-=", "*=", "/=", "%=", "&=", "|=", "^=", "+",
   "-", "*", "/", "%", "<", ">", "=", "!", "~", "&", "|", "^", "?", ":", "(", ")"]

def wrap (n : Int) : Int := n.bmod (Nat.pow 2 64)

def digit? (base : Nat) (c : Char) : Option Nat :=
  let value :=
    if c.isDigit then c.toNat - 48
    else if 'a' ≤ c && c ≤ 'f' then c.toNat - 87
    else if 'A' ≤ c && c ≤ 'F' then c.toNat - 55
    else 99
  if value < base then some value else none

def digits? (base : Nat) (cs : List Char) : Option Nat :=
  if cs.isEmpty then none else cs.foldlM (fun n c => (digit? base c).map (base * n + ·)) 0

def greatest : Int := Int.pow 2 63 - 1

def constant? (cs : List Char) : Option Int :=
  (match cs with
    | '0' :: 'x' :: rest => digits? 16 rest
    | '0' :: 'X' :: rest => digits? 16 rest
    | '0' :: rest => if rest.isEmpty then some 0 else digits? 8 rest
    | cs => digits? 10 cs).map fun n => min (Int.ofNat n) greatest

def isBlank (c : Char) : Bool := c == ' ' || c == '\t' || c == '\n'

def symbolsWithin : Nat → List Char → Option (List Symbol)
  | 0, _ => none
  | _, [] => some []
  | fuel + 1, c :: cs =>
    if isBlank c then symbolsWithin fuel cs
    else if c.isDigit then do
      let run := (c :: cs).takeWhile Char.isAlphanum
      return .number (← constant? run) :: (← symbolsWithin fuel ((c :: cs).drop run.length))
    else if c.isAlpha || c == '_' then do
      let run := (c :: cs).takeWhile fun d => d.isAlphanum || d == '_'
      return .name (String.ofList run) :: (← symbolsWithin fuel ((c :: cs).drop run.length))
    else do
      let op ← operators.find? fun op => op.toList.isPrefixOf (c :: cs)
      return .operator op :: (← symbolsWithin fuel ((c :: cs).drop op.length))

def symbols? (cs : List Char) : Option (List Symbol) := symbolsWithin (cs.length + 1) cs

structure Calculation where
  rest : List Symbol
  bindings : String → Option String
  assigned : List (String × Int) := []

abbrev Calculate := StateT Calculation Option

namespace Calculate

def fail {α : Type} : Calculate α := fun _ => none

def accept (op : String) : Calculate Bool := do
  match (← get).rest with
  | .operator o :: rest =>
    if o == op then
      modify fun s => { s with rest := rest }
      return true
    else return false
  | _ => return false

def acceptOneOf : List String → Calculate (Option String)
  | [] => return none
  | op :: ops => do if ← accept op then return some op else acceptOneOf ops

def numberOf? (text : String) : Option Int :=
  let cs := ((text.toList.dropWhile isBlank).reverse.dropWhile isBlank).reverse
  match cs with
  | [] => some 0
  | '-' :: rest => (constant? rest).map (- ·)
  | '+' :: rest => constant? rest
  | cs => constant? cs

def valueOf (name : String) : Calculate Int := do
  let s ← get
  match s.assigned.lookup name with
  | some n => return n
  | none =>
    match s.bindings name with
    | none => return 0
    | some text => match numberOf? text with
      | some n => return n
      | none => fail

def apply (op : String) (a b : Int) : Calculate Int :=
  let truth (p : Bool) : Int := if p then 1 else 0
  let bits (f : Nat → Nat → Nat) : Int := wrap (f (a % Int.pow 2 64).toNat (b % Int.pow 2 64).toNat)
  match op with
  | "+" => return wrap (a + b)
  | "-" => return wrap (a - b)
  | "*" => return wrap (a * b)
  | "/" => if b == 0 then fail else return wrap (a.tdiv b)
  | "%" => if b == 0 then fail else return wrap (a.tmod b)
  | "<<" => return wrap (a * Int.pow 2 (b % 64).toNat)
  | ">>" => return a.fdiv (Int.pow 2 (b % 64).toNat)
  | "<" => return truth (a < b)
  | "<=" => return truth (a ≤ b)
  | ">" => return truth (a > b)
  | ">=" => return truth (a ≥ b)
  | "==" => return truth (a == b)
  | "!=" => return truth (a != b)
  | "&" => return bits (· &&& ·)
  | "^" => return bits (· ^^^ ·)
  | "|" => return bits (· ||| ·)
  | _ => fail

def levels : List (List String) :=
  [["|"], ["^"], ["&"], ["==", "!="], ["<=", ">=", "<", ">"], ["<<", ">>"], ["+", "-"], ["*", "/", "%"]]

def assignments : List String := ["=", "+=", "-=", "*=", "/=", "%=", "<<=", ">>=", "&=", "|=", "^="]

/-- Reads an operand that is skipped: its faults do not count and it assigns nothing. -/
def skipping (skip : Bool) (p : Calculate Int) : Calculate Int := do
  let before ← get
  let n ← p
  if skip then modify fun s => { s with assigned := before.assigned }
  return n

mutual
def primary : Nat → (skip : Bool) → Calculate Int
  | 0, _ => fail
  | fuel + 1, skip => do
    match (← get).rest with
    | .number n :: rest =>
      modify fun s => { s with rest := rest }
      return n
    | .name name :: rest =>
      modify fun s => { s with rest := rest }
      if skip then return 0 else valueOf name
    | .operator "(" :: rest =>
      modify fun s => { s with rest := rest }
      let n ← assignment fuel skip
      if ← accept ")" then return n else fail
    | .operator "-" :: rest =>
      modify fun s => { s with rest := rest }
      return wrap (- (← primary fuel skip))
    | .operator "+" :: rest =>
      modify fun s => { s with rest := rest }
      primary fuel skip
    | .operator "!" :: rest =>
      modify fun s => { s with rest := rest }
      return if (← primary fuel skip) == 0 then 1 else 0
    | .operator "~" :: rest =>
      modify fun s => { s with rest := rest }
      return wrap (- (← primary fuel skip) - 1)
    | _ => fail
def joinedAt : Nat → (skip : Bool) → List (List String) → Calculate Int
  | 0, _, _ => fail
  | fuel + 1, skip, [] => primary fuel skip
  | fuel + 1, skip, ops :: tighter => do
    let first ← joinedAt fuel skip tighter
    following fuel skip ops tighter first
def following : Nat → (skip : Bool) → List String → List (List String) → Int → Calculate Int
  | 0, _, _, _, _ => fail
  | fuel + 1, skip, ops, tighter, left => do
    match ← acceptOneOf ops with
    | none => return left
    | some op =>
      let right ← joinedAt fuel skip tighter
      following fuel skip ops tighter (← if skip then pure 0 else apply op left right)
def conjunction : Nat → (skip : Bool) → Calculate Int
  | 0, _ => fail
  | fuel + 1, skip => do
    let left ← joinedAt fuel skip levels
    if ← accept "&&" then
      let right ← skipping (left == 0) (conjunction fuel (skip || left == 0))
      return if left != 0 && right != 0 then 1 else 0
    return left
def disjunction : Nat → (skip : Bool) → Calculate Int
  | 0, _ => fail
  | fuel + 1, skip => do
    let left ← conjunction fuel skip
    if ← accept "||" then
      let right ← skipping (left != 0) (disjunction fuel (skip || left != 0))
      return if left != 0 || right != 0 then 1 else 0
    return left
def choice : Nat → (skip : Bool) → Calculate Int
  | 0, _ => fail
  | fuel + 1, skip => do
    let condition ← disjunction fuel skip
    if ← accept "?" then
      let yes ← skipping (condition == 0) (assignment fuel (skip || condition == 0))
      if !(← accept ":") then fail
      let no ← skipping (condition != 0) (choice fuel (skip || condition != 0))
      return if condition != 0 then yes else no
    return condition
def assignment : Nat → (skip : Bool) → Calculate Int
  | 0, _ => fail
  | fuel + 1, skip => do
    match (← get).rest with
    | .name name :: .operator op :: rest =>
      if assignments.contains op then
        modify fun s => { s with rest := rest }
        let right ← assignment fuel skip
        if skip then return 0
        let n ← if op == "=" then pure right else apply (String.ofList op.toList.dropLast) (← valueOf name) right
        modify fun s => { s with assigned := (name, n) :: s.assigned }
        return n
      else choice fuel skip
    | _ => choice fuel skip
end

end Calculate

def evaluate (bindings : String → Option String) (text : String) : Option (Int × List (String × Int)) := do
  let symbols ← symbols? text.toList
  let (n, s) ← (Calculate.assignment (24 * symbols.length + 24) false).run { rest := symbols, bindings := bindings }
  if s.rest.isEmpty then some (n, s.assigned) else none

end Covenant.Command.Arithmetic
