import Covenant.Command.Disk

namespace Covenant.Command

inductive Operator where
  | unary
  | binary
  | negation
  | conjunction
  | disjunction
  | leftParenthesis
  | rightParenthesis
deriving Repr, DecidableEq

def binaryOperators : List String :=
  ["=", "!=", "<", ">", "-eq", "-ne", "-ge", "-gt", "-le", "-lt", "-nt", "-ot", "-ef"]

def unaryOperators : List String :=
  ["-r", "-w", "-x", "-e", "-f", "-d", "-c", "-b", "-p", "-u", "-g", "-k", "-s", "-t", "-z", "-n",
   "-h", "-O", "-G", "-L", "-S"]

def operator? (text : String) : Option Operator :=
  if unaryOperators.contains text then some .unary
  else if binaryOperators.contains text then some .binary
  else match text with
    | "!" => some .negation
    | "-a" => some .conjunction
    | "-o" => some .disjunction
    | "(" => some .leftParenthesis
    | ")" => some .rightParenthesis
    | _ => none

def decimal? (text : String) : Option Int :=
  let isBlank (c : Char) : Bool := [' ', '\t', '\n', '\r', '\x0b', '\x0c'].contains c
  let cs := ((text.toList.dropWhile isBlank).reverse.dropWhile isBlank).reverse
  let digits? (cs : List Char) : Option Int :=
    if cs.isEmpty || !cs.all Char.isDigit then none
    else some (cs.foldl (fun n c => 10 * n + (c.toNat - 48 : Int)) 0)
  let number? := match cs with
    | '-' :: rest => (digits? rest).map (- ·)
    | '+' :: rest => digits? rest
    | cs => digits? cs
  number?.filter fun n => -Int.pow 2 63 ≤ n && n < Int.pow 2 63

structure Subjects where
  disk : Disk
  directory : List String

namespace Subjects

def unary (s : Subjects) (op operand : String) : Bool :=
  let entry := s.disk.find? s.directory operand
  match op with
  | "-n" => operand != ""
  | "-z" => operand == ""
  | "-e" | "-r" | "-w" | "-O" | "-G" => entry.isSome
  | "-f" => match entry with
    | some (.file _) | some .program => true
    | _ => false
  | "-d" => entry == some .directory
  | "-x" => entry == some .directory || entry == some .program
  | "-c" => entry == some .device
  | "-s" => match entry with
    | some (.file text) => text != ""
    | some .directory | some .program => true
    | _ => false
  | _ => false

def binary? (s : Subjects) (op left right : String) : Option Bool :=
  let numbers (p : Int → Int → Bool) : Option Bool := return p (← decimal? left) (← decimal? right)
  match op with
  | "=" => some (left == right)
  | "!=" => some (left != right)
  | "<" => some (left < right)
  | ">" => some (left > right)
  | "-eq" => numbers (· == ·)
  | "-ne" => numbers (· != ·)
  | "-gt" => numbers (· > ·)
  | "-ge" => numbers (· ≥ ·)
  | "-lt" => numbers (· < ·)
  | "-le" => numbers (· ≤ ·)
  | "-ef" =>
    match s.disk.resolve s.directory left, s.disk.resolve s.directory right with
    | some a, some b => some (a == b && (s.disk.entry? a).isSome)
    | _, _ => some false
  | _ => some false

end Subjects

/-- The operator at the first argument. One that takes an operand is an operand itself if it is the last argument or
stands before an operator of two operands. -/
def operatorAt? (args : List String) : Option Operator :=
  match args with
  | [] => none
  | first :: rest =>
    match operator? first with
    | some .unary =>
      match rest with
      | [] => none
      | second :: third => if !third.isEmpty && operator? second == some .binary then none else some .unary
    | some .leftParenthesis => if rest.isEmpty then none else some .leftParenthesis
    | found => found

mutual
def disjunction (s : Subjects) : Nat → List String → Option (Bool × List String)
  | 0, _ => none
  | fuel + 1, args => do
    let (first, rest) ← conjunction s fuel args
    match operatorAt? rest with
    | some .disjunction =>
      let (second, rest) ← disjunction s fuel (rest.drop 1)
      return (first || second, rest)
    | _ => return (first, rest)
def conjunction (s : Subjects) : Nat → List String → Option (Bool × List String)
  | 0, _ => none
  | fuel + 1, args => do
    let (first, rest) ← negation s fuel args
    match operatorAt? rest with
    | some .conjunction =>
      let (second, rest) ← conjunction s fuel (rest.drop 1)
      return (first && second, rest)
    | _ => return (first, rest)
def negation (s : Subjects) : Nat → List String → Option (Bool × List String)
  | 0, _ => none
  | fuel + 1, args =>
    if operatorAt? args == some .negation then do
      let (b, rest) ← negation s fuel (args.drop 1)
      return (!b, rest)
    else single s fuel args
def single (s : Subjects) : Nat → List String → Option (Bool × List String)
  | 0, _ => none
  | _, [] => some (false, [])
  | fuel + 1, first :: rest =>
    match operatorAt? (first :: rest) with
    | some .leftParenthesis =>
      match rest with
      | ")" :: after => some (false, after)
      | rest => do
        let (b, rest) ← disjunction s fuel rest
        match rest with
        | ")" :: after => return (b, after)
        | _ => none
    | some .unary => match rest with
      | operand :: after => some (s.unary first operand, after)
      | [] => none
    | _ => match rest with
      | op :: rest =>
        if operatorAt? (op :: rest) == some .binary then
          match rest with
          | right :: after => (s.binary? op first right).map (·, after)
          | [] => none
        else some (first != "", op :: rest)
      | [] => some (first != "", [])
end

def condition? (s : Subjects) (args : List String) : Option Bool :=
  match args with
  | [] => some false
  | [a, op, b] =>
    if operator? op == some .binary then s.binary? op a b
    else if a == "(" && b == ")" then whole [op]
    else if a == "!" then (condition? s [op, b]).map (!·)
    else whole args
  | ["!", a, op, b] => (condition? s [a, op, b]).map (!·)
  | ["(", a, b, ")"] => whole [a, b]
  | args => whole args
where
  whole (args : List String) : Option Bool :=
    match disjunction s (4 * args.length + 4) args with
    | some (b, []) => some b
    | _ => none

def conditionStatus : Option Bool → Nat
  | some true => 0
  | some false => 1
  | none => 2

end Covenant.Command
