import Covenant.Command.Arithmetic

namespace Covenant.Command

abbrev Bytes := List UInt8

def bytesOf (s : String) : Bytes := s.toUTF8.toList

def isOctal (c : Char) : Bool := '0' ≤ c && c ≤ '7'

def octalByte (digits : List Char) : UInt8 :=
  UInt8.ofNat ((digits.foldl (fun n c => 8 * n + (c.toNat - 48)) 0) % 256)

def escapeBytes : List (Char × UInt8) :=
  [('a', 7), ('b', 8), ('f', 12), ('n', 10), ('r', 13), ('t', 9), ('v', 11), ('\\', 92)]

def unescaped : Nat → List Char → Bytes × Bool
  | 0, _ => ([], false)
  | _, [] => ([], false)
  | fuel + 1, '\\' :: c :: rest =>
    let andThen (bytes : Bytes) (rest : List Char) : Bytes × Bool :=
      let (more, ended) := unescaped fuel rest
      (bytes ++ more, ended)
    if c == 'c' then ([], true)
    else if c == '0' then
      let digits := (rest.take 3).takeWhile isOctal
      andThen [octalByte digits] (rest.drop digits.length)
    else if isOctal c then
      let digits := ((c :: rest).take 3).takeWhile isOctal
      andThen [octalByte digits] ((c :: rest).drop digits.length)
    else match escapeBytes.lookup c with
      | some byte => andThen [byte] rest
      | none => andThen (bytesOf (String.ofList ['\\', c])) rest
  | fuel + 1, c :: rest =>
    let (more, ended) := unescaped fuel rest
    (bytesOf c.toString ++ more, ended)

def unescape (s : String) : Bytes × Bool := unescaped (s.length + 1) s.toList

def echoed (args : List String) : Bytes :=
  let (bare, args) := match args with
    | "-n" :: rest => (true, rest)
    | args => (false, args)
  let (bytes, ended) := unescape (Text.joined " " args)
  if bare || ended then bytes else bytes ++ [10]

/-! ## Formats -/

structure Layout where
  left : Bool := false
  zero : Bool := false
  plus : Bool := false
  space : Bool := false
  alternate : Bool := false
  width : Nat := 0
  precision : Option Nat := none

def Layout.flagged (l : Layout) : Char → Option Layout
  | '-' => some { l with left := true }
  | '0' => some { l with zero := true }
  | '+' => some { l with plus := true }
  | ' ' => some { l with space := true }
  | '#' => some { l with alternate := true }
  | _ => none

def takeFlags : List Char → Layout → Layout × List Char
  | [], l => (l, [])
  | c :: cs, l => match l.flagged c with
    | some l => takeFlags cs l
    | none => (l, c :: cs)

def padded (l : Layout) (fill : Char) (s : String) : String :=
  let missing := List.replicate (l.width - s.length) fill
  if l.left then s ++ String.ofList (missing.map fun _ => ' ') else String.ofList missing ++ s

def laidOutText (l : Layout) (s : String) : String :=
  padded l ' ' (match l.precision with
    | some n => String.ofList (s.toList.take n)
    | none => s)

def laidOutNumber (l : Layout) (sign digits : String) : String :=
  let digits := match l.precision with
    | some n => String.ofList (List.replicate (n - digits.length) '0') ++ digits
    | none => digits
  if l.zero && !l.left && l.precision.isNone then
    sign ++ String.ofList (List.replicate (l.width - sign.length - digits.length) '0') ++ digits
  else padded l ' ' (sign ++ digits)

def digitsTo (base : Nat) (n : Nat) (upper : Bool) : String :=
  let text := Nat.toDigits base n
  String.ofList (if upper then text.map Char.toUpper else text)

def numberArgument (arg : String) : Int × Bool :=
  match arg.toList with
  | [] => (0, true)
  | '"' :: c :: _ => (c.toNat, true)
  | '\'' :: c :: _ => (c.toNat, true)
  | cs =>
    let cs := cs.dropWhile Arithmetic.isBlank
    let (sign, cs) := match cs with
      | '-' :: rest => ((-1 : Int), rest)
      | '+' :: rest => (1, rest)
      | cs => (1, cs)
    let (base, digits) := match cs with
      | '0' :: 'x' :: rest => (16, rest)
      | '0' :: 'X' :: rest => (16, rest)
      | '0' :: rest => (8, '0' :: rest)
      | cs => (10, cs)
    let taken := digits.takeWhile fun c => (Arithmetic.digit? base c).isSome
    let n := taken.foldl (fun n c => base * n + (Arithmetic.digit? base c).getD 0) 0
    (sign * Int.ofNat n, !taken.isEmpty && taken.length == digits.length)

/-- One directive applied to the next argument: what is written, whether the argument is well formed, and whether the
output ends. There is no result for an unknown directive. -/
def directive? (l : Layout) (conversion : Char) (arg : Option String) : Option (Bytes × Bool × Bool) :=
  let text := arg.getD ""
  let number (write : Int → String) : Option (Bytes × Bool × Bool) :=
    let (n, whole) := numberArgument text
    some (bytesOf (write n), whole, false)
  let natural (base : Nat) (upper : Bool) (mark : String) : Option (Bytes × Bool × Bool) :=
    number fun n => laidOutNumber l (if l.alternate && n != 0 then mark else "")
      (digitsTo base (n % Int.pow 2 64).toNat upper)
  match conversion with
  | 's' => some (bytesOf (laidOutText l text), true, false)
  | 'b' =>
    let (bytes, ended) := unescape text
    some (bytes, true, ended)
  | 'c' => some (bytesOf (laidOutText l (text.toList.headD '\x00').toString), true, false)
  | 'd' | 'i' => number fun n =>
    laidOutNumber l (if n < 0 then "-" else if l.plus then "+" else if l.space then " " else "") (toString n.natAbs)
  | 'u' => natural 10 false ""
  | 'o' => natural 8 false "0"
  | 'x' => natural 16 false "0x"
  | 'X' => natural 16 true "0X"
  | _ => none

structure Written where
  bytes : Bytes := []
  args : List String
  used : Bool := false
  isWell : Bool := true
  ended : Bool := false

def Written.number (w : Written) : Nat × Written :=
  match w.args with
  | [] => (0, w)
  | arg :: rest => ((numberArgument arg).1.toNat, { w with args := rest, used := true })

def takeCount (cs : List Char) (w : Written) : Option Nat × List Char × Written :=
  match cs with
  | '*' :: rest =>
    let (n, w) := w.number
    (some n, rest, w)
  | cs =>
    let digits := cs.takeWhile Char.isDigit
    ((String.ofList digits).toNat?, cs.drop digits.length, w)

def formatOnce : Nat → List Char → Written → Option Written
  | 0, _, w => some w
  | _, [], w => some w
  | fuel + 1, '%' :: '%' :: rest, w => formatOnce fuel rest { w with bytes := w.bytes ++ [37] }
  | fuel + 1, '%' :: rest, w =>
    let (l, rest) := takeFlags rest {}
    let (width, rest, w) := takeCount rest w
    let (precision, rest, w) := match rest with
      | '.' :: rest =>
        let (n, rest, w) := takeCount rest w
        (some (n.getD 0), rest, w)
      | rest => (none, rest, w)
    match rest with
    | [] => none
    | conversion :: rest => do
      let (bytes, whole, ended) ←
        directive? { l with width := width.getD 0, precision := precision } conversion w.args.head?
      let w := { w with
        bytes := w.bytes ++ bytes, args := w.args.tail, used := w.used || !w.args.isEmpty,
        isWell := w.isWell && whole, ended := ended }
      if ended then some w else formatOnce fuel rest w
  | fuel + 1, '\\' :: c :: rest, w =>
    let length := if isOctal c then (((c :: rest).take 3).takeWhile isOctal).length else 1
    let (bytes, ended) := unescape (String.ofList ('\\' :: (c :: rest).take length))
    let w := { w with bytes := w.bytes ++ bytes, ended := ended }
    if ended then some w else formatOnce fuel ((c :: rest).drop length) w
  | fuel + 1, c :: rest, w => formatOnce fuel rest { w with bytes := w.bytes ++ bytesOf c.toString }

def formatAll : Nat → List Char → Written → Option Written
  | 0, _, w => some w
  | fuel + 1, format, w => do
    let w ← formatOnce (format.length + 1) format { w with used := false }
    if w.ended || w.args.isEmpty || !w.used then some w else formatAll fuel format w

def formatted (format : String) (args : List String) : Bytes × Nat :=
  match formatAll (args.length + 1) format.toList { args := args } with
  | some w => (w.bytes, if w.isWell then 0 else 1)
  | none => ([], 2)

end Covenant.Command
