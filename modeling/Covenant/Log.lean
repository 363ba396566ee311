import Covenant.Fault
import Covenant.Value.Items
import Covenant.Value.Text

/-!
# The log

A logger prints what is said from its level on. The log keeps everything that was printed, with its level and
indentation, and the texts that went to the standard output as they are, because they stand between its lines. The
terminal may refuse a line, and then whoever said it is at fault.
-/

namespace Covenant

inductive Level where
  | debug
  | info
  | step
  | success
  | warning
  | error
deriving Repr, DecidableEq

inductive Channel where
  | standard
  | errors
  | report
deriving Repr, DecidableEq

namespace Level

def rank : Level → Nat
  | debug => 0
  | info => 1
  | step => 2
  | success => 3
  | warning => 4
  | error => 5

def name : Level → String
  | debug => "DEBUG"
  | info => "INFO"
  | step => "STEP"
  | success => "SUCCESS"
  | warning => "WARNING"
  | error => "ERROR"

def channel : Level → Channel
  | error => .errors
  | _ => .standard

end Level

/-- What the standard output and the error output do not take. A stream that is closed takes
nothing, and one of ASCII no other characters. -/
class Terminal where
  fault? : Channel → String → Option Fault
  kind_eq : ∀ channel text f, fault? channel text = some f → f.kind = .value ∨ f.kind = .system

/-- Unless another terminal is given, it is one that takes every text. -/
instance (priority := low) Terminal.ready : Terminal where
  fault? _ _ := none
  kind_eq _ _ _ refused := nomatch refused

structure Logger where
  name : String := "verifier"
  threshold : Level := .info
deriving Repr, DecidableEq

namespace Logger

def thresholdOf (verbose debug : Bool) : Level :=
  if debug then .debug else if verbose then .info else .warning

def shows (l : Logger) (level : Level) : Bool := l.threshold.rank ≤ level.rank

def indentText (n : Nat) : String := String.join (List.replicate n "  ")

def line (l : Logger) (stamp : String) (level : Level) (indent : Nat) (message : String) : String :=
  let start := "[" ++ stamp ++ "] " ++ indentText indent
  match level with
  | .debug => start ++ "DEBUG [" ++ l.name ++ "]: " ++ message ++ "\n"
  | .warning => start ++ "WARNING: " ++ message ++ "\n"
  | .error => start ++ "ERROR: " ++ message ++ "\n"
  | _ => start ++ message ++ "\n"

/-- A time as it stands before a line. Whether a line is taken does not depend on which it is. -/
def midnight : String := "00:00:00"

end Logger

/-! ## Order of options -/

def Value.precedes? (v w : Value) : Option Bool :=
  match v, w with
  | .str a, .str b => some (a ≤ b)
  | .bytes a, .bytes b => some !b.lex a fun m n => m < n
  | v, w => do return decide ((← v.number?) ≤ (← w.number?))

def insertSorted (entry : Value × Value) : List (Value × Value) → List (Value × Value)
  | [] => [entry]
  | other :: rest =>
    if entry.1.precedes? other.1 == some true then entry :: other :: rest else other :: insertSorted entry rest

def Mapping.sorted? (entries : Mapping) : Option Mapping :=
  match entries with
  | [] => some []
  | [entry] => some [entry]
  | entries =>
    if entries.all fun e => entries.all fun e' => (e.1.precedes? e'.1).isSome then
      some (entries.foldr insertSorted [])
    else none

def Mapping.texts (entries : Mapping) : List (String × String) :=
  entries.map fun (k, v) => (k.text, v.text)

def Value.sequence : Value → List Value
  | .list xs => xs
  | .tuple xs => xs
  | .bytes bs => bs.map fun (b : Nat) => .int b
  | _ => []

def Value.whole? : Value → Option Int
  | .int n => some n
  | .bool b => some (if b then 1 else 0)
  | _ => none

def Value.itemAt (items : List Value) (key : Value) : Except Fault Value :=
  match key.whole? with
  | none => .error { kind := .type }
  | some n =>
    let i := if n < 0 then n + items.length else n
    match if i < 0 then none else items[i.toNat]? with
    | some item => .ok item
    | none => .error ⟨.index, "index out of range", []⟩

def Value.times? (v w : Value) : Option Value :=
  match v.whole?, w.whole? with
  | some m, some n => some (.int (m * n))
  | some n, none => repeated? w n.toNat
  | none, some n => repeated? v n.toNat
  | none, none => none
where
  repeated? (v : Value) (n : Nat) : Option Value :=
    match v with
    | .str s => some (.str (String.join (List.replicate n s)))
    | .bytes bs => some (.bytes (List.replicate n bs).flatten)
    | .list xs => some (.list (List.replicate n xs).flatten)
    | .tuple xs => some (.tuple (List.replicate n xs).flatten)
    | _ => none

/-! ## Saying -/

inductive Output where
  | entry (level : Level) (indent : Nat) (message : String)
  | line (text : String)
  | text (s : String)
deriving Repr, DecidableEq

structure Log where
  logger : Logger := {}
  indent : Nat := 0
  outputs : List Output := []
deriving Repr, DecidableEq

namespace Log

def put (log : Log) (o : Output) : Log := { log with outputs := log.outputs ++ [o] }

def deeper (log : Log) : Log := { log with indent := log.indent + 1 }

def shallower (log : Log) : Log := { log with indent := log.indent - 1 }

def optionsTitle : String := "Engine options"

variable [Terminal]

def print (channel : Channel) (text : String) (o : Output) : Run Log Unit :=
  match Terminal.fault? channel text with
  | some f => throw f
  | none => modify (·.put o)

def say (level : Level) (message : String) : Run Log Unit := do
  let log ← get
  if log.logger.shows level then
    print level.channel (log.logger.line Logger.midnight level log.indent message) (.entry level log.indent message)

def printLine (text : String) : Run Log Unit := print .standard (text ++ "\n") (.line text)

def heading (title : String) (rule : Value := .str "=") (width : Value := .int 70) : Run Log Unit := do
  if (← get).logger.shows .info then
    match Value.times? rule width with
    | some line =>
      printLine ("\n" ++ line.text)
      printLine title
      printLine line.text
    | none => throw { kind := .type }

def sayOptions : List (String × String) → Run Log Unit
  | [] => return ()
  | (name, value) :: rest => do
    say .debug (name ++ " = " ++ value)
    sayOptions rest

def sayItems (items : List Value) : List Value → Run Log Unit
  | [] => return ()
  | key :: rest => do
    match Value.itemAt items key with
    | .ok item => say .debug (key.text ++ " = " ++ item.text)
    | .error f => throw f
    sayItems items rest

/-- Lists options if they are shown at all; they must have a common order then. A mapping has its entries as options,
and a sequence its items under those numbers that are themselves items. -/
def options (options : Value) (title : String := optionsTitle) : Run Log Unit := do
  if (← get).logger.shows .debug then
    say .debug title
    modify deeper
    match options with
    | .map entries => match Mapping.sorted? entries with
      | some sorted => sayOptions sorted.texts
      | none => throw { kind := .type }
    | options => match options.items?.bind fun items => Mapping.sorted? (items.map fun key => (key, key)) with
      | some keys => sayItems options.sequence (keys.map (·.1))
      | none => throw { kind := .type }
    modify shallower

end Log

/-! ## What is shown -/

namespace Log

def render (log : Log) (stamp : String) : Output → Channel × String
  | .entry level indent message => (level.channel, log.logger.line stamp level indent message)
  | .line text => (.standard, text ++ "\n")
  | .text s => (.report, s)

def shown (log : Log) (stamp : String) (channels : List Channel) : String :=
  String.join ((log.outputs.map (log.render stamp)).filterMap fun (channel, text) =>
    if channels.contains channel then some text else none)

end Log

/-! ## The shared logger -/

structure SharedLogger where
  current : Option (Nat × Logger) := none
  made : Nat := 0
deriving Repr, DecidableEq

namespace SharedLogger

def set (s : SharedLogger) : Option Logger → SharedLogger
  | some l => ⟨some (s.made, l), s.made + 1⟩
  | none => { s with current := none }

def ensure (s : SharedLogger) (l : Logger) : SharedLogger :=
  if s.current.isSome then s else s.set (some l)

end SharedLogger

end Covenant
