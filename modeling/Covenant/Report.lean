import Covenant.Desk
import Covenant.Outcome
import Covenant.Trace

namespace Covenant

namespace Report

def successLine : String := "VERIFICATION SUCCEEDED: No errors found."
def failureLine : String :=
  "VERIFICATION FAILED: Program does not satisfy its contract in the following situation:"
def inconclusiveStart : String := "VERIFICATION INCONCLUSIVE:"

def render {μ : Type} (outcome : Outcome μ) (trace : Option Trace) : String :=
  match outcome.verdict with
  | .proved => successLine ++ "\n"
  | .refuted _ => failureLine ++ "\n" ++ (match trace with
    | some t => t.format
    | none => "")
  | .inconclusive _ reason => inconclusiveStart ++ " " ++ reason ++ " (contract not verified)\n"

def notAnOutcome (v : Value) : Fault := ⟨.type, "not an analysis outcome: " ++ v.inner, []⟩

def defaultPath : String := "verification-result.txt"

end Report

structure Sink (τ : Type) where
  label : String
  write : String → Run (Desk τ) Unit

namespace Sink

variable {τ : Type}

def writeFile (path : Value) (text : String) : Run (Desk τ) Unit := do
  match path with
  | .str path =>
    let d ← get
    match d.breaks with
    | some b :: breaks =>
      let files ← Desk.check (d.files.write path (b.part text))
      set { d with files := files, breaks := breaks }
      throw b.fault
    | breaks =>
      let files ← Desk.check (d.files.write path text)
      set { d with files := files, breaks := breaks.tail }
  | .int n =>
    if n < 0 then throw ⟨.value, "negative file descriptor", []⟩
    else throw ⟨.system, "[Errno 9] Bad file descriptor", []⟩
  | _ => throw { kind := .type }

def file (path : Value := .str Report.defaultPath) : Sink τ where
  label := "FileReportSink(" ++ path.inner ++ ")"
  write := writeFile path

def consoleLabel : String := "ConsoleReportSink()"

def console [Terminal] : Sink τ where
  label := consoleLabel
  write text := Desk.onLog (Log.print .report text (.text text))

def escapedChar (c : Char) : String :=
  if c.toNat < 0x100 then "\\x" ++ Text.hex 2 c.toNat
  else if c.toNat < 0x10000 then "\\u" ++ Text.hex 4 c.toNat
  else "\\U" ++ Text.hex 8 c.toNat

def isAscii (c : Char) : Bool := c.toNat < 128

def asciiFault? (text : String) : Option Fault :=
  let start := (text.toList.takeWhile isAscii).length
  match (text.toList.drop start).takeWhile (!isAscii ·) with
  | [] => none
  | [c] => some ⟨.value, "'ascii' codec can't encode character '" ++ escapedChar c ++ "' in position " ++
      toString start ++ ": ordinal not in range(128)", []⟩
  | run => some ⟨.value, "'ascii' codec can't encode characters in position " ++ toString start ++ "-" ++
      toString (start + run.length - 1) ++ ": ordinal not in range(128)", []⟩

def writeStream (i : Nat) (text : String) : Run (Desk τ) Unit := do
  let d ← get
  match d.streams[i]? with
  | none => throw { kind := .attribute }
  | some stream =>
    if stream.isClosed then throw ⟨.value, "I/O operation on closed file", []⟩
    match if stream.asciiOnly then asciiFault? text else none with
    | some f => throw f
    | none => set { d with streams := d.streams.set i { stream with texts := stream.texts ++ [text] } }

def stream (i : Nat) (label : String := consoleLabel) : Sink τ where
  label := label
  write := writeStream i

def broken (label : String) (f : Fault) : Sink τ where
  label := label
  write _ := throw f

end Sink

structure Notes (τ : Type) where
  diagnostics : List String
  desk : Desk τ

def Notes.onDesk {τ α : Type} (act : Run (Desk τ) α) : Run (Notes τ) α := do
  let n ← get
  let (result, desk) := (ExceptT.run act).run n.desk
  set { n with desk := desk }
  match result with
  | .ok a => return a
  | .error f => throw f

namespace Report

variable {τ : Type} [Terminal]

def isSinkFailure (f : Fault) : Bool := f.kind.isA .system || f.kind.isA .value

def failureNote (sink : Sink τ) (f : Fault) : String :=
  "could not write verification report to " ++ sink.label ++ ": " ++ f.message

def writeTo (sink : Sink τ) (text : String) : Run (Notes τ) Bool :=
  tryCatch (do Notes.onDesk (sink.write text); return true) fun f => do
    if isSinkFailure f then
      let note := failureNote sink f
      Notes.onDesk (Desk.say .warning note)
      modify fun n => { n with diagnostics := n.diagnostics ++ [note] }
      return false
    else throw f

def writeAll (text : String) : List (Sink τ) → Run (Notes τ) Bool
  | [] => return true
  | sink :: rest => do
    let here ← writeTo sink text
    let others ← writeAll text rest
    return here && others

def sinksOrDefault (sinks : List (Sink τ)) : List (Sink τ) :=
  if sinks.isEmpty then [Sink.file] else sinks

def emit {μ : Type} (sinks : List (Sink τ)) (outcome : Outcome μ) (trace : Option Trace) : Run (Notes τ) Bool :=
  writeAll (render outcome trace) sinks

end Report

end Covenant
