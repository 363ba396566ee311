import Covenant.CommandLine.Options
import Covenant.Engine.Choice
import Covenant.Settings.Load
import Covenant.Verifier

/-!
# The command

Verifies the method that the command line names, under the settings of a file. The exit code is 0 if the contract was
proved, 1 if it was not, and 2 if the request or the choice of the engine is refused.
-/

namespace Covenant.CommandLine

variable {τ μ : Type} [Terminal]

def sectionOf (settings : Mapping) (name : String) : Except Fault Mapping :=
  match settings.get name with
  | .map options => .ok options
  | _ => .error { kind := .attribute }

def flagOf (given : Option Bool) (settings : Mapping) (name : String) (default : Bool) : Except Fault Bool :=
  match given with
  | some on => .ok on
  | none => do
    let options ← sectionOf settings "logging"
    return match options.get? name with
      | some v => v.truthy
      | none => default

def loggerOf (o : Options) (settings : Mapping) : Except Fault Logger := do
  let verbose ← flagOf o.verbose settings "verbose" true
  let debug ← flagOf o.debug settings "debug" false
  return { threshold := Logger.thresholdOf verbose debug }

def checkOf (o : Options) (command : Value) : Except Fault CompileCheck := do
  if !command.truthy then return .readable
  match command with
  | .str line => return .compiler (← Compiler.ofLine line (some o.path))
  | command => match command.items? with
    | some items => return .compiler ⟨items, some o.path⟩
    | none => .error { kind := .type }

def subjectOf (o : Options) (settings : Mapping) : Except Fault Subject := do
  let options ← sectionOf settings "subject"
  let check ← checkOf o (options.get "compile_command")
  let suffix := options.get "source_suffix"
  return { sourceRoot := o.path, className := o.className, check := check,
           suffix := if suffix.truthy then suffix else defaultSourceSuffix }

/-- The faults that are answered by a message and the exit code 2. -/
def isRefused (f : Fault) : Bool := f.kind.isA .request || f.kind.isA .engineSetup

def prepare (modules : Modules τ μ) (o : Options) (settings : Mapping) (subject : Subject) :
    Run (Desk τ) (Request × Choice τ μ) := do
  let scope := match o.scope with
    | some s => Value.str s
    | none => .null
  let request ← Request.create (some subject) (.str o.method) (.list ((o.needed.flatMap splitClasses).map .str)) scope
  let choice ← Desk.check (Choice.ofSettings modules settings)
  return (request, choice)

def reportPath (o : Options) (settings : Mapping) : Except Fault Value :=
  match o.report, settings.get "report" with
  | some "", .map options => .ok (Mapping.get options "path")
  | none, .map options => .ok (Mapping.get options "path")
  | some "", _ => .error { kind := .type }
  | none, _ => .error { kind := .type }
  | some path, _ => .ok (.str path)

def sinksOf (o : Options) (settings : Mapping) : Except Fault (List (Sink τ)) := do
  let path ← reportPath o settings
  let console ← if o.console then pure true else do
    pure ((← sectionOf settings "report").get "console").truthy
  return if console then [Sink.file path, Sink.console] else [Sink.file path]

def exitCode (proved : Bool) : Nat := if proved then 0 else 1

def verifyWith (verifier : Verifier τ μ) (request : Request) : Run (Desk τ) Nat := do
  let d ← get
  let (result, bench) := (ExceptT.run verifier.verify).run ⟨{ request := request }, d⟩
  set bench.desk
  match result with
  | .ok proved => return exitCode proved
  | .error f => throw f

def perform (bounded : BoundedEngine → Engine τ μ) (o : Options) (settings : Mapping) (request : Request)
    (choice : Choice τ μ) : Run (Desk τ) Nat := do
  let sinks ← Desk.check (sinksOf o settings)
  Desk.onLog (Log.heading ("Bounded verification of " ++ o.className ++ "." ++ o.method))
  verifyWith ⟨choice.engine bounded, sinks⟩ request

def finish (modules : Modules τ μ) (bounded : BoundedEngine → Engine τ μ) (o : Options) (settings : Mapping)
    (subject : Subject) : Run (Desk τ) Nat := do
  let prepared ← tryCatch (some <$> prepare modules o settings subject) fun f => do
    if isRefused f then
      Desk.say .error f.message
      return none
    else throw f
  match prepared with
  | none => return 2
  | some (request, choice) => perform bounded o settings request choice

def runWith (modules : Modules τ μ) (bounded : BoundedEngine → Engine τ μ) (o : Options) : Run (Desk τ) Nat := do
  let settings ← Desk.check (Settings.load (← get).files (some o.config))
  let logger ← Desk.check (loggerOf o settings)
  modify (·.logsWith logger)
  let subject ← Desk.check (subjectOf o settings)
  finish modules bounded o settings subject

def run (modules : Modules τ μ) (bounded : BoundedEngine → Engine τ μ) (words : List String) :
    Run (Desk τ) Nat := do
  match read words with
  | .error r => throw (r.fault)
  | .ok o => runWith modules bounded o

end Covenant.CommandLine
