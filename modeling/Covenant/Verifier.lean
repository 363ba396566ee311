import Covenant.Engine.Basic
import Covenant.Report

/-!
# Verifiers

A verifier runs one verification after another on its session: it checks the subject, asks the engine, extracts the
counterexample and writes the report. A run answers whether the contract was proved. A run that is broken off leaves
the session as if it had not taken place, unless only the report was still to be written.
-/

namespace Covenant

structure Verifier (τ μ : Type) where
  engine : Engine τ μ
  sinks : List (Sink τ) := [Sink.file]

structure Bench (τ μ : Type) where
  session : Session μ
  desk : Desk τ

namespace Bench

variable {τ μ : Type}

def onDesk {α : Type} (act : Run (Desk τ) α) : Run (Bench τ μ) α := do
  let b ← get
  let (result, desk) := (ExceptT.run act).run b.desk
  set { b with desk := desk }
  match result with
  | .ok a => return a
  | .error f => throw f

def setSession (s : Session μ) : Run (Bench τ μ) Unit := modify fun b => { b with session := s }

end Bench

namespace Verifier

variable {τ μ : Type} [Terminal]

open Bench

def validSubject : Run (Bench τ μ) Subject := do
  let s := (← get).session
  match s.request.subject with
  | none => throw (.ofUsage .nothingToVerify)
  | some subject =>
    if s.request.method == "" then throw (.ofUsage .nothingToVerify)
    let (valid, subject) ← onDesk subject.validate
    setSession { s with request := { s.request with subject := some subject } }
    if valid then return subject else throw (.ofUsage .invalidSubject)

def traceOf (v : Verifier τ μ) (s : Session μ) (subject : Subject) (outcome : Outcome μ) :
    Run (Desk τ) (Option Trace) := do
  match outcome.verdict with
  | .refuted model =>
    let trace ← v.engine.extract model (.classes s.request.dependencies) subject.className s.methodId
    Desk.say .info s!"Counterexample found ({trace.size} bindings)"
    return some trace
  | .inconclusive _ reason =>
    Desk.say .warning ("Verification inconclusive: " ++ reason)
    return none
  | .proved =>
    Desk.say .success (subject.className ++ "." ++ s.request.method ++ " satisfies its contract")
    return none

def report (v : Verifier τ μ) (outcome : Outcome μ) (trace : Option Trace) : Run (Bench τ μ) Unit := do
  let b ← get
  let (result, notes) := (ExceptT.run (Report.emit v.sinks outcome trace)).run ⟨outcome.diagnostics, b.desk⟩
  set ({ b with
    session := { b.session with outcome := some { outcome with diagnostics := notes.diagnostics } }
    desk := notes.desk } : Bench τ μ)
  match result with
  | .ok _ => return ()
  | .error f => throw f

def isProved : Verdict μ → Bool
  | .proved => true
  | _ => false

def announce (subject : Subject) (request : Request) : Run (Desk τ) Unit := do
  Desk.say .step ("Verifying " ++ subject.className ++ "." ++ request.method)
  Desk.onLog (Log.options (.map (Configuration.build subject request)))

def attempt (v : Verifier τ μ) : Run (Bench τ μ) Bool := do
  let subject ← validSubject
  let s := (← get).session
  onDesk (announce subject s.request)
  let outcome ← onDesk (v.engine.interpret s (Configuration.build subject s.request))
  let trace ← onDesk (v.traceOf s subject outcome)
  setSession (s.finish outcome trace)
  v.report outcome trace
  return isProved outcome.verdict

def verify (v : Verifier τ μ) : Run (Bench τ μ) Bool := do
  match (← get).session.begin with
  | .error f => throw f
  | .ok s =>
    setSession s
    tryCatch v.attempt fun f => do
      modify fun b => { b with session := b.session.abandon }
      throw f

def lastModel (s : Session μ) : Option μ :=
  match s.outcome with
  | some ⟨.refuted model, _⟩ => model
  | _ => none

def classFor (s : Session μ) (className : Option String) : Except Fault String :=
  match className, s.request.subject with
  | some name, subject => if name != "" then .ok name else match subject with
    | some subject => .ok subject.className
    | none => .error { kind := .attribute }
  | none, some subject => .ok subject.className
  | none, none => .error { kind := .attribute }

def methodIdFor (s : Session μ) (method : Option String) : String :=
  match method with
  | some name => if name != "" then Covenant.methodId name else s.methodId
  | none => s.methodId

/-- The counterexample of the last refuted run. Without arguments it is the trace of that run; context, class and
method may be given instead of those of the request. -/
def counterexample (v : Verifier τ μ) (context : Option (List String)) (className method : Option String) :
    Run (Bench τ μ) Trace := do
  let s := (← get).session
  match s.state with
  | .notStarted => throw (.ofUsage .notPerformed)
  | .refuted =>
    match context, className, method, s.trace with
    | none, none, none, some trace => return trace
    | context, className, method, _ => onDesk do
      let name ← Desk.check (classFor s className)
      v.engine.extract (lastModel s) (.classes (context.getD s.request.dependencies)) name (methodIdFor s method)
  | state => throw (.ofUsage (.notRefuted state))

end Verifier

end Covenant
