import Covenant.Outcome
import Covenant.Configuration
import Covenant.Trace

namespace Covenant

inductive RunState where
  | notStarted
  | running
  | proved
  | refuted
  | inconclusive
deriving Repr, DecidableEq

def RunState.name : RunState → String
  | notStarted => "NOT_STARTED"
  | running => "RUNNING"
  | proved => "PROVED"
  | refuted => "REFUTED"
  | inconclusive => "INCONCLUSIVE"

def Verdict.state {μ : Type} : Verdict μ → RunState
  | proved => .proved
  | refuted _ => .refuted
  | inconclusive .. => .inconclusive

structure Session (μ : Type) where
  request : Request
  state : RunState := .notStarted
  outcome : Option (Outcome μ) := none
  trace : Option Trace := none

inductive UsageError where
  | inProgress
  | nothingToVerify
  | invalidSubject
  | notPerformed
  | notRefuted (state : RunState)
deriving Repr, DecidableEq

def UsageError.message : UsageError → String
  | inProgress => "verification already in progress"
  | nothingToVerify => "program or method is null"
  | invalidSubject => "program does not compile"
  | notPerformed => "verification must be performed to obtain a counterexample"
  | notRefuted state => "verification must fail to obtain a counterexample (state: " ++ state.name ++ ")"

def Fault.ofUsage (e : UsageError) : Fault := ⟨.usage, e.message, []⟩

namespace Session

variable {μ : Type}

/-- A new run forgets the last one; there is only one run at a time. -/
def begin (s : Session μ) : Except Fault (Session μ) :=
  if s.state = .running then .error (.ofUsage .inProgress)
  else .ok { s with state := .running, outcome := none, trace := none }

def abandon (s : Session μ) : Session μ :=
  if s.state = .running then { s with state := .notStarted } else s

def finish (s : Session μ) (outcome : Outcome μ) (trace : Option Trace) : Session μ :=
  { s with state := outcome.verdict.state, outcome := some outcome, trace := trace }

def methodId (s : Session μ) : String := Covenant.methodId s.request.method

end Session

end Covenant
