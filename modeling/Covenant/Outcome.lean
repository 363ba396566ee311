import Covenant.Field

namespace Covenant

inductive Doubt where
  | unsupported
  | semantic
deriving Repr, DecidableEq

inductive Verdict (μ : Type) where
  | proved
  | refuted (model : Option μ)
  | inconclusive (doubt : Doubt) (reason : String)
deriving Repr, DecidableEq

structure Outcome (μ : Type) where
  verdict : Verdict μ
  diagnostics : List String := []
deriving Repr, DecidableEq

def Doubt.name : Doubt → String
  | unsupported => "unsupported"
  | semantic => "semantic"

def Doubt.explanation : Doubt → String
  | unsupported => "contract uses a feature the engine does not support: "
  | semantic => "contract is semantically invalid: "

namespace Outcome

variable {μ : Type}

def inconclusive (doubt : Doubt) (message : String) : Outcome μ :=
  ⟨.inconclusive doubt (doubt.explanation ++ message), [message]⟩

def doubts : List (String × Doubt) := [Doubt.unsupported, .semantic].map fun d => (d.name, d)

def ofNotes (verdict : Verdict μ) (diagnostics : List Value) : Except Fault (Outcome μ) :=
  let diagnostics := textFields ["diagnostics"] diagnostics
  match problemsOf diagnostics with
  | [] => .ok ⟨verdict, textsOf diagnostics⟩
  | problems => .error (.ofProblems problems)

def ofDoubt (doubt reason : Value) (diagnostics : List Value) : Except Fault (Outcome μ) :=
  let doubt := choiceField ["kind"] doubts doubt
  let reason := textField ["reason"] reason
  let diagnostics := textFields ["diagnostics"] diagnostics
  match doubt, reason, problemsOf diagnostics with
  | .ok doubt, .ok reason, [] => .ok ⟨.inconclusive doubt reason, textsOf diagnostics⟩
  | doubt, reason, problems => .error (.ofProblems (problemsOf [doubt] ++ problemsOf [reason] ++ problems))

end Outcome

def FaultKind.doubt? (kind : FaultKind) : Option Doubt :=
  if kind.isA .unsupported then some .unsupported
  else if kind.isA .semantic then some .semantic
  else none

end Covenant
