import Covenant.Desk
import Covenant.Session

namespace Covenant

structure Answer (μ : Type) where
  satisfiable : Bool
  model : Option μ := none

inductive Context where
  | classes (names : List String)
  | text (s : String)
deriving Repr, DecidableEq

def occursIn (part : List Char) : List Char → Bool
  | [] => part.isEmpty
  | c :: cs => (Text.dropStart? part (c :: cs)).isSome || occursIn part cs

def Context.contains (context : Context) (owner : String) : Bool :=
  match context with
  | classes names => names.contains owner
  | text s => occursIn owner.toList s.toList

structure Engine (τ μ : Type) where
  analyze : Session μ → Mapping → Run (Desk τ) (Answer μ)
  snapshot : μ → Context → (className methodId : String) → Run (Desk τ) Snapshot

namespace Engine

variable {τ μ : Type}

def interpret (e : Engine τ μ) (s : Session μ) (configuration : Mapping) : Run (Desk τ) (Outcome μ) :=
  tryCatch
    (do
      let answer ← e.analyze s configuration
      return ⟨if answer.satisfiable then .refuted answer.model else .proved, []⟩)
    fun f => match f.kind.doubt? with
      | some doubt => return .inconclusive doubt f.message
      | none => throw f

def extract (e : Engine τ μ) (model : Option μ) (context : Context) (className methodId : String) :
    Run (Desk τ) Trace := do
  match model with
  | none => throw { kind := .attribute }
  | some m => Desk.check (← e.snapshot m context className methodId).trace

end Engine

end Covenant
