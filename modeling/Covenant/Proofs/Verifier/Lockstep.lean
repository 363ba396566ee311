import Covenant.Proofs.Verifier.Sinks

namespace Covenant

variable {τ μ : Type} {R : Desk τ → Desk τ → Prop}

/-! ## Reports -/

/-- On related desks the sink comes to the same with a report. A failure is noted on both, so it
must be the same too. -/
def Sink.Steady (R : Desk τ → Desk τ → Prop) (sink : Sink τ) : Prop :=
  ∀ (μ : Type) (outcome : Outcome μ) (trace : Option Trace) (d d' : Desk τ), R d d' →
    Run.Agree R ((sink.write (Report.render outcome trace)).ends d) ((sink.write (Report.render outcome trace)).ends d')

section

variable [Terminal]

namespace Report

end Report

/-! ## Runs -/

namespace Engine

end Engine

namespace Verifier

variable {e e' : Engine τ μ} {sinks : List (Sink τ)}

end Verifier

end

end Covenant
