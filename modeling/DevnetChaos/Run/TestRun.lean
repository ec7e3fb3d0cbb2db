import DevnetChaos.Run.Health
import DevnetChaos.Run.Settings

/-!
# Running a test

A test goes from `pending` through its steps to a verdict.  Faults that are not waited for by a
step are waited for at the end, so that no test is judged while one of its faults is still at work.

Main definitions:

- `TestRun`: the state of a test and the faults that have not completed.
- `TestRun.enter`: a state change, refused unless the state allows it.
- `awaitFaults`: looks at submitted faults until all have completed.
- `SuiteTest.run`: the whole test.
-/

namespace DevnetChaos

/-- A fault that was submitted and has not completed. -/
structure OutstandingFault where
  handle : FaultHandle
  kind : String
  deriving DecidableEq, Repr

/-- The text that names a submitted fault in a failure. -/
def OutstandingFault.display (f : OutstandingFault) : String :=
  f.kind ++ " (" ++ f.handle.text ++ ")"

/-! ## Waiting for faults -/

/-- Asks once for the status of each fault, in order.  Gives back those that have not completed; an
error ends the run. -/
def pollFaults : List OutstandingFault → Run (List OutstandingFault)
  | [] => pure []
  | f :: rest => do
      match ← Run.faultStatus f.handle with
      | .complete => pollFaults rest
      | .pending => return f :: (← pollFaults rest)
      | .error reason => Run.fail (.faultFailed f.display reason)

/-- Fails if faults that have not completed have taken longer than they may. -/
def checkLimit (settings : SuiteSettings) (started count : Nat) : Run Unit := do
  match settings.completionLimit with
  | none => return ()
  | some limit =>
      let time ← Run.now
      if limit.wholeMillis ≤ time - started then
        Run.fail (.faultFailed (toString count ++ " fault(s)")
          ("not complete after " ++ limit.limitText))

/-- The time between two looks at submitted faults, which is never zero. -/
def SuiteSettings.pollPause (settings : SuiteSettings) : Duration :=
  if settings.pollInterval.nanos < 1000000 then .ofMillis 1 else settings.pollInterval

/-- Looks at faults again and again until all have completed, as often as patience allows. -/
def awaitRounds (settings : SuiteSettings) (started : Nat) :
    Nat → List OutstandingFault → Run Unit
  | _, [] => pure ()
  | 0, _ :: _ => Run.abandon
  | patience + 1, f :: rest => do
      let left ← pollFaults (f :: rest)
      if left.isEmpty then return ()
      checkLimit settings started left.length
      Run.sleep settings.pollPause "wait for fault completion"
      awaitRounds settings started patience left

/-- Waits until all faults have completed. -/
def awaitFaults (settings : SuiteSettings) (faults : List OutstandingFault) : Run Unit := do
  let started ← Run.now
  awaitRounds settings started settings.patience faults

/-! ## The states of a test -/

/-- Where a running test is. -/
structure TestRun where
  test : SuiteTest
  state : TestState
  /-- The faults that have not completed, in the order of their submission. -/
  outstanding : List OutstandingFault
  deriving DecidableEq, Repr

namespace TestRun

/-- A test before its first step. -/
def start (test : SuiteTest) : TestRun := ⟨test, .pending, []⟩

/-- Goes over to a state.  To stay in a state is no change. -/
def enter (next : TestState) (r : TestRun) : Run TestRun := do
  if r.state = next then return r
  else if r.state.allows next then
    Run.note (.testState r.test.name r.state next)
    return { r with state := next }
  else Run.fail (.invalidTransition r.state.name next.name)

/-- Submits a fault. -/
def inject (fault : Fault) (r : TestRun) : Run TestRun := do
  let handle ← Run.submitFault fault
  return { r with outstanding := r.outstanding ++ [⟨handle, fault.kind⟩] }

/-- Waits until every submitted fault has completed. -/
def settle (settings : SuiteSettings) (r : TestRun) : Run TestRun := do
  awaitFaults settings r.outstanding
  return { r with outstanding := [] }

/-- The state in which a step is taken. -/
def stateOf : PlanStep → TestState
  | .injectFault .. => .injecting
  | .awaitFaults _ => .waiting
  | .awaitDuration .. => .waiting

/-- Does what a step says. -/
def carryOut (settings : SuiteSettings) (step : PlanStep) (r : TestRun) : Run TestRun := do
  match step with
  | .injectFault _ fault => r.inject fault
  | .awaitFaults _ => r.settle settings
  | .awaitDuration description duration => do
      Run.sleep duration description
      return r

/-- Takes one step: goes over to its state, writes it down, and does what it says. -/
def take (settings : SuiteSettings) (step : PlanStep) (r : TestRun) : Run TestRun := do
  let r ← r.enter (stateOf step)
  Run.note (.step step.description)
  r.carryOut settings step

/-- Takes steps in order. -/
def takeAll (settings : SuiteSettings) : List PlanStep → TestRun → Run TestRun
  | [], r => pure r
  | step :: rest, r => do takeAll settings rest (← r.take settings step)

/-- Waits for faults that no step has waited for. -/
def finishWaiting (settings : SuiteSettings) (r : TestRun) : Run TestRun := do
  if r.state = .waiting ∧ r.outstanding = [] then return r
  else (← r.enter .waiting).settle settings

/-- The state of a test with these verdicts. -/
def verdictState (verdicts : List PodVerdict) : TestState :=
  if verdicts.all (·.healthy) then .passed else .failed

/-- The artifact of a test that is over. -/
def artifact (r : TestRun) (verdicts : List PodVerdict) (pods : List PodUnderTest) : Artifact where
  test := r.test.name
  passed := r.state = .passed
  verdicts := verdicts
  podsUnderTest := pods

/-- Judges a test whose faults have all completed.  A test without health checks passes. -/
def judge (settings : SuiteSettings) (pods : List PodUnderTest) (r : TestRun) : Run Artifact := do
  if r.test.health.enabled then
    let r ← r.enter .healthChecking
    let grace := r.test.health.gracePeriod.getD settings.gracePeriod
    if grace ≠ .zero then Run.sleep grace "health check grace period"
    let verdicts ← runChecks pods
    let r ← r.enter (verdictState verdicts)
    return r.artifact verdicts pods
  else
    let r ← r.enter .passed
    return r.artifact [] pods

end TestRun

/-- Runs a test.  The pods it is about are found first, as they may not survive its faults. -/
def SuiteTest.run (settings : SuiteSettings) (test : SuiteTest) : Run Artifact := do
  let pods ← podsUnderTest test.faults
  let r ← TestRun.takeAll settings test.steps (.start test)
  let r ← r.finishWaiting settings
  r.judge settings pods

end DevnetChaos
