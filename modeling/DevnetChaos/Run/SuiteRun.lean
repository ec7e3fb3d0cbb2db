import DevnetChaos.Run.TestRun

/-!
# Running a suite

Tests run strictly in order, and the first failed test stops the suite.  The artifacts of the
executed tests are persisted once: at the end, or when a failure cuts the suite short.

Main definitions:

- `SuiteReport`: what a suite came to.
- `SuiteProgress`: the artifacts of the executed tests and how the suite stopped.
- `runTests`: the tests in order.
- `runSuite`: the tests, and the artifacts persisted.
-/

namespace DevnetChaos

/-- What a suite came to. -/
structure SuiteReport where
  testsPlanned : Nat
  /-- One artifact for each executed test, in order. -/
  artifacts : List Artifact
  /-- Whether a failed test stopped the suite before its last test. -/
  stoppedEarly : Bool
  deriving DecidableEq, Repr

namespace SuiteReport

/-- Whether every planned test was executed and passed. -/
def passed (r : SuiteReport) : Bool :=
  r.artifacts.all (·.passed) && r.artifacts.length == r.testsPlanned

/-- The number of executed tests. -/
def executed (r : SuiteReport) : Nat := r.artifacts.length

end SuiteReport

/-- How a suite stopped. -/
inductive SuiteEnd where
  /-- No test was left. -/
  | complete
  /-- A test did not pass; the number of tests after it is given. -/
  | failedTest (left : Nat)
  /-- A test could not be run to its end. -/
  | aborted (failure : Failure)
  deriving DecidableEq, Repr

/-- The artifacts of the executed tests and how the suite stopped. -/
structure SuiteProgress where
  artifacts : List Artifact
  ending : SuiteEnd
  deriving DecidableEq, Repr

/-- Runs tests in order, after those whose artifacts are given. -/
def runTests (settings : SuiteSettings) : List Artifact → List SuiteTest → Run SuiteProgress
  | artifacts, [] => pure ⟨artifacts, .complete⟩
  | artifacts, test :: rest => do
      match ← (test.run settings).attempt with
      | .error failure => return ⟨artifacts, .aborted failure⟩
      | .ok artifact =>
          let artifacts := artifacts ++ [artifact]
          if artifact.passed then runTests settings artifacts rest
          else return ⟨artifacts, .failedTest rest.length⟩

/-- Runs a suite and persists its artifacts.  The failure of a test counts more than one of
persisting what was there before it. -/
def runSuite (settings : SuiteSettings) (tests : List SuiteTest) : Run SuiteReport := do
  let progress ← runTests settings [] tests
  match progress.ending with
  | .aborted failure => do
      let _ ← (Run.persist progress.artifacts).attempt
      Run.fail failure
  | .complete => do
      Run.persist progress.artifacts
      return ⟨tests.length, progress.artifacts, false⟩
  | .failedTest left => do
      Run.persist progress.artifacts
      return ⟨tests.length, progress.artifacts, 0 < left⟩

end DevnetChaos
