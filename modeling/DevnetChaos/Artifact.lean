import DevnetChaos.Client.Labels

/-!
# Test artifacts

What is kept of an executed test: the pods its faults were aimed at and the verdict on every pod
that was checked.
-/

namespace DevnetChaos

/-- A pod that the faults of a test are aimed at. -/
structure PodUnderTest where
  name : String
  labels : Labels
  /-- Whether one of the faults is meant to kill the pod. -/
  expectDeath : Bool
  deriving DecidableEq, Repr

/-- The verdict on one pod. -/
structure PodVerdict where
  pod : String
  healthy : Bool
  phase : Option String
  reason : String
  /-- Whether the pod was a target and not a bystander. -/
  underTest : Bool
  deriving DecidableEq, Repr

/-- The outcome of one executed test. -/
structure Artifact where
  test : String
  passed : Bool
  verdicts : List PodVerdict
  podsUnderTest : List PodUnderTest
  deriving DecidableEq, Repr

/-- The verdicts that speak against the test. -/
def Artifact.failedVerdicts (a : Artifact) : List PodVerdict :=
  a.verdicts.filter fun v => !v.healthy

end DevnetChaos
