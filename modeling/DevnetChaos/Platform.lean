import DevnetChaos.Client.Labels
import DevnetChaos.TextMap

/-!
# What the platforms report

The answers of the cluster and of the fault platform: pods with their phases, and the progress of
submitted faults.
-/

namespace DevnetChaos

/-! ## Pods -/

/-- The phase of a pod. -/
inductive PodPhase where
  | pending
  | running
  | succeeded
  | failed
  | unknown
  deriving DecidableEq, Repr

namespace PodPhase

/-- Every phase. -/
def all : List PodPhase := [pending, running, succeeded, failed, unknown]

/-- The word of the cluster. -/
def name : PodPhase → String
  | pending => "Pending"
  | running => "Running"
  | succeeded => "Succeeded"
  | failed => "Failed"
  | unknown => "Unknown"

/-- The phase of a word. -/
def ofName? (s : String) : Option PodPhase := all.find? fun p => p.name == s

theorem ofName?_name (p : PodPhase) : ofName? p.name = some p := by
  cases p <;> rfl

end PodPhase

/-- A pod as the cluster describes it. -/
structure PodInfo where
  name : String
  labels : Labels
  phase : PodPhase
  deriving DecidableEq, Repr

/-! ## Submitted faults -/

/-- The name the fault platform gives to a submission. -/
structure FaultHandle where
  text : String
  deriving DecidableEq, Repr

/-- What the fault platform says about a submission. -/
inductive FaultStatus where
  | pending
  | complete
  | error (reason : String)
  deriving DecidableEq, Repr

end DevnetChaos
