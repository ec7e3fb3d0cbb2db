/-!
# States of a test

The states a running test goes through and the changes between them.
-/

namespace DevnetChaos

/-- Where a running test is. -/
inductive TestState where
  | pending
  | injecting
  | waiting
  | healthChecking
  | passed
  | failed
  deriving DecidableEq, Repr

namespace TestState

/-- Every state. -/
def all : List TestState := [pending, injecting, waiting, healthChecking, passed, failed]

/-- The name used in messages. -/
def name : TestState → String
  | pending => "Pending"
  | injecting => "Injecting"
  | waiting => "Waiting"
  | healthChecking => "HealthChecking"
  | passed => "Passed"
  | failed => "Failed"

/-- The state of a name. -/
def ofName? (s : String) : Option TestState := all.find? fun t => t.name == s

/-- Whether a test may go from one state to another. -/
def allows : TestState → TestState → Bool
  | pending, injecting | pending, waiting => true
  | injecting, waiting => true
  | waiting, injecting | waiting, healthChecking | waiting, passed => true
  | healthChecking, passed | healthChecking, failed => true
  | _, _ => false

/-- Whether a state is a verdict, which is never left. -/
def isVerdict : TestState → Bool
  | passed | failed => true
  | _ => false

theorem allows_of_isVerdict {s t : TestState} (h : s.isVerdict = true) : s.allows t = false := by
  cases s <;> cases t <;> first | rfl | cases h

end TestState
end DevnetChaos
