import DevnetChaos.Duration

/-!
# Settings of a suite

How often faults are looked at, and how long a run waits where a test does not say so itself.
-/

namespace DevnetChaos

/-- How a suite is run. -/
structure SuiteSettings where
  /-- Time between two looks at submitted faults. -/
  pollInterval : Duration
  /-- The longest that faults may take to complete. -/
  completionLimit : Option Duration
  /-- Time before the health checks of a test that does not set its own. -/
  gracePeriod : Duration
  /-- Time between a ready devnet and the first test, for an experiment that does not set its
  own. -/
  waitBeforeInjection : Duration
  /-- How many times submitted faults are looked at before the run is left. -/
  patience : Nat
  deriving DecidableEq, Repr

namespace SuiteSettings

/-- The usual settings. -/
def standard (patience : Nat) : SuiteSettings where
  pollInterval := .ofSeconds 5
  completionLimit := none
  gracePeriod := .zero
  waitBeforeInjection := .zero
  patience := patience

end SuiteSettings
end DevnetChaos
