import DevnetChaos.Fault
import DevnetChaos.Network

/-!
# Experiments

Everything that one experiment needs: where it runs, on which network, and the tests.
-/

namespace DevnetChaos

/-- One experiment. -/
structure Experiment where
  enclave : String
  enclaveNamespace : String
  package : String
  /-- Whether a running devnet is destroyed and built anew before the tests. -/
  startNewDevnet : Bool
  /-- Time between a ready devnet and the first test. -/
  waitBeforeInjection : Option Duration
  network : NetworkConfig
  tests : List SuiteTest
  deriving DecidableEq, Repr

/-- Checks every fault of every test, which needs no platform. -/
def Experiment.validate (e : Experiment) : Except Failure Unit :=
  e.tests.forM SuiteTest.validate

end DevnetChaos
