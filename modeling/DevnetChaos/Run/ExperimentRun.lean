import DevnetChaos.Enclave.Manager
import DevnetChaos.Experiment
import DevnetChaos.Run.SuiteRun

/-!
# Running an experiment

Prepares the enclave of an experiment, waits, and runs its suite.

Main definitions:

- `ExperimentService`: an experiment with everything that decides how it is run.
- `ExperimentService.start`: the whole experiment; nothing is called if its faults are refused.
- `ExperimentService.forceRestart`: only a new devnet.
-/

namespace DevnetChaos

/-- An experiment with everything that decides how it is run. -/
structure ExperimentService where
  experiment : Experiment
  defaults : ClientDefaults
  enclaveSettings : EnclaveSettings
  suiteSettings : SuiteSettings

namespace ExperimentService

/-- The manager of the enclave.  The name of the enclave is always that of the experiment. -/
def manager (s : ExperimentService) : Except Failure EnclaveManager :=
  EnclaveManager.ofNetwork s.defaults { s.enclaveSettings with enclave := s.experiment.enclave }
    s.experiment.network

/-- Runs the experiment. -/
def start (s : ExperimentService) : Run SuiteReport := do
  Run.ofExcept s.experiment.validate
  let manager ← Run.ofExcept s.manager
  let _ ← manager.prepare s.experiment.startNewDevnet
  let wait := s.experiment.waitBeforeInjection.getD s.suiteSettings.waitBeforeInjection
  if wait ≠ .zero then Run.sleep wait "wait before injection"
  runSuite s.suiteSettings s.experiment.tests

/-- Tears the devnet of the experiment down and builds it anew. -/
def forceRestart (s : ExperimentService) : Run Unit := do
  let manager ← Run.ofExcept s.manager
  manager.forceRestart

end ExperimentService
end DevnetChaos
