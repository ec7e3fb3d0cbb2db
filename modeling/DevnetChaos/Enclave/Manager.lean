import DevnetChaos.Enclave.BuildWatch
import DevnetChaos.Topology.Observed

/-!
# Managing an enclave

Decides when to create, destroy, attach to or rebuild the devnet of one enclave, and refuses to run
against a devnet of another shape than declared.

Main definitions:

- `EnclaveManager`: settings, network parameters and the topology they declare.
- `EnclaveManager.inspect`: looks at the enclave and publishes what it found.
- `EnclaveManager.prepare`: makes the enclave ready.
- `EnclaveManager.forceRestart`: tears the devnet down and builds it anew, whatever its state.
-/

namespace DevnetChaos

/-- All that is needed to manage one enclave. -/
structure EnclaveManager where
  settings : EnclaveSettings
  network : NetworkConfig
  /-- The topology that the network parameters declare. -/
  declared : Topology
  deriving DecidableEq, Repr

/-- What was found in an enclave. -/
structure Observation where
  state : EnclaveState
  /-- The topology of the running devnet, if there is one. -/
  topology : Option Topology
  deriving DecidableEq, Repr

namespace EnclaveManager

/-- A manager for a network. -/
def ofNetwork (d : ClientDefaults) (settings : EnclaveSettings) (network : NetworkConfig) :
    Except Failure EnclaveManager := do
  let declared ← Topology.ofNetwork d network
  return { settings, network, declared }

/-- The name of the enclave. -/
def enclave (m : EnclaveManager) : String := m.settings.enclave

/-! ## Observation -/

/-- Publishes an observation. -/
def observed (m : EnclaveManager) (observation : Observation) : Run Observation := do
  Run.publish (.stateObserved m.enclave observation.state)
  return observation

/-- How a running devnet compares with the declared one. -/
def compare (m : EnclaveManager) (running : Topology) : EnclaveState :=
  if running.agrees m.declared then .runningMatch else .runningMismatch

/-- Looks at the enclave.  Only services of nodes are compared; others may run beside them. -/
def inspect (m : EnclaveManager) : Run Observation := do
  if ← Run.enclaveExists m.enclave then
    let services ← Run.runningServices m.enclave
    let nodeServices := services.filter ServiceName.looksLikeNodeService
    if nodeServices.isEmpty then m.observed ⟨.empty, none⟩
    else
      let running ← Run.ofExcept (Topology.ofServices nodeServices)
      m.observed ⟨m.compare running, some running⟩
  else m.observed ⟨.absent, none⟩

/-- The state of the enclave. -/
def observe (m : EnclaveManager) : Run EnclaveState := do
  return (← m.inspect).state

/-! ## Changes -/

/-- Destroys the enclave and waits until the platform has settled. -/
def destroyAndSettle (m : EnclaveManager) : Run Unit := do
  Run.destroyEnclave m.enclave
  Run.publish (.destroyed m.enclave)
  Run.sleep m.settings.settleDelay "platform settle delay"
  Run.publish (.settled m.enclave)

/-- Builds the network in an existing enclave and watches the build. -/
def build (m : EnclaveManager) : Run Unit := do
  let stream ← Run.buildNetwork m.enclave m.network
  let _ ← stream.watch m.settings.buildLimit
  Run.publish (.built m.enclave m.declared.size)

/-- The failure of creating an enclave that has not gone away. -/
def stillExists (enclave : String) : Failure :=
  .ofPlatform "orchestration" ("cannot create enclave " ++ enclave ++ ": it still exists")

/-- Creates the enclave, which must not exist, and builds the network. -/
def createAndBuild (m : EnclaveManager) : Run Unit := do
  if ← Run.enclaveExists m.enclave then
    Run.fail (stillExists m.enclave)
  else
    Run.createEnclave m.enclave
    Run.publish (.created m.enclave)
    m.build

/-- Destroys the enclave if there is one and builds everything anew.  Says whether there was
one. -/
def rebuild (m : EnclaveManager) : Run Bool := do
  let existed ← Run.enclaveExists m.enclave
  if existed then m.destroyAndSettle
  m.createAndBuild
  return existed

/-- Tears the devnet down and builds it anew, whatever its state. -/
def forceRestart (m : EnclaveManager) : Run Unit := do
  let _ ← m.rebuild
  return ()

/-- Goes on from what was found in an enclave that is not to be restarted. -/
def prepareFrom (m : EnclaveManager) (observation : Observation) : Run Preparation := do
  match observation.state with
  | .absent => do
      m.createAndBuild
      return .created
  | .empty => do
      m.build
      return .builtInExisting
  | .runningMatch => do
      Run.publish (.attached m.enclave)
      return .attached
  | .runningMismatch =>
      let running := (observation.topology.map Topology.display).getD ""
      Run.fail (.topologyMismatch m.enclave m.declared.display running)

/-- Makes the enclave ready for tests.  With `restart` it is always built anew; without, a running
devnet is used only if it has the declared shape. -/
def prepare (m : EnclaveManager) (restart : Bool) : Run Preparation := do
  if restart then
    return if ← m.rebuild then .restarted else .created
  else
    m.prepareFrom (← m.inspect)

end EnclaveManager
end DevnetChaos
