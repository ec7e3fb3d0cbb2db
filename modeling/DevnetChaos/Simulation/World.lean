import DevnetChaos.Simulation.Action

/-!
# A simulated deployment

The simulated systems wired together: a successful build adds the pods of a network to the cluster,
a destroyed enclave takes its pods with it, and a fault changes the phases of the pods it hits.
Their answers can be disturbed.  Time is counted in milliseconds and passes only while something
waits.

Main definitions:

- `Disturbances`: what changes the answers of the simulated systems.
- `World`: the systems, the time, the tokens and everything kept for later questions.
- `World.lookUp`, `World.destroy`, `World.build`, `World.submit`, `World.persist`, …: the calls.
- `World.respondAtOnce`: the answers to all calls that do not wait.
-/

namespace DevnetChaos
namespace Simulation

/-- What changes the answers of the simulated systems. -/
structure Disturbances where
  /-- The message with which questions to the cluster fail. -/
  outage : Option String
  /-- Pods that are listed but not found. -/
  hiddenPods : List String
  /-- Answers to the next successful questions whether an enclave exists. -/
  forcedExistence : List Bool
  /-- Streams of the next builds, which do not reach the host of enclaves. -/
  timedBuilds : List BuildStream
  sinkBroken : Bool
  deriving DecidableEq, Repr

/-- Nothing is disturbed. -/
def Disturbances.none : Disturbances := ⟨.none, [], [], [], false⟩

/-- An action that is taken when its time has come. -/
structure Appointment where
  due : Nat
  action : Action

/-- A manager that is kept, with the token that cancels its waits and its notifications. -/
structure KeptManager where
  manager : EnclaveManager
  token : Nat
  bus : Bus

/-- A simulated deployment. -/
structure World where
  cluster : Cluster
  host : EnclaveHost
  faults : FaultEngine
  memory : ArtifactMemory
  /-- Whether builds and faults change the cluster. -/
  attached : Bool
  disturbances : Disturbances
  now : Nat
  /-- When a wait is left. -/
  deadline : Option Nat
  /-- Actions still to be taken, in the order of their times. -/
  agenda : List Appointment
  /-- The current cancellation token; tokens are counted from zero. -/
  token : Nat
  cancelledTokens : List Nat
  journal : List JournalEntry
  manager : Option KeptManager
  podsUnderTest : List PodUnderTest

/-- Who makes the calls of a run. -/
structure Caller where
  /-- The token that cancels the waits of the run. -/
  token : Nat
  /-- Whether notifications reach the kept reader. -/
  onBus : Bool
  deriving DecidableEq, Repr

namespace World

/-- A deployment in which nothing has happened yet. -/
def empty (d : ClientDefaults) (attached : Bool) : World where
  cluster := .empty
  host := .empty d
  faults := .empty
  memory := .empty
  attached := attached
  disturbances := .none
  now := 0
  deadline := none
  agenda := []
  token := 0
  cancelledTokens := []
  journal := []
  manager := none
  podsUnderTest := []

/-! ## Tokens -/

/-- Whether a token was cancelled. -/
def isCancelled (w : World) (token : Nat) : Bool := w.cancelledTokens.contains token

/-- Cancels the current token. -/
def cancel (w : World) : World :=
  if w.isCancelled w.token then w else { w with cancelledTokens := w.token :: w.cancelledTokens }

/-! ## Calls to the host of enclaves -/

/-- Whether an enclave exists; a forced answer takes the place of a successful one. -/
def lookUp (w : World) (enclave : String) : Except Failure Bool × World :=
  let (found, host) := w.host.lookUp enclave
  let w := { w with host }
  match found, w.disturbances.forcedExistence with
  | .ok _, answer :: rest =>
      (.ok answer, { w with disturbances := { w.disturbances with forcedExistence := rest } })
  | found, _ => (found, w)

/-- Creates an enclave. -/
def create (w : World) (enclave : String) : Except Failure Unit × World :=
  let (result, host) := w.host.create enclave
  (result, { w with host })

/-- Destroys an enclave together with the pods of its services. -/
def destroy (w : World) (enclave : String) : Except Failure Unit × World :=
  let (result, host) := w.host.destroy enclave
  let w := { w with host }
  match result with
  | .error failure => (.error failure, w)
  | .ok services =>
      (.ok (), if w.attached then { w with cluster := w.cluster.removeAll services } else w)

/-- The services of an enclave. -/
def services (w : World) (enclave : String) : Except Failure (List String) × World :=
  let (result, host) := w.host.services enclave
  (result, { w with host })

/-- Builds a network, unless a stream takes the place of the build. -/
def build (w : World) (enclave : String) (network : NetworkConfig) :
    Except Failure BuildStream × World :=
  match w.disturbances.timedBuilds with
  | stream :: rest =>
      (.ok stream, { w with disturbances := { w.disturbances with timedBuilds := rest } })
  | [] =>
      let (result, host) := w.host.build enclave network
      let w := { w with host }
      match result with
      | .error failure => (.error failure, w)
      | .ok build =>
          let cluster := match build.topology with
            | some t => if w.attached then w.cluster.addTopology t else w.cluster
            | none => w.cluster
          (.ok (.ofEvents build.events), { w with cluster })

/-! ## Calls to the fault platform -/

/-- Submits a fault, which may change the phases of the pods it hits. -/
def submit (w : World) (fault : Fault) : Except Failure FaultHandle × World :=
  let (result, faults) := w.faults.submit fault
  let w := { w with faults }
  match result with
  | .error failure => (.error failure, w)
  | .ok (handle, phase) =>
      let cluster := match phase with
        | some phase =>
            if w.attached then w.cluster.setPhaseMatching fault.selector phase else w.cluster
        | none => w.cluster
      (.ok handle, { w with cluster })

/-- The status of a submission. -/
def status (w : World) (handle : FaultHandle) : Except Failure FaultStatus × World :=
  let (result, faults) := w.faults.status handle
  (result, { w with faults })

/-- The status of a fault under a name that was not given out. -/
def statusOfStranger (w : World) (name : String) : Except Failure FaultStatus × World :=
  let (result, faults) := w.faults.statusOfStranger name
  (result, { w with faults })

/-! ## Questions to the cluster -/

/-- The answer of the cluster, or its failure during an outage. -/
def unlessOutage {α : Type} (w : World) (answer : α) : Except Failure α :=
  match w.disturbances.outage with
  | some message => .error (.ofPlatform "cluster" message)
  | none => .ok answer

/-- The names of the pods with a label. -/
def podsLabelled (w : World) (key value : String) : Except Failure (List String) :=
  w.unlessOutage (w.cluster.labelled key value)

/-- The pod of a name, unless it is hidden. -/
def pod? (w : World) (name : String) : Except Failure (Option PodInfo) :=
  w.unlessOutage
    (if w.disturbances.hiddenPods.contains name then none else w.cluster.pod? name)

/-! ## Artifacts, journal and notifications -/

/-- Persists artifacts, unless the store is broken. -/
def persist (w : World) (artifacts : List Artifact) : Except Failure Unit × World :=
  if w.disturbances.sinkBroken then (.error (.internal "sink is broken"), w)
  else (.ok (), { w with memory := w.memory.persist artifacts })

/-- Writes an entry to the journal. -/
def note (w : World) (entry : JournalEntry) : World := { w with journal := w.journal ++ [entry] }

/-- Publishes a notification on the bus of the kept manager. -/
def publish (w : World) (n : Notification) : World :=
  { w with manager := w.manager.map fun kept => { kept with bus := kept.bus.publish n } }

/-! ## Answers without waiting -/

/-- The answers to all calls that do not wait. -/
def respondAtOnce (caller : Caller) : Environment World := fun call w =>
  match call with
  | .enclaveExists enclave => let (x, w) := w.lookUp enclave; (some x, w)
  | .createEnclave enclave => let (x, w) := w.create enclave; (some x, w)
  | .destroyEnclave enclave => let (x, w) := w.destroy enclave; (some x, w)
  | .runningServices enclave => let (x, w) := w.services enclave; (some x, w)
  | .buildNetwork enclave network => let (x, w) := w.build enclave network; (some x, w)
  | .submitFault fault => let (x, w) := w.submit fault; (some x, w)
  | .faultStatus handle => let (x, w) := w.status handle; (some x, w)
  | .podsLabelled key value => (some (w.podsLabelled key value), w)
  | .pod name => (some (w.pod? name), w)
  | .persist artifacts => let (x, w) := w.persist artifacts; (some x, w)
  | .now => (some w.now, w)
  | .pause _ => (none, w)
  | .awaitCancellation => (none, w)
  | .note entry => (some (), w.note entry)
  | .publish n => (some (), if caller.onBus then w.publish n else w)

end World
end Simulation
end DevnetChaos
