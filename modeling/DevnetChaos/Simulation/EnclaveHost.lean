import DevnetChaos.Build
import DevnetChaos.Topology

/-!
# A simulated host of enclaves

Enclaves with the names of their services.  A build that succeeds sets the services of an enclave to
those of the requested network; its events can be scripted.  Every call is recorded, also one that
fails because the host cannot be reached.

Main definitions:

- `HostCall`: a recorded call.
- `EnclaveHost`: the enclaves, the scripts and the record.
- `lookUp`, `create`, `destroy`, `services`, `build`: the calls.
-/

namespace DevnetChaos

/-- What a recorded call asked for. -/
inductive HostCallKind where
  | lookUp
  | create
  | destroy
  | services
  | build
  deriving DecidableEq, Repr

/-- The word for a call in the record. -/
def HostCallKind.name : HostCallKind → String
  | .lookUp => "exists"
  | .create => "create"
  | .destroy => "destroy"
  | .services => "services"
  | .build => "build"

/-- A recorded call. -/
structure HostCall where
  kind : HostCallKind
  enclave : String
  deriving DecidableEq, Repr

/-- Whether a call changes an enclave. -/
def HostCall.isMutation (c : HostCall) : Bool :=
  match c.kind with
  | .create | .destroy | .build => true
  | .lookUp | .services => false

/-- A simulated host of enclaves. -/
structure EnclaveHost where
  /-- The names of the services of each enclave. -/
  enclaves : TextMap (List String)
  /-- The events of builds to come; further builds succeed. -/
  scriptedBuilds : List (List BuildEvent)
  /-- The calls received, in order. -/
  calls : List HostCall
  reachable : Bool
  /-- What open fields of requested clients are filled from. -/
  defaults : ClientDefaults

/-- What a build did: its events, and the topology of the network if it succeeded. -/
structure HostBuild where
  events : List BuildEvent
  topology : Option Topology
  deriving DecidableEq, Repr

/-- The events of a build in which nothing happens. -/
def successfulBuild (nodes : Nat) : List BuildEvent :=
  let uploading := "Uploading the devnet package"
  let genesis := "Generating genesis"
  let launching := "Launching " ++ toString nodes ++ " participants"
  [.progress [uploading],
    .progress [uploading, genesis],
    .progress [uploading, genesis, launching],
    .info "Genesis validators root computed",
    .instruction (toString nodes ++ " participants started"),
    .finished true "devnet started"]

namespace EnclaveHost

/-- A host without enclaves. -/
def empty (d : ClientDefaults) : EnclaveHost := ⟨.empty, [], [], true, d⟩

/-- The name of the platform in failures. -/
def platform : String := "orchestration"

/-- The failure of a call to a host that cannot be reached. -/
def unreachable : Failure :=
  .ofPlatform platform "dial tcp 127.0.0.1:9710: connect: connection refused"

/-- The failure of a call about an enclave that does not exist. -/
def missing (enclave : String) : Failure :=
  .ofPlatform platform ("enclave " ++ enclave ++ " does not exist")

/-- The failure of creating an enclave twice. -/
def taken (enclave : String) : Failure :=
  .ofPlatform platform ("enclave " ++ enclave ++ " already exists")

/-- Records a call. -/
def record (h : EnclaveHost) (kind : HostCallKind) (enclave : String) : EnclaveHost :=
  { h with calls := h.calls ++ [⟨kind, enclave⟩] }

/-- The recorded calls that change an enclave. -/
def mutations (h : EnclaveHost) : List HostCall := h.calls.filter HostCall.isMutation

/-- The services of an enclave. -/
def servicesOf? (h : EnclaveHost) (enclave : String) : Option (List String) :=
  h.enclaves.get? enclave

/-- Gives an enclave services. -/
def seed (h : EnclaveHost) (enclave : String) (services : List String) : EnclaveHost :=
  { h with enclaves := h.enclaves.insert enclave services }

/-! ## Calls -/

/-- Whether an enclave exists. -/
def lookUp (h : EnclaveHost) (enclave : String) : Except Failure Bool × EnclaveHost :=
  let h := h.record .lookUp enclave
  if h.reachable then (.ok (h.enclaves.contains enclave), h) else (.error unreachable, h)

/-- Creates an enclave without services. -/
def create (h : EnclaveHost) (enclave : String) : Except Failure Unit × EnclaveHost :=
  let h := h.record .create enclave
  if !h.reachable then (.error unreachable, h)
  else if h.enclaves.contains enclave then (.error (taken enclave), h)
  else (.ok (), h.seed enclave [])

/-- Destroys an enclave.  Gives back the services it had. -/
def destroy (h : EnclaveHost) (enclave : String) : Except Failure (List String) × EnclaveHost :=
  let h := h.record .destroy enclave
  if !h.reachable then (.error unreachable, h)
  else
    match h.servicesOf? enclave with
    | none => (.error (missing enclave), h)
    | some services => (.ok services, { h with enclaves := h.enclaves.erase enclave })

/-- The services of an enclave. -/
def services (h : EnclaveHost) (enclave : String) : Except Failure (List String) × EnclaveHost :=
  let h := h.record .services enclave
  if !h.reachable then (.error unreachable, h)
  else
    match h.servicesOf? enclave with
    | none => (.error (missing enclave), h)
    | some services => (.ok services, h)

/-- The names of all services of a topology and of the services beside its nodes. -/
def allServices (t : Topology) (network : NetworkConfig) : List String :=
  t.nodes.flatMap t.serviceNames ++ network.additionalServices

/-- Takes the next script, or the events of a build in which nothing happens. -/
def nextScript (h : EnclaveHost) (nodes : Nat) : List BuildEvent × EnclaveHost :=
  match h.scriptedBuilds with
  | events :: rest => (events, { h with scriptedBuilds := rest })
  | [] => (successfulBuild nodes, h)

/-- Builds a network in an enclave.  A build that fails leaves the enclave as it was; parameters
that declare no topology are refused before the call is recorded. -/
def build (h : EnclaveHost) (enclave : String) (network : NetworkConfig) :
    Except Failure HostBuild × EnclaveHost :=
  match Topology.ofNetwork h.defaults network with
  | .error failure => (.error failure, h)
  | .ok topology =>
      let h := h.record .build enclave
      if !h.reachable then (.error unreachable, h)
      else if !h.enclaves.contains enclave then (.error (missing enclave), h)
      else
        let (events, h) := h.nextScript topology.size
        if buildSucceeds events then
          (.ok ⟨events, some topology⟩, h.seed enclave (allServices topology network))
        else (.ok ⟨events, none⟩, h)

end EnclaveHost
end DevnetChaos
