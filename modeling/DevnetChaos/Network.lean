import DevnetChaos.Client.Consensus
import DevnetChaos.Client.Execution
import DevnetChaos.Word

/-!
# Network parameters

What the devnet package is told when it builds a network: groups of identical nodes and the
parameters of the chain.

Main definitions:

- `Participant`: a group of identical nodes, with the fields of both of its clients.
- `Participant.ofClients`, `Participant.clients`: from a pair of clients to a group and back.
- `NetworkConfig`: the participants with genesis parameters and extra services.
-/

namespace DevnetChaos

/-- A group of identical nodes. -/
structure Participant where
  execution : ExecutionKind
  executionImage : Option String
  executionLabels : Labels
  executionCpu : Option UInt32
  executionMemory : Option UInt32
  consensus : ConsensusKind
  consensusImage : Option String
  consensusLabels : Labels
  consensusCpu : Option UInt32
  consensusMemory : Option UInt32
  /-- Whether every node of the group runs a validator beside its beacon node. -/
  separateValidator : Bool
  validator : Option ConsensusKind
  validatorImage : Option String
  validatorLabels : Labels
  validatorCpu : Option UInt32
  validatorMemory : Option UInt32
  /-- Number of nodes in the group. -/
  count : Nat
  deriving DecidableEq, Repr

namespace Participant

/-- One node of the given clients with every other field open. -/
def ofKinds (execution : ExecutionKind) (consensus : ConsensusKind) : Participant where
  execution := execution
  executionImage := none
  executionLabels := .empty
  executionCpu := none
  executionMemory := none
  consensus := consensus
  consensusImage := none
  consensusLabels := .empty
  consensusCpu := none
  consensusMemory := none
  separateValidator := false
  validator := none
  validatorImage := none
  validatorLabels := .empty
  validatorCpu := none
  validatorMemory := none
  count := 1

/-- The group of one node that runs the two given clients.  The fields of a sidecar are taken over
only where the client says it has one. -/
def ofClients (el : ExecutionClient) (cl : ConsensusClient) : Participant :=
  let sidecar := if cl.hasSidecar then cl.validator else none
  { execution := el.kind
    executionImage := el.image
    executionLabels := el.labels
    executionCpu := el.cpu
    executionMemory := el.memory
    consensus := cl.kind
    consensusImage := cl.image
    consensusLabels := cl.labels
    consensusCpu := cl.cpu
    consensusMemory := cl.memory
    separateValidator := cl.hasSidecar
    validator := sidecar.bind (·.kind)
    validatorImage := sidecar.bind (·.image)
    validatorLabels := (sidecar.map (·.labels)).getD .empty
    validatorCpu := sidecar.bind (·.cpu)
    validatorMemory := sidecar.bind (·.memory)
    count := 1 }

/-- The execution client as declared. -/
def executionClient (p : Participant) : ExecutionClient where
  kind := p.execution
  image := p.executionImage
  cpu := p.executionCpu
  memory := p.executionMemory
  labels := p.executionLabels

/-- The sidecar as declared. -/
def sidecar (p : Participant) : ValidatorClient where
  kind := p.validator
  image := p.validatorImage
  cpu := p.validatorCpu
  memory := p.validatorMemory
  labels := p.validatorLabels

/-- The consensus client as declared; without a separate validator its fields are ignored. -/
def consensusClient (p : Participant) : ConsensusClient where
  kind := p.consensus
  image := p.consensusImage
  hasSidecar := p.separateValidator
  validator := if p.separateValidator then some p.sidecar else none
  cpu := p.consensusCpu
  memory := p.consensusMemory
  labels := p.consensusLabels

/-- The two clients of every node of the group, with their fields filled. -/
def clients (d : ClientDefaults) (p : Participant) :
    Except Failure (ExecutionClient × ConsensusClient) := do
  let cl ← p.consensusClient.backfill d
  return (p.executionClient.backfill d, cl)

end Participant

/-- Parameters of the chain.  Only the number of validator keys has a value of its own where it is
left out: zero. -/
structure GenesisParams where
  mnemonic : Option String
  preregisteredValidators : Option UInt64
  networkId : Option UInt64
  depositContract : Option String
  secondsPerSlot : Option UInt64
  genesisDelay : Option UInt64
  maxChurn : Option UInt64
  ejectionBalance : Option UInt64
  followDistance : Option UInt64
  capellaEpoch : Option UInt64
  denebEpoch : Option UInt64
  electraEpoch : Option UInt64
  keysPerNode : UInt32
  deriving DecidableEq, Repr

/-- Parameters that leave everything to the package. -/
def GenesisParams.unset : GenesisParams :=
  ⟨none, none, none, none, none, none, none, none, none, none, none, none, 0⟩

/-- What a network is built from. -/
structure NetworkConfig where
  participants : List Participant
  params : GenesisParams
  additionalServices : List String
  parallelKeystores : Bool
  persistent : Bool
  disablePeerScoring : Bool
  deriving DecidableEq, Repr

namespace NetworkConfig

/-- No nodes, and everything left to the package. -/
def empty : NetworkConfig := ⟨[], .unset, [], false, false, false⟩

/-- The shape of generated networks: dashboards on, peer scoring off. -/
def generated (participants : List Participant) (params : GenesisParams) : NetworkConfig where
  participants := participants
  params := params
  additionalServices := ["prometheus_grafana", "dora"]
  parallelKeystores := false
  persistent := false
  disablePeerScoring := true

/-- Number of nodes of all groups, as a 64-bit word holds it. -/
def nodeCount (n : NetworkConfig) : Nat :=
  wrap64 ((n.participants.map (·.count)).foldl (· + ·) 0)

end NetworkConfig
end DevnetChaos
