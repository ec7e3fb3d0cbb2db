import DevnetChaos.Document.Value
import DevnetChaos.Duration
import DevnetChaos.Network

/-!
# Planner documents

What the planner is asked for: the clients of the network, its size, and the fault with the
dimensions along which tests vary.

Main definitions:

- `ExecutionVersion`, `ConsensusVersion`: a declared version of a client.
- `SizingPolicy`: how large the network should be.
- `FaultSection`: the fault, still in the words of the document.
- `PlannerConfig`: the whole document.
-/

namespace DevnetChaos

/-- One set of fault parameters by name, which should be scalars. -/
abbrev Dimension := TextMap Value

/-- A declared version of an execution client. -/
structure ExecutionVersion where
  kind : ExecutionKind
  image : Option String
  deriving DecidableEq, Repr

/-- The client of a version, with its fields filled. -/
def ExecutionVersion.client (d : ClientDefaults) (v : ExecutionVersion) : ExecutionClient :=
  { ExecutionClient.ofKind v.kind with image := v.image }.backfill d

/-- A declared version of a consensus client, perhaps with a sidecar. -/
structure ConsensusVersion where
  kind : ConsensusKind
  image : Option String
  validatorKind : Option ConsensusKind
  validatorImage : Option String
  hasSidecar : Option Bool
  deriving DecidableEq, Repr

namespace ConsensusVersion

/-- The sidecar of a version: the one it says it has, or the one it describes. -/
def sidecar? (v : ConsensusVersion) : Option ValidatorClient :=
  if v.hasSidecar.getD false || v.validatorKind.isSome || v.validatorImage.isSome then
    some { ValidatorClient.ofKind v.validatorKind with image := v.validatorImage }
  else none

/-- The client of a version as declared. -/
def declared (v : ConsensusVersion) : ConsensusClient :=
  { ConsensusClient.ofKind v.kind with
    image := v.image
    hasSidecar := v.hasSidecar.getD false
    validator := v.sidecar? }

/-- The client of a version, with its fields filled.  A sidecar that is described but not there is
refused. -/
def client (d : ClientDefaults) (v : ConsensusVersion) : Except Failure ConsensusClient :=
  v.declared.backfill d

end ConsensusVersion

/-- How large the network should be. -/
structure SizingPolicy where
  /-- Nodes with the target client for each client of the other side; one if not given. -/
  multiplier : Option UInt32
  /-- Share of the network that should run the target client. -/
  share : Option Float
  deriving Repr

/-- Nodes with the target client for each client of the other side. -/
def SizingPolicy.factor (p : SizingPolicy) : UInt32 := p.multiplier.getD 1

/-- A node apart from the others, which is never attacked. -/
structure BootnodeConfig where
  execution : ExecutionKind
  consensus : ConsensusKind
  deriving DecidableEq, Repr

/-- The fault of a planner document, in words that are not yet checked. -/
structure FaultSection where
  faultType : String
  targetClient : String
  waitBeforeFirstTest : Option Duration
  dimensions : List Dimension
  targeting : List String
  attackSizes : List String
  deriving Repr

/-- A planner document. -/
structure PlannerConfig where
  execution : List ExecutionVersion
  consensus : List ConsensusVersion
  sizing : SizingPolicy
  params : GenesisParams
  bootnode : Option BootnodeConfig
  /-- Seed of the random choice of padding nodes. -/
  seed : Option UInt64
  package : String
  kubernetesNamespace : String
  fault : FaultSection
  deriving Repr

namespace PlannerConfig

/-- Every execution client with its fields filled, in declaration order. -/
def executionCatalog (d : ClientDefaults) (c : PlannerConfig) : List ExecutionClient :=
  c.execution.map (·.client d)

/-- Every consensus client with its fields filled, in declaration order. -/
def consensusCatalog (d : ClientDefaults) (c : PlannerConfig) :
    Except Failure (List ConsensusClient) :=
  c.consensus.mapM (·.client d)

/-- Whether a version of a client is declared. -/
def declares (c : PlannerConfig) : ClientKind → Bool
  | .execution kind => c.execution.any fun v => v.kind == kind
  | .consensus kind => c.consensus.any fun v => v.kind == kind

/-- The first element that equals an earlier one. -/
def firstRepeat? {α : Type} [BEq α] : List α → List α → Option α
  | _, [] => none
  | seen, a :: rest => if seen.contains a then some a else firstRepeat? (a :: seen) rest

/-- Refuses two versions of one client. -/
def ensureUnique (c : PlannerConfig) : Except Failure Unit :=
  match firstRepeat? [] (c.execution.map (·.kind)) with
  | some kind => .error (.configuration (.declaredTwice "execution" kind.name))
  | none =>
    match firstRepeat? [] (c.consensus.map (·.kind)) with
    | some kind => .error (.configuration (.declaredTwice "consensus" kind.name))
    | none => .ok ()

end PlannerConfig
end DevnetChaos
