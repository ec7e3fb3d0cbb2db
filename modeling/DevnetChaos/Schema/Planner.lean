import DevnetChaos.Planner.Config
import DevnetChaos.Schema.Fault
import DevnetChaos.Schema.Network

/-!
# Planner documents in writing

How planner documents are written and read.
-/

namespace DevnetChaos

/-- The entry for a name of an implementation. -/
def consensusEntry (key : String) (value : Option ConsensusKind) : List (String × Tree) :=
  Tree.optional key ConsensusKind.toTree value

namespace Dimension

/-- One set of fault parameters, if everything in it has a tree. -/
def toTree? (d : Dimension) : Option Tree := (Value.toEntries? (d.entries.map named)).map .map
where
  named (e : String × Value) : Value × Value := (.text e.1, e.2)

/-- Reads one set of fault parameters, whose values may be anything. -/
def decode : Decoder Dimension := .textMap Place.taggedValue

end Dimension

namespace ExecutionVersion

/-- A version of an execution client. -/
def toTree (v : ExecutionVersion) : Tree :=
  .map ([("type", v.kind.toTree)] ++ textEntry "el_image" v.image)

/-- Reads a version of an execution client. -/
def decode : Decoder ExecutionVersion := .record ⟨.geth, none⟩ [
  .required "type" ExecutionKind.decode fun v kind => { v with kind },
  .optional "el_image" .text fun v image => { v with image }]

end ExecutionVersion

namespace ConsensusVersion

/-- A version of a consensus client. -/
def toTree (v : ConsensusVersion) : Tree :=
  .map ([("type", v.kind.toTree)] ++ textEntry "cl_image" v.image
    ++ consensusEntry "vc_type" v.validatorKind ++ textEntry "vc_image" v.validatorImage
    ++ Tree.optional "has_sidecar" .bool v.hasSidecar)

/-- Reads a version of a consensus client. -/
def decode : Decoder ConsensusVersion := .record ⟨.teku, none, none, none, none⟩ [
  .required "type" ConsensusKind.decode fun v kind => { v with kind },
  .optional "cl_image" .text fun v image => { v with image },
  .optional "vc_type" ConsensusKind.decode fun v validatorKind => { v with validatorKind },
  .optional "vc_image" .text fun v validatorImage => { v with validatorImage },
  .optional "has_sidecar" .bool fun v hasSidecar => { v with hasSidecar }]

end ConsensusVersion

namespace SizingPolicy

/-- A sizing policy. -/
def toTree (p : SizingPolicy) : Tree :=
  .map (word32Entry "target_node_multiplier" p.multiplier
    ++ Tree.optional "target_as_percent_of_network" .float p.share)

/-- Reads a sizing policy. -/
def decode : Decoder SizingPolicy := .record ⟨none, none⟩ [
  .optional "target_node_multiplier" .word32 fun p multiplier => { p with multiplier },
  .optional "target_as_percent_of_network" .float fun p share => { p with share }]

end SizingPolicy

namespace BootnodeConfig

/-- A bootnode. -/
def toTree (b : BootnodeConfig) : Tree :=
  .map [("execution", b.execution.toTree), ("consensus", b.consensus.toTree)]

/-- Reads a bootnode. -/
def decode : Decoder BootnodeConfig := .record ⟨.geth, .teku⟩ [
  .required "execution" ExecutionKind.decode fun b execution => { b with execution },
  .required "consensus" ConsensusKind.decode fun b consensus => { b with consensus }]

end BootnodeConfig

namespace FaultSection

/-- A fault section with nothing in it. -/
def empty : FaultSection := ⟨"", "", none, [], [], []⟩

/-- A fault section, if its dimensions have trees. -/
def toTree? (s : FaultSection) : Option Tree := do
  let dimensions ← s.dimensions.mapM Dimension.toTree?
  return .map ([("fault_type", .text s.faultType), ("target_client", .text s.targetClient)]
    ++ durationEntry "wait_before_first_test" s.waitBeforeFirstTest
    ++ [("fault_config_dimensions", .list dimensions),
      ("fault_targeting_dimensions", .texts s.targeting),
      ("fault_attack_size_dimensions", .texts s.attackSizes)])

/-- Reads a fault section. -/
def decode : Decoder FaultSection := .record empty [
  .required "fault_type" .text fun s faultType => { s with faultType },
  .required "target_client" .text fun s targetClient => { s with targetClient },
  .optional "wait_before_first_test" .duration
    fun s waitBeforeFirstTest => { s with waitBeforeFirstTest },
  .withDefault "fault_config_dimensions" (.list Dimension.decode)
    fun s dimensions => { s with dimensions },
  .withDefault "fault_targeting_dimensions" (.list .text) fun s targeting => { s with targeting },
  .withDefault "fault_attack_size_dimensions" (.list .text)
    fun s attackSizes => { s with attackSizes }]

end FaultSection

namespace PlannerConfig

/-- A planner document, if its dimensions have trees. -/
def toTree? (c : PlannerConfig) : Option Tree := do
  let fault ← c.fault.toTree?
  return .map ([("execution", .list (c.execution.map ExecutionVersion.toTree)),
      ("consensus", .list (c.consensus.map ConsensusVersion.toTree)),
      ("target_network_topology", c.sizing.toTree), ("network_params", c.params.toTree)]
    ++ Tree.optional "bootnode" BootnodeConfig.toTree c.bootnode
    ++ word64Entry "seed" c.seed
    ++ [("kurtosis_package", .text c.package),
      ("kubernetes_namespace", .text c.kubernetesNamespace), ("fault_config", fault)])

/-- Reads a planner document. -/
def decode : Decoder PlannerConfig :=
  .record ⟨[], [], ⟨none, none⟩, .unset, none, none, "", "", .empty⟩ [
    .required "execution" (.list ExecutionVersion.decode) fun c execution => { c with execution },
    .required "consensus" (.list ConsensusVersion.decode) fun c consensus => { c with consensus },
    .withDefault "target_network_topology" SizingPolicy.decode fun c sizing => { c with sizing },
    .withDefault "network_params" GenesisParams.decode fun c params => { c with params },
    .optional "bootnode" BootnodeConfig.decode fun c bootnode => { c with bootnode },
    .optional "seed" .word64 fun c seed => { c with seed },
    .withDefault "kurtosis_package" .text fun c package => { c with package },
    .withDefault "kubernetes_namespace" .text
      fun c kubernetesNamespace => { c with kubernetesNamespace },
    .required "fault_config" FaultSection.decode fun c fault => { c with fault }]

end PlannerConfig
end DevnetChaos
