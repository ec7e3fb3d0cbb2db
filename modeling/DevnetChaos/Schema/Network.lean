import DevnetChaos.Schema.Client
import DevnetChaos.Topology

/-!
# Documents of networks

How participants, genesis parameters, network parameters and nodes are written and read.
-/

namespace DevnetChaos

/-- The entry for a number of 64 bits. -/
def word64Entry (key : String) (value : Option UInt64) : List (String × Tree) :=
  Tree.optional key (fun n => .nat n.toNat) value

namespace Participant

/-- A group of nodes. -/
def toTree (p : Participant) : Tree :=
  .map ([("el_type", p.execution.toTree)] ++ textEntry "el_image" p.executionImage
    ++ p.executionLabels.entry "el_extra_labels"
    ++ word32Entry "el_min_cpu" p.executionCpu ++ word32Entry "el_min_mem" p.executionMemory
    ++ [("cl_type", p.consensus.toTree)] ++ textEntry "cl_image" p.consensusImage
    ++ p.consensusLabels.entry "cl_extra_labels"
    ++ word32Entry "cl_min_cpu" p.consensusCpu ++ word32Entry "cl_min_mem" p.consensusMemory
    ++ Tree.entryUnless (!p.separateValidator) "use_separate_vc" (.bool p.separateValidator)
    ++ Tree.optional "vc_type" ConsensusKind.toTree p.validator
    ++ textEntry "vc_image" p.validatorImage ++ p.validatorLabels.entry "vc_extra_labels"
    ++ word32Entry "vc_min_cpu" p.validatorCpu ++ word32Entry "vc_min_mem" p.validatorMemory
    ++ [("count", .nat p.count)])

/-- Reads a group of nodes. -/
def decode : Decoder Participant := .record (.ofKinds .geth .teku) [
  .required "el_type" ExecutionKind.decode fun p execution => { p with execution },
  .optional "el_image" .text fun p executionImage => { p with executionImage },
  .withDefault "el_extra_labels" Labels.decode fun p executionLabels => { p with executionLabels },
  .optional "el_min_cpu" .word32 fun p executionCpu => { p with executionCpu },
  .optional "el_min_mem" .word32 fun p executionMemory => { p with executionMemory },
  .required "cl_type" ConsensusKind.decode fun p consensus => { p with consensus },
  .optional "cl_image" .text fun p consensusImage => { p with consensusImage },
  .withDefault "cl_extra_labels" Labels.decode fun p consensusLabels => { p with consensusLabels },
  .optional "cl_min_cpu" .word32 fun p consensusCpu => { p with consensusCpu },
  .optional "cl_min_mem" .word32 fun p consensusMemory => { p with consensusMemory },
  .withDefault "use_separate_vc" .bool fun p separateValidator => { p with separateValidator },
  .optional "vc_type" ConsensusKind.decode fun p validator => { p with validator },
  .optional "vc_image" .text fun p validatorImage => { p with validatorImage },
  .withDefault "vc_extra_labels" Labels.decode fun p validatorLabels => { p with validatorLabels },
  .optional "vc_min_cpu" .word32 fun p validatorCpu => { p with validatorCpu },
  .optional "vc_min_mem" .word32 fun p validatorMemory => { p with validatorMemory },
  .withDefault "count" .index fun p count => { p with count }]

end Participant

namespace GenesisParams

/-- Parameters of the chain. -/
def toTree (p : GenesisParams) : Tree :=
  .map (textEntry "preregistered_validator_keys_mnemonic" p.mnemonic
    ++ word64Entry "preregistered_validator_count" p.preregisteredValidators
    ++ word64Entry "network_id" p.networkId
    ++ textEntry "deposit_contract_address" p.depositContract
    ++ word64Entry "seconds_per_slot" p.secondsPerSlot
    ++ word64Entry "genesis_delay" p.genesisDelay
    ++ word64Entry "max_churn" p.maxChurn
    ++ word64Entry "ejection_balance" p.ejectionBalance
    ++ word64Entry "eth1_follow_distance" p.followDistance
    ++ word64Entry "capella_fork_epoch" p.capellaEpoch
    ++ word64Entry "deneb_fork_epoch" p.denebEpoch
    ++ word64Entry "electra_fork_epoch" p.electraEpoch
    ++ [("num_validator_keys_per_node", .nat p.keysPerNode.toNat)])

/-- Reads parameters of the chain. -/
def decode : Decoder GenesisParams := .record .unset [
  .optional "preregistered_validator_keys_mnemonic" .text fun p mnemonic => { p with mnemonic },
  .optional "preregistered_validator_count" .word64
    fun p preregisteredValidators => { p with preregisteredValidators },
  .optional "network_id" .word64 fun p networkId => { p with networkId },
  .optional "deposit_contract_address" .text
    fun p depositContract => { p with depositContract },
  .optional "seconds_per_slot" .word64 fun p secondsPerSlot => { p with secondsPerSlot },
  .optional "genesis_delay" .word64 fun p genesisDelay => { p with genesisDelay },
  .optional "max_churn" .word64 fun p maxChurn => { p with maxChurn },
  .optional "ejection_balance" .word64 fun p ejectionBalance => { p with ejectionBalance },
  .optional "eth1_follow_distance" .word64 fun p followDistance => { p with followDistance },
  .optional "capella_fork_epoch" .word64 fun p capellaEpoch => { p with capellaEpoch },
  .optional "deneb_fork_epoch" .word64 fun p denebEpoch => { p with denebEpoch },
  .optional "electra_fork_epoch" .word64 fun p electraEpoch => { p with electraEpoch },
  .withDefault "num_validator_keys_per_node" .word32 fun p keysPerNode => { p with keysPerNode }]

end GenesisParams

namespace NetworkConfig

/-- Network parameters. -/
def toTree (n : NetworkConfig) : Tree :=
  .map [("participants", .list (n.participants.map Participant.toTree)),
    ("network_params", n.params.toTree),
    ("additional_services", .texts n.additionalServices),
    ("parallel_keystore_generation", .bool n.parallelKeystores),
    ("persistent", .bool n.persistent),
    ("disable_peer_scoring", .bool n.disablePeerScoring)]

/-- Reads network parameters. -/
def decode : Decoder NetworkConfig := .record .empty [
  .required "participants" (.list Participant.decode)
    fun n participants => { n with participants },
  .withDefault "network_params" GenesisParams.decode fun n params => { n with params },
  .withDefault "additional_services" (.list .text)
    fun n additionalServices => { n with additionalServices },
  .withDefault "parallel_keystore_generation" .bool
    fun n parallelKeystores => { n with parallelKeystores },
  .withDefault "persistent" .bool fun n persistent => { n with persistent },
  .withDefault "disable_peer_scoring" .bool
    fun n disablePeerScoring => { n with disablePeerScoring }]

end NetworkConfig

namespace Node

/-- A node. -/
def toTree (n : Node) : Tree :=
  .map [("index", .nat n.index), ("execution", n.execution.toTree),
    ("consensus", n.consensus.toTree), ("consensus_votes", .nat n.votes.toNat)]

/-- Reads a node. -/
def decode : Decoder Node := .record ⟨0, .ofKind .geth, .ofKind .teku, 0⟩ [
  .required "index" .index fun n index => { n with index },
  .required "execution" ExecutionClient.decode fun n execution => { n with execution },
  .required "consensus" ConsensusClient.decode fun n consensus => { n with consensus },
  .withDefault "consensus_votes" .word32 fun n votes => { n with votes }]

end Node
end DevnetChaos
