import DevnetChaos.Fault
import DevnetChaos.Network

/-!
# Samples

Ready-made networks, faults, tests and a planner document for trying the program out.
-/

namespace DevnetChaos
namespace Sample

/-- A planner document that exercises every stage of planning. -/
def plannerDocument : String := "
execution:
  - type: geth
  - type: besu
  - type: nethermind
consensus:
  - type: lighthouse
    has_sidecar: true
  - type: teku
    has_sidecar: true
  - type: prysm
    has_sidecar: true
target_network_topology:
  target_as_percent_of_network: 0.5
network_params:
  num_validator_keys_per_node: 32
kurtosis_package: github.com/ethpandaops/ethereum-package
kubernetes_namespace: kt-chaosnet
seed: 7
fault_config:
  fault_type: NetworkLatency
  target_client: geth
  fault_targeting_dimensions:
    - MatchingNode
    - MatchingClient
  fault_attack_size_dimensions:
    - AttackOneMatching
    - AttackAllMatching
  fault_config_dimensions:
    - delay: 500ms
      jitter: 100ms
      correlation: 50
      duration: 30s
"

/-- A network with one group for each entry, a validator beside every beacon node and 32 keys for
each node. -/
def network (groups : List (ExecutionKind × ConsensusKind × Nat)) : NetworkConfig :=
  .generated
    (groups.map fun (el, cl, count) =>
      { Participant.ofKinds el cl with count := count, separateValidator := true })
    { GenesisParams.unset with keysPerNode := 32 }

/-- Three nodes with different clients. -/
def threeNodes : NetworkConfig :=
  network [(.geth, .teku, 1), (.besu, .lighthouse, 1), (.nethermind, .prysm, 1)]

/-- A restart of the named pods. -/
def podRestart (pods : List String) : Fault := .podRestart [.serviceIds pods]

/-- A quarter of a second of latency on the named pods, for a minute. -/
def networkLatency (pods : List String) : Fault :=
  .networkLatency [.serviceIds pods] (.ofMillis 250) (.ofMillis 50) 25 (.ofSeconds 60)

/-- A test that injects faults one after another and waits for all of them. -/
def test (name : String) (faults : List Fault) (health : HealthConfig) : SuiteTest where
  name := name
  steps := faults.map (fun fault => .injectFault ("inject " ++ fault.kind) fault)
    ++ [PlanStep.awaitAll]
  health := health

end Sample
end DevnetChaos
