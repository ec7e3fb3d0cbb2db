import DevnetChaos.Network
import DevnetChaos.ServiceName
import DevnetChaos.Sorting

/-!
# Topologies

The ordered list of the nodes of a devnet.  A topology is declared by network parameters, put
together by the planner, or read off the services of a running devnet.  Topologies are compared by
what all three know: index, execution client and consensus client of each node.

Main definitions:

- `Node`, `Fingerprint`, `Topology`.
- `Topology.ofNodes`: nodes in any order, sorted by index.
- `Topology.ofNetwork`: the nodes that network parameters declare.
- `Topology.agrees`: the comparison of two topologies.
- `Topology.serviceNames`: the names of the services of a node.
- `Topology.participants`: the network parameters that rebuild a topology.

Main results:

- `ofNodes_perm`: sorting neither loses nor adds a node.
-/

namespace DevnetChaos

/-- A pair of clients, and a validator if the consensus client has one. -/
structure Node where
  index : Nat
  execution : ExecutionClient
  consensus : ConsensusClient
  /-- Validator keys held by the node. -/
  votes : UInt32
  deriving DecidableEq, Repr

/-- The part of a node that topologies are compared by. -/
structure Fingerprint where
  index : Nat
  execution : ExecutionKind
  consensus : ConsensusKind
  deriving DecidableEq, Repr

/-- The text of a fingerprint, such as `#1 geth/teku`. -/
def Fingerprint.display (f : Fingerprint) : String :=
  "#" ++ toString f.index ++ " " ++ f.execution.name ++ "/" ++ f.consensus.name

namespace Node

/-- The part of a node that topologies are compared by. -/
def fingerprint (n : Node) : Fingerprint := ⟨n.index, n.execution.kind, n.consensus.kind⟩

/-- Whether a node runs a client of the given name. -/
def hasClient (n : Node) (client : String) : Bool :=
  n.execution.kind.name == client || n.consensus.kind.name == client

/-- Whether a node runs a client. -/
def runs (n : Node) : ClientKind → Bool
  | .execution kind => n.execution.kind == kind
  | .consensus kind => n.consensus.kind == kind

/-- The service of a node in a role.  Only a node with a sidecar has one in the validator role. -/
def service? (n : Node) (role : Role) : Option ServiceName :=
  match role with
  | .execution | .consensus => some ⟨role, n.index, n.execution.kind, n.consensus.kind⟩
  | .validator => n.consensus.validatorKind?.map fun kind => ⟨role, n.index, n.execution.kind, kind⟩

end Node

/-- The nodes of a devnet in order of their indices. -/
structure Topology where
  nodes : List Node
  deriving DecidableEq, Repr

namespace Topology

/-! ## Building a topology -/

/-- The topology of nodes given in any order. -/
def ofNodes (nodes : List Node) : Topology := ⟨sortOn (·.index) nodes⟩

/-- Sorting neither loses nor adds a node. -/
theorem ofNodes_perm (nodes : List Node) : (ofNodes nodes).nodes.Perm nodes :=
  sortOn_perm _ nodes

/-- The nodes of one group, with indices that count on from `first`. -/
def groupNodes (el : ExecutionClient) (cl : ConsensusClient) (votes : UInt32) (first : Nat) :
    Nat → List Node
  | 0 => []
  | count + 1 => ⟨first, el, cl, votes⟩ :: groupNodes el cl votes (first + 1) count

/-- The nodes of groups in declaration order, with indices that count on from `first`.  A group
without nodes declares nothing, not even clients that could be refused. -/
def participantNodes (d : ClientDefaults) (votes : UInt32) :
    Nat → List Participant → Except Failure (List Node)
  | _, [] => .ok []
  | first, p :: rest =>
      if p.count = 0 then participantNodes d votes first rest
      else do
        let (el, cl) ← p.clients d
        let later ← participantNodes d votes (first + p.count) rest
        return groupNodes el cl votes first p.count ++ later

/-- The nodes that network parameters declare, numbered from 1, with their clients filled. -/
def ofNetwork (d : ClientDefaults) (config : NetworkConfig) : Except Failure Topology := do
  let nodes ← participantNodes d config.params.keysPerNode 1 config.participants
  return ⟨nodes⟩

/-! ## Looking at a topology -/

/-- Number of nodes. -/
def size (t : Topology) : Nat := t.nodes.length

/-- The node of an index. -/
def node? (t : Topology) (index : Nat) : Option Node :=
  t.nodes.find? fun n => n.index == index

/-- What the nodes are compared by, in order. -/
def fingerprints (t : Topology) : List Fingerprint := t.nodes.map Node.fingerprint

/-- Whether two topologies have the same number of nodes and each node's fingerprint occurs in the
other one. -/
def agrees (a b : Topology) : Bool :=
  a.size == b.size && a.fingerprints.all b.fingerprints.contains
    && b.fingerprints.all a.fingerprints.contains

/-- The text of a topology, such as `[#1 geth/teku, #2 reth/prysm]`. -/
def display (t : Topology) : String :=
  "[" ++ ", ".intercalate (t.fingerprints.map Fingerprint.display) ++ "]"

/-- The name of the service of a node in a role, padded for this network. -/
def serviceName? (t : Topology) (n : Node) (role : Role) : Option String :=
  (n.service? role).map fun s => s.render t.size

/-- The names of all services of a node, in the order of their roles. -/
def serviceNames (t : Topology) (n : Node) : List String :=
  Role.all.filterMap (t.serviceName? n)

/-- One group for each node, from which the topology is built again. -/
def participants (t : Topology) : List Participant :=
  t.nodes.map fun n => .ofClients n.execution n.consensus

end Topology
end DevnetChaos
