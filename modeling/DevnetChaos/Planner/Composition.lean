import DevnetChaos.Planner.Config
import DevnetChaos.Random.Source
import DevnetChaos.Topology

/-!
# Composition of nodes

The target client is paired with every client of the other side, and the network is padded with
nodes that do not run the target client.

Main definitions:

- `Catalog`: the declared clients with their fields filled.
- `Catalog.pair`: the nodes that run the target client.
- `Catalog.pad`: nodes that do not, chosen at random.
-/

namespace DevnetChaos

/-- The declared clients of both sides, with their fields filled, in declaration order. -/
structure Catalog where
  execution : List ExecutionClient
  consensus : List ConsensusClient
  deriving DecidableEq, Repr

namespace Catalog

/-- Number of clients on the other side of the target. -/
def counterparts (c : Catalog) : ClientKind → Nat
  | .execution _ => c.consensus.length
  | .consensus _ => c.execution.length

/-- The declared execution client of a kind. -/
def execution? (c : Catalog) (kind : ExecutionKind) : Option ExecutionClient :=
  c.execution.find? fun el => el.kind == kind

/-- The declared consensus client of a kind. -/
def consensus? (c : Catalog) (kind : ConsensusKind) : Option ConsensusClient :=
  c.consensus.find? fun cl => cl.kind == kind

/-- The pairs of the target client with every client of the other side, in declaration order. -/
def targetPairs (c : Catalog) (target : ClientKind) :
    Except Failure (List (ExecutionClient × ConsensusClient)) :=
  match target with
  | .execution kind =>
      match c.execution? kind with
      | some el => .ok (c.consensus.map fun cl => (el, cl))
      | none => .error (.configuration (.targetNotInCatalog target.name))
  | .consensus kind =>
      match c.consensus? kind with
      | some cl => .ok (c.execution.map fun el => (el, cl))
      | none => .error (.configuration (.targetNotInCatalog target.name))

/-- Nodes for pairs of clients, with indices that count on from `first`. -/
def nodesOf (votes : UInt32) : Nat → List (ExecutionClient × ConsensusClient) → List Node
  | _, [] => []
  | first, (el, cl) :: rest => ⟨first, el, cl, votes⟩ :: nodesOf votes (first + 1) rest

/-- The nodes that run the target client: each pair `multiplier` times in a row. -/
def pair (c : Catalog) (target : ClientKind) (multiplier first : Nat) (votes : UInt32) :
    Except Failure (List Node) :=
  (c.targetPairs target).map fun pairs =>
    nodesOf votes first (pairs.flatMap fun p => List.replicate multiplier p)

/-- The execution clients that a padding node may run. -/
def eligibleExecution (c : Catalog) (target : ClientKind) : List ExecutionClient :=
  c.execution.filter fun el => ClientKind.execution el.kind != target

/-- The consensus clients that a padding node may run. -/
def eligibleConsensus (c : Catalog) (target : ClientKind) : List ConsensusClient :=
  c.consensus.filter fun cl => ClientKind.consensus cl.kind != target

/-- Chooses pairs of clients, the execution client of each pair first. -/
def drawPairs (els : List ExecutionClient) (cls : List ConsensusClient) :
    Nat → Random.Source → Option (List (ExecutionClient × ConsensusClient)) × Random.Source
  | 0, s => (some [], s)
  | count + 1, s =>
      let (el, s) := s.choose els
      let (cl, s) := s.choose cls
      match el, cl with
      | some el, some cl =>
          let (rest, s) := drawPairs els cls count s
          (rest.map ((el, cl) :: ·), s)
      | _, _ => (none, s)

/-- Nodes that do not run the target client.  The source goes on where it was left. -/
def pad (c : Catalog) (target : ClientKind) (count first : Nat) (votes : UInt32)
    (source : Random.Source) : Except Failure (List Node) × Random.Source :=
  let els := c.eligibleExecution target
  let cls := c.eligibleConsensus target
  if count = 0 then (.ok [], source)
  else if els.isEmpty || cls.isEmpty then
    (.error (.configuration (.cannotPad count target.role.name target.name)), source)
  else
    match drawPairs els cls count source with
    | (some pairs, source) => (.ok (nodesOf votes first pairs), source)
    | (none, source) =>
        (.error (.internal "eligible client set became empty while padding"), source)

end Catalog
end DevnetChaos
