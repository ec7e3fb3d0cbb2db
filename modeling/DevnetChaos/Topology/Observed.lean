import DevnetChaos.Topology

/-!
# Observed topologies

A topology read off the names of the services that a running devnet reports.  Each index needs
exactly one execution and one consensus service, and a validator service attaches a sidecar to its
index.  Images and resources are not reported, so they stay open.

Main definitions:

- `readServices`: reads names one by one and refuses a second service of one role and index.
- `Topology.ofServices`: the topology of a list of names.
-/

namespace DevnetChaos

/-- Whether two services play one role at one index. -/
def ServiceName.sameSlot (a b : ServiceName) : Bool := a.role == b.role && a.index == b.index

/-- Reads names in order, given the services read before them.  The first name that does not parse
or takes a slot that is taken decides the failure. -/
def readServices : List ServiceName → List String → Except Failure (List ServiceName)
  | seen, [] => .ok seen
  | seen, name :: rest => do
      let service ← ServiceName.parse name
      if seen.any service.sameSlot then
        throw (.inconsistentTopology (.duplicateService service.role.name service.index))
      readServices (seen ++ [service]) rest

namespace Topology

/-- The services of a role in order of their indices. -/
def servicesOf (role : Role) (services : List ServiceName) : List ServiceName :=
  sortOn (·.index) (services.filter fun s => s.role == role)

/-- The service of an index among those of one role. -/
def serviceAt? (services : List ServiceName) (index : Nat) : Option ServiceName :=
  services.find? fun s => s.index == index

/-- The consensus client that a consensus and perhaps a validator service stand for. -/
def observedConsensus (cl : ServiceName) (vc : Option ServiceName) : ConsensusClient :=
  let client := ConsensusClient.ofKind cl.consensus
  match vc with
  | some vc => client.withSidecar (some vc.consensus)
  | none => client

/-- One node for each execution service. -/
def observedNodes (cls vcs : List ServiceName) : List ServiceName → Except Failure (List Node)
  | [] => .ok []
  | el :: rest => do
      let some cl := serviceAt? cls el.index
        | throw (.inconsistentTopology (.consensusMissing el.execution.name el.index))
      let node : Node :=
        ⟨el.index, .ofKind el.execution, observedConsensus cl (serviceAt? vcs el.index), 0⟩
      return node :: (← observedNodes cls vcs rest)

/-- The first service at an index without an execution service. -/
def orphan? (els services : List ServiceName) : Option ServiceName :=
  services.find? fun s => (serviceAt? els s.index).isNone

/-- The topology of services of which no two share role and index. -/
def reconcile (services : List ServiceName) : Except Failure Topology := do
  let els := servicesOf .execution services
  let cls := servicesOf .consensus services
  let vcs := servicesOf .validator services
  let nodes ← observedNodes cls vcs els
  if let some cl := orphan? els cls then
    throw (.inconsistentTopology (.consensusOrphaned cl.index))
  if let some vc := orphan? els vcs then
    throw (.inconsistentTopology (.validatorOrphaned vc.index))
  return ⟨nodes⟩

/-- The topology of the services that a running devnet reports. -/
def ofServices (names : List String) : Except Failure Topology := do
  let services ← readServices [] names
  reconcile services

end Topology
end DevnetChaos
