import DevnetChaos.Experiment
import DevnetChaos.Planner.Composition
import DevnetChaos.Planner.Size
import DevnetChaos.Planner.Suite

/-!
# Plans

From a planner document to a network and the tests to run on it: the words are checked, the
parameters read, the network composed and the suite compiled.

Main definitions:

- `PlannerConfig.faultPlan`: the fault section with its words checked.
- `PlannerConfig.compose`: the topology of the network, and the index of the bootnode.
- `PlannerConfig.plan`: the whole plan.
- `Plan.experiment`: the experiment that runs a plan in a fresh enclave.
-/

namespace DevnetChaos

/-- A composed network and the tests to run on it. -/
structure Plan where
  topology : Topology
  network : NetworkConfig
  tests : List SuiteTest
  bootnode : Option Nat
  waitBeforeFirstTest : Option Duration
  package : String
  kubernetesNamespace : String
  deriving DecidableEq, Repr

/-- The experiment that runs a plan; a generated network always starts a new devnet. -/
def Plan.experiment (p : Plan) (enclave : String) : Experiment where
  enclave := enclave
  enclaveNamespace := p.kubernetesNamespace
  package := p.package
  startNewDevnet := true
  waitBeforeInjection := p.waitBeforeFirstTest
  network := p.network
  tests := p.tests

/-- The index of the bootnode where one is declared. -/
def bootnodeIndex : Nat := 1

namespace PlannerConfig

/-- Checks the words of the fault section, and that the target client is declared. -/
def faultPlan (c : PlannerConfig) : Except Failure FaultPlan := do
  let faultType ← FaultType.ofName c.fault.faultType
  if c.fault.targeting.isEmpty then throw (.configuration .noTargetingDimension)
  let targeting ← c.fault.targeting.mapM Targeting.ofName
  if c.fault.attackSizes.isEmpty then throw (.configuration .noAttackSize)
  let attackSizes ← c.fault.attackSizes.mapM AttackSize.ofName
  let target ← ClientKind.ofName c.fault.targetClient
  if !c.declares target then
    throw (.configuration (.noVersion target.role.name target.name))
  return { faultType, target, targeting, attackSizes }

/-- The declared clients with their fields filled. -/
def catalog (d : ClientDefaults) (c : PlannerConfig) : Except Failure Catalog := do
  c.ensureUnique
  let consensus ← c.consensusCatalog d
  return ⟨c.executionCatalog d, consensus⟩

/-- The bootnode, if one is declared. -/
def bootnodeNodes (c : PlannerConfig) (catalog : Catalog) : Except Failure (List Node) :=
  match c.bootnode with
  | none => .ok []
  | some boot => do
      let some el := catalog.execution? boot.execution
        | throw (.configuration (.bootnodeUndeclared boot.execution.name))
      let some cl := catalog.consensus? boot.consensus
        | throw (.configuration (.bootnodeUndeclared boot.consensus.name))
      return [⟨bootnodeIndex, el, cl, c.params.keysPerNode⟩]

/-- The part of a network that no chance has a share in: the bootnode, the size and the nodes with
the target client. -/
structure Skeleton where
  catalog : Catalog
  bootnode : List Node
  size : NetworkSize
  paired : List Node

/-- The index after the bootnode. -/
def Skeleton.firstIndex (s : Skeleton) : Nat := s.bootnode.length + 1

/-- Checks, sizes and pairs. -/
def skeleton (d : ClientDefaults) (c : PlannerConfig) (target : ClientKind) :
    Except Failure Skeleton := do
  let catalog ← c.catalog d
  let bootnode ← c.bootnodeNodes catalog
  let size ← c.sizing.size (catalog.counterparts target)
  let paired ← catalog.pair target c.sizing.factor.toNat (bootnode.length + 1) c.params.keysPerNode
  return { catalog, bootnode, size, paired }

/-- The topology of the network and the index of the bootnode.  The source of random words goes on
where it was left. -/
def compose (d : ClientDefaults) (c : PlannerConfig) (target : ClientKind)
    (source : Random.Source) : Except Failure (Topology × Option Nat) × Random.Source :=
  match c.skeleton d target with
  | .error failure => (.error failure, source)
  | .ok s =>
      match s.catalog.pad target (s.size.target - s.size.base)
          (s.firstIndex + s.size.base) c.params.keysPerNode source with
      | (.error failure, source) => (.error failure, source)
      | (.ok padding, source) =>
          (.ok (.ofNodes (s.bootnode ++ s.paired ++ padding),
            c.bootnode.map fun _ => bootnodeIndex), source)

/-- The whole plan. -/
def plan (d : ClientDefaults) (c : PlannerConfig) (source : Random.Source) : Input Plan := do
  let fault ← Input.ofExcept c.faultPlan
  let dimensions ← parseDimensions fault.faultType c.fault.dimensions
  let (topology, bootnode) ← Input.ofExcept (c.compose d fault.target source).1
  let tests ← Input.ofExcept (fault.compile d dimensions topology bootnode)
  return {
    topology
    network := .generated topology.participants c.params
    tests
    bootnode
    waitBeforeFirstTest := c.fault.waitBeforeFirstTest
    package := c.package
    kubernetesNamespace := c.kubernetesNamespace }

/-- The source of random words that a document asks for: that of its seed, or else one that is
drawn from outside. -/
def source (c : PlannerConfig) (entropy : Random.Source) : Random.Source :=
  (c.seed.map Random.Source.ofSeed).getD entropy

end PlannerConfig
end DevnetChaos
