import DevnetChaos.Planner.Parameters
import DevnetChaos.Target

/-!
# Compiled suites

Every combination of a parameter dimension, a way of targeting and an attack size becomes one test,
unless no number of nodes satisfies the attack size.

Main definitions:

- `injections`: the inject steps that aim a fault at targets.
- `Topology.attackable`: the nodes that can be attacked.
- `FaultPlan`: the fault section after its words are checked.
- `FaultPlan.compile`: the tests of all combinations.
-/

namespace DevnetChaos

/-! ## Inject steps -/

/-- The I/O fault on one pod; it needs the data directory of the pod's client. -/
def volumeInjection (d : ClientDefaults) (delay : Duration) (percent : UInt8)
    (duration : Duration) (pod : String) : Except Failure PlanStep := do
  let service ← ServiceName.parse pod
  let path := d.dataDirectory service.role service.client
  let fault := Fault.ioLatency [.serviceIds [pod]] path delay percent duration
  return .injectFault ("inject I/O latency on " ++ pod) fault

/-- The fault that hits a selector. -/
def FaultParams.fault (selector : List Requirement) : FaultParams → Fault
  | .clockSkew skew duration => .clockSkew selector skew duration
  | .restartFailures => .podRestart selector
  | .ioLatency delay percent duration => .ioLatency selector "" delay percent duration
  | .networkLatency delay jitter duration correlation =>
      .networkLatency selector delay jitter correlation duration
  | .packetDrop percent direction duration => .packetDrop selector percent direction duration

/-- The inject steps for one target: one for each pod with I/O latency, one altogether
otherwise. -/
def injectionsFor (d : ClientDefaults) (params : FaultParams) (target : TargetSelector) :
    Except Failure (List PlanStep) :=
  match params with
  | .ioLatency delay percent duration => do
      ensureServiceIds "I/O latency" target.requirements
      let pods := target.requirements.flatMap (·.values)
      pods.mapM (volumeInjection d delay percent duration)
  | other =>
      let fault := other.fault target.requirements
      .ok [.injectFault
        ("inject " ++ fault.kind ++ " (" ++ params.display ++ ") on " ++ target.description) fault]

/-- The inject steps for all targets. -/
def injections (d : ClientDefaults) (params : FaultParams) (targets : List TargetSelector) :
    Except Failure (List PlanStep) := do
  let steps ← targets.mapM (injectionsFor d params)
  return steps.flatten

/-! ## Compilation -/

/-- The indices of the nodes that run the target client and are not the bootnode. -/
def Topology.attackable (t : Topology) (target : ClientKind) (bootnode : Option Nat) : List Nat :=
  (t.nodes.filter fun n => some n.index != bootnode && n.runs target).map (·.index)

/-- The fault section of a planner document after its words are checked. -/
structure FaultPlan where
  faultType : FaultType
  target : ClientKind
  targeting : List Targeting
  attackSizes : List AttackSize
  deriving DecidableEq, Repr

/-- One combination to compile. -/
structure Combination where
  dimension : ParamDimension
  targeting : Targeting
  size : AttackSize
  deriving DecidableEq, Repr

namespace FaultPlan

/-- All combinations: by dimension, then by targeting, then by size. -/
def combinations (plan : FaultPlan) (dimensions : List ParamDimension) : List Combination :=
  dimensions.flatMap fun dimension =>
    plan.targeting.flatMap fun targeting =>
      plan.attackSizes.map fun size => ⟨dimension, targeting, size⟩

/-- The scope on a chosen node. -/
def scope (plan : FaultPlan) : Targeting → TargetScope
  | .matchingNode => .wholeNode
  | .matchingClient => .client plan.target

/-- The name of the test of a combination. -/
def testName (plan : FaultPlan) (c : Combination) : String :=
  plan.faultType.name ++ " " ++ plan.target.name ++ " " ++ c.targeting.name ++ " " ++ c.size.name
    ++ " (" ++ c.dimension.params.display ++ ")"

/-- The test of a combination on chosen nodes. -/
def compileTest (plan : FaultPlan) (d : ClientDefaults) (t : Topology) (c : Combination)
    (nodes : List Nat) : Except Failure SuiteTest := do
  let target ← (TargetDescription.nodes nodes (plan.scope c.targeting)).resolve t
  let steps ← injections d c.dimension.params [target]
  return {
    name := plan.testName c
    steps := steps ++ [PlanStep.awaitAll]
    health := .on c.dimension.gracePeriod }

/-- The tests of the combinations whose attack size has a count of nodes; the nodes are the first
of the candidates. -/
def compileAll (plan : FaultPlan) (d : ClientDefaults) (t : Topology) (candidates : List Nat) :
    List Combination → Except Failure (List SuiteTest)
  | [] => .ok []
  | c :: rest =>
      match c.size.nodeCount candidates.length with
      | none => compileAll plan d t candidates rest
      | some count => do
          let test ← plan.compileTest d t c (candidates.take count)
          return test :: (← compileAll plan d t candidates rest)

/-- The tests of all combinations; a plan without any is refused. -/
def compile (plan : FaultPlan) (d : ClientDefaults) (dimensions : List ParamDimension)
    (t : Topology) (bootnode : Option Nat) : Except Failure (List SuiteTest) := do
  let candidates := t.attackable plan.target bootnode
  let tests ← plan.compileAll d t candidates (plan.combinations dimensions)
  if tests.isEmpty then
    throw (.configuration
      (.nothingCompiled plan.faultType.name plan.target.name candidates.length))
  return tests

end FaultPlan
end DevnetChaos
