import DevnetChaos.Selector
import DevnetChaos.Topology

/-!
# Targets

What a fault should hit, in terms of roles, clients and nodes, and its resolution to label
requirements.  Resolution only reads the topology.

Main definitions:

- `TargetScope`, `TargetDescription`.
- `TargetDescription.display`: the description for people.
- `TargetDescription.resolve`: the selector, or why there is none.
-/

namespace DevnetChaos

/-- How much of a chosen node is hit. -/
inductive TargetScope where
  /-- Every service of the node. -/
  | wholeNode
  /-- The services of one client; that of a consensus client includes its sidecar. -/
  | client (kind : ClientKind)
  deriving DecidableEq, Repr

/-- What a fault should hit. -/
inductive TargetDescription where
  /-- Every service of a role. -/
  | role (role : Role)
  /-- Every service that runs a client. -/
  | clientKind (kind : ClientKind)
  /-- Nodes by index. -/
  | nodes (indices : List Nat) (scope : TargetScope)
  deriving DecidableEq, Repr

namespace TargetDescription

/-- The description for people. -/
def display : TargetDescription → String
  | role r => "all " ++ r.name ++ " clients"
  | clientKind kind => "all " ++ kind.name ++ " clients"
  | nodes indices scope =>
      let list := "node(s) #" ++ ", #".intercalate (indices.map toString)
      match scope with
      | .wholeNode => list
      | .client kind => kind.name ++ " on " ++ list

/-- The roles of a node that a scope covers. -/
def scopeRoles : TargetScope → List Role
  | .wholeNode => Role.all
  | .client (.execution _) => [.execution]
  | .client (.consensus _) => [.consensus, .validator]

/-- Whether a scope makes sense on a node: the scoped client runs there. -/
def scopeFits (n : Node) : TargetScope → Bool
  | .wholeNode => true
  | .client kind => n.runs kind

/-- The name of the client of a scope. -/
def scopeName : TargetScope → String
  | .wholeNode => ""
  | .client kind => kind.name

/-- The names of the services in scope on one node. -/
def nodeServices (t : Topology) (scope : TargetScope) (index : Nat) :
    Except Failure (List String) :=
  match t.node? index with
  | none => .error (.configuration (.nodeMissing index))
  | some n =>
      if scopeFits n scope then .ok ((scopeRoles scope).filterMap (t.serviceName? n))
      else .error (.configuration (.nodeDoesNotRun index (scopeName scope)))

/-- The names of the services in scope on the listed nodes, in the order of the list. -/
def listedServices (t : Topology) (scope : TargetScope) :
    List Nat → Except Failure (List String)
  | [] => .ok []
  | index :: rest => do
      let names ← nodeServices t scope index
      return names ++ (← listedServices t scope rest)

/-- The requirement that selects the pods of a target. -/
def requirement (t : Topology) : TargetDescription → Except Failure Requirement
  | role r => .ok ⟨serviceTypeLabel, .isIn, [r.serviceType]⟩
  | clientKind kind => .ok ⟨clientTypeLabel, .isIn, [kind.name]⟩
  | nodes indices scope =>
      if indices.isEmpty then .error (.configuration .targetNamesNoNodes)
      else (listedServices t scope indices).map .serviceIds

/-- The selector of a target in a topology. -/
def resolve (target : TargetDescription) (t : Topology) : Except Failure TargetSelector :=
  (target.requirement t).map fun r => ⟨target.display, [r]⟩

end TargetDescription
end DevnetChaos
