import DevnetChaos.Platform
import DevnetChaos.Selector
import DevnetChaos.Topology

/-!
# A simulated cluster

Pods with labels and phases, kept by name.  Listings are in the order of the names.

Main definitions:

- `Cluster`: the pods.
- `addPod`, `addTopology`, `remove`, `setPhase`, `setPhaseMatching`: what changes them.
- `labelled`, `pod?`: what can be asked.

Main results:

- `pod?_addPod`, `pod?_remove`: what is found after a change.
-/

namespace DevnetChaos

/-- Labels and phase of a simulated pod. -/
structure SimulatedPod where
  labels : Labels
  phase : PodPhase
  deriving DecidableEq, Repr

/-- The pods of a cluster by name. -/
structure Cluster where
  pods : TextMap SimulatedPod
  deriving DecidableEq, Repr

namespace Cluster

/-- A cluster without pods. -/
def empty : Cluster := ⟨.empty⟩

/-! ## Questions -/

/-- The pod of a name. -/
def pod? (c : Cluster) (name : String) : Option PodInfo :=
  (c.pods.get? name).map fun p => ⟨name, p.labels, p.phase⟩

/-- The names of all pods. -/
def names (c : Cluster) : List String := c.pods.keys

/-- The names of the pods that have a value at a label. -/
def labelled (c : Cluster) (key value : String) : List String :=
  (c.pods.toList.filter fun e => e.2.labels.get? key == some value).map Prod.fst

/-- Names and phases of all pods. -/
def phases (c : Cluster) : List (String × PodPhase) := c.pods.toList.map fun e => (e.1, e.2.phase)

/-- The number of pods. -/
def size (c : Cluster) : Nat := c.pods.size

/-! ## Changes -/

/-- Adds a pod, in place of any of that name.  Its service id is its name unless the labels say
otherwise. -/
def addPod (c : Cluster) (name : String) (labels : Labels) (phase : PodPhase) : Cluster :=
  ⟨c.pods.insert name ⟨labels.insertNew serviceIdLabel name, phase⟩⟩

/-- The labels that a node declares for its service in a role. -/
def declaredLabels (n : Node) : Role → Labels
  | .execution => n.execution.labels
  | .consensus => n.consensus.labels
  | .validator => (n.consensus.validator.map (·.labels)).getD .empty

/-- Adds a running pod for the service of a node in a role, if it has one. -/
def addService (t : Topology) (n : Node) (c : Cluster) (role : Role) : Cluster :=
  match t.serviceName? n role with
  | none => c
  | some name =>
      c.addPod name ((declaredLabels n role).insertNew serviceTypeLabel role.serviceType) .running

/-- Adds a running pod for every service of every node. -/
def addTopology (c : Cluster) (t : Topology) : Cluster :=
  t.nodes.foldl (fun c n => Role.all.foldl (addService t n) c) c

/-- Takes a pod out. -/
def remove (c : Cluster) (name : String) : Cluster := ⟨c.pods.erase name⟩

/-- Takes pods out. -/
def removeAll (c : Cluster) (names : List String) : Cluster := names.foldl remove c

/-- Gives a pod a phase, if it exists. -/
def setPhase (c : Cluster) (name : String) (phase : PodPhase) : Cluster :=
  match c.pods.get? name with
  | some p => ⟨c.pods.insert name { p with phase := phase }⟩
  | none => c

/-- Whether a pod satisfies every requirement; an empty list selects every pod. -/
def selected (requirements : List Requirement) (labels : Labels) : Bool :=
  requirements.all fun r => r.accepts labels

/-- Gives every selected pod a phase. -/
def setPhaseMatching (c : Cluster) (requirements : List Requirement) (phase : PodPhase) : Cluster :=
  ⟨c.pods.mapValues fun _ p => if selected requirements p.labels then { p with phase } else p⟩

/-- The number of selected pods. -/
def countSelected (c : Cluster) (requirements : List Requirement) : Nat :=
  (c.pods.toList.filter fun e => selected requirements e.2.labels).length

/-! ## What is found after a change -/

/-- A pod that was added is found under its name, and every other pod is as before. -/
theorem pod?_addPod (c : Cluster) (name other : String) (labels : Labels) (phase : PodPhase) :
    (c.addPod name labels phase).pod? other =
      if other = name then some ⟨name, labels.insertNew serviceIdLabel name, phase⟩
      else c.pod? other := by
  simp only [pod?, addPod, TextMap.get?_insert]
  split
  · next h => subst h; rfl
  · rfl

/-- A pod that was taken out is not found, and every other pod is as before. -/
theorem pod?_remove (c : Cluster) (name other : String) :
    (c.remove name).pod? other = if other = name then none else c.pod? other := by
  simp only [pod?, remove, TextMap.get?_erase]
  split <;> rfl

end Cluster
end DevnetChaos
