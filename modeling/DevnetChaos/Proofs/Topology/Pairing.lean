import DevnetChaos.Proofs.Topology.Reconciled

/-!
# Names and the nodes that they are read as

The name of a service states the client that the service runs and the one that it is paired with.
A topology that is read off names takes from each name the client that its service runs, and never
compares the other one.  So the services of its nodes are those that the names stand for only if the
names at one index state the same pairing.

Main definitions:

- `ServiceName.RunsOn`: the client of a service is that of a node.
- `Topology.Restates`: the nodes of a topology have the services that names stand for.
- `Topology.PairingsAgree`: the services at one index state the same pairing.

Main results:

- `Topology.ofServices_restates_iff`: names are read as nodes with the clients that their services
  run, and as nodes with these services exactly when the stated pairings agree.
- `Topology.ofServices_not_restates`: names whose pairings do not agree and which are read.
-/

namespace DevnetChaos

/-! ## Services and clients -/

/-- The client that a service runs is that of a node. -/
def ServiceName.RunsOn (s : ServiceName) (n : Node) : Prop :=
  match s.role with
  | .execution => n.execution.kind = s.execution
  | .consensus => n.consensus.kind = s.consensus
  | .validator => n.consensus.validatorKind? = some s.consensus

/-- A node has a service when it has its index, runs its client, and runs the one it is paired
with. -/
theorem Node.service?_eq_self_iff {n : Node} {s : ServiceName} :
    n.service? s.role = some s ↔ s.index = n.index ∧ s.RunsOn n ∧ s.execution = n.execution.kind ∧
      (s.role ≠ .validator → s.consensus = n.consensus.kind) := by
  obtain ⟨role, index, execution, consensus⟩ := s
  cases role with
  | execution =>
    simp only [service?, ServiceName.RunsOn, Option.some.injEq, ServiceName.mk.injEq, true_and,
      ne_eq, reduceCtorEq, not_false_eq_true, forall_const]
    constructor
    · rintro ⟨hindex, hexecution, hconsensus⟩
      exact ⟨hindex.symm, hexecution, hexecution.symm, hconsensus.symm⟩
    · rintro ⟨hindex, hexecution, _, hconsensus⟩
      exact ⟨hindex.symm, hexecution, hconsensus.symm⟩
  | consensus =>
    simp only [service?, ServiceName.RunsOn, Option.some.injEq, ServiceName.mk.injEq, true_and,
      ne_eq, reduceCtorEq, not_false_eq_true, forall_const]
    constructor
    · rintro ⟨hindex, hexecution, hconsensus⟩
      exact ⟨hindex.symm, hconsensus, hexecution.symm, hconsensus.symm⟩
    · rintro ⟨hindex, hconsensus, hexecution, _⟩
      exact ⟨hindex.symm, hexecution.symm, hconsensus⟩
  | validator =>
    simp only [service?, ServiceName.RunsOn, Option.map_eq_some_iff, ServiceName.mk.injEq, true_and,
      ne_eq, not_true_eq_false, false_implies, and_true]
    constructor
    · rintro ⟨kind, hkind, hindex, hexecution, hconsensus⟩
      exact ⟨hindex.symm, hconsensus ▸ hkind, hexecution.symm⟩
    · rintro ⟨hindex, hkind, hexecution⟩
      exact ⟨consensus, hkind, hindex.symm, hexecution.symm, rfl⟩

namespace Topology

variable {names : List String} {t : Topology} {s : ServiceName}

/-- Every name stands for the service in its role of the node of its index. -/
def Restates (names : List String) (t : Topology) : Prop :=
  ∀ name ∈ names, ∀ s, ServiceName.parse name = .ok s →
    ∃ n, t.node? s.index = some n ∧ n.service? s.role = some s

/-- Services at one index state the same execution client, and the same consensus client as far as
they are not validators, which state a client of their own in its place. -/
def PairingsAgree (services : List ServiceName) : Prop :=
  ∀ a ∈ services, ∀ b ∈ services, a.index = b.index → a.execution = b.execution ∧
    (a.role ≠ .validator → b.role ≠ .validator → a.consensus = b.consensus)

theorem mem_observedServices :
    s ∈ observedServices names ↔ ∃ name ∈ names, ServiceName.parse name = .ok s := by
  simp only [observedServices, List.mem_filterMap, ServiceName.parse_eq_ok]

theorem restates_iff :
    Restates names t ↔
      ∀ s ∈ observedServices names, ∃ n, t.node? s.index = some n ∧ n.service? s.role = some s := by
  constructor
  · intro h s hs
    obtain ⟨name, hname, hparse⟩ := mem_observedServices.1 hs
    exact h name hname s hparse
  · intro h name hname s hparse
    exact h s (mem_observedServices.2 ⟨name, hname, hparse⟩)

/-- Consistent names of whatever role come with that of an execution service at their index. -/
theorem Consistent.execution_mem (h : Consistent names) (hs : s ∈ observedServices names) :
    (Role.execution, s.index) ∈ (observedServices names).map (·.slot) := by
  have hslot : s.slot ∈ (observedServices names).map (·.slot) := List.mem_map_of_mem hs
  rw [ServiceName.slot] at hslot
  cases hrole : s.role with
  | execution => rwa [hrole] at hslot
  | consensus => exact (h.paired s.index).2 (hrole ▸ hslot)
  | validator => exact h.attached s.index (hrole ▸ hslot)

/-- The node of an index, where there is an execution service. -/
theorem ReadOff.exists_node {services : List ServiceName} (h : ReadOff services t) {index : Nat}
    (hindex : (Role.execution, index) ∈ services.map (·.slot)) :
    ∃ n ∈ t.nodes, n.index = index ∧ t.node? index = some n := by
  have hmem : index ∈ t.nodes.map (·.index) := by
    rw [h.nodes.mem_iff]
    obtain ⟨el, hel, hslot⟩ := List.mem_map.1 hindex
    simp only [ServiceName.slot, Prod.mk.injEq] at hslot
    exact List.mem_map.2 ⟨el, List.mem_filter.2 ⟨hel, beq_iff_eq.2 hslot.1⟩, hslot.2⟩
  obtain ⟨n, hn, rfl⟩ := List.mem_map.1 hmem
  exact ⟨n, hn, rfl, (distinct_of_sorted h.sorted).node?_eq_some hn⟩

/-- A node that is read off services runs the clients that the services at its index run. -/
theorem ReadOff.runsOn {services : List ServiceName} (h : ReadOff services t)
    (hslots : (services.map (·.slot)).Nodup) (hs : s ∈ services) {n : Node} (hn : n ∈ t.nodes)
    (hindex : n.index = s.index) : s.RunsOn n := by
  have hsame : ∀ other ∈ services, other.slot = (s.role, n.index) → other = s := by
    intro other hother hslot
    rw [hindex] at hslot
    exact List.inj_on_of_nodup_map hslots hother hs hslot
  unfold ServiceName.RunsOn
  cases hrole : s.role with
  | execution =>
    obtain ⟨el, hel, hslot, hclient⟩ := h.execution n hn
    have hself := hsame el hel (hrole ▸ hslot)
    rw [hclient, hself]
    rfl
  | consensus =>
    obtain ⟨cl, hcl, hslot, hclient⟩ := h.consensus n hn
    have hself := hsame cl hcl (hrole ▸ hslot)
    rw [hclient, hself]
  | validator =>
    have hslot : s.slot = (.validator, n.index) := by rw [ServiceName.slot, hrole, hindex]
    exact (h.validator n hn s.consensus).2 ⟨s, hs, hslot, rfl⟩

/-- Names that stand for services of one node state one pairing. -/
theorem Restates.pairingsAgree (h : Restates names t) :
    PairingsAgree (observedServices names) := by
  intro a ha b hb hindex
  obtain ⟨n, hn, hownA⟩ := restates_iff.1 h a ha
  obtain ⟨m, hm, hownB⟩ := restates_iff.1 h b hb
  -- Both services are looked up at one index, where there is one node.
  have hsame : n = m := by
    rw [← hindex, hn] at hm
    exact Option.some.inj hm
  subst hsame
  have hstatedA := (Node.service?_eq_self_iff.1 hownA).2.2
  have hstatedB := (Node.service?_eq_self_iff.1 hownB).2.2
  constructor
  · rw [hstatedA.1, hstatedB.1]
  · intro hroleA hroleB
    rw [hstatedA.2 hroleA, hstatedB.2 hroleB]

/-- Where the pairings agree, what a service states beside its own client is what the services of
the node state of themselves. -/
theorem ReadOff.stated {services : List ServiceName} (h : ReadOff services t)
    (hagree : PairingsAgree services) (hs : s ∈ services) {n : Node} (hn : n ∈ t.nodes)
    (hindex : n.index = s.index) :
    s.execution = n.execution.kind ∧ (s.role ≠ .validator → s.consensus = n.consensus.kind) := by
  obtain ⟨el, hel, helSlot, helClient⟩ := h.execution n hn
  obtain ⟨cl, hcl, hclSlot, hclClient⟩ := h.consensus n hn
  simp only [ServiceName.slot, Prod.mk.injEq] at helSlot hclSlot
  have helIndex : s.index = el.index := by omega
  have hclIndex : s.index = cl.index := by omega
  constructor
  · rw [helClient, (hagree s hs el hel helIndex).1]
    rfl
  · intro hrole
    have hclRole : cl.role ≠ .validator := by simp [hclSlot.1]
    rw [hclClient, (hagree s hs cl hcl hclIndex).2 hrole hclRole]

/-! ## Names that are read -/

/-- Names that are put together are read as nodes that run the clients of their services.  The nodes
have these services exactly when services at one index state the same pairing. -/
theorem ofServices_restates_iff (h : ofServices names = .ok t) :
    (∀ s ∈ observedServices names, ∃ n, t.node? s.index = some n ∧ s.RunsOn n) ∧
      (Restates names t ↔ PairingsAgree (observedServices names)) := by
  have hconsistent : Consistent names := ofServices_isOk_iff.1 ⟨t, h⟩
  have hread : ReadOff (observedServices names) t := ofServices_readOff h
  have hnode : ∀ s ∈ observedServices names,
      ∃ n ∈ t.nodes, n.index = s.index ∧ t.node? s.index = some n ∧ s.RunsOn n := by
    intro s hs
    obtain ⟨n, hn, hindex, hfound⟩ := hread.exists_node (hconsistent.execution_mem hs)
    exact ⟨n, hn, hindex, hfound, hread.runsOn hconsistent.slots hs hn hindex⟩
  constructor
  · intro s hs
    obtain ⟨n, -, -, hfound, hruns⟩ := hnode s hs
    exact ⟨n, hfound, hruns⟩
  constructor
  · intro hrestates
    exact hrestates.pairingsAgree
  · intro hagree
    rw [restates_iff]
    intro s hs
    obtain ⟨n, hn, hindex, hfound, hruns⟩ := hnode s hs
    have hstated := hread.stated hagree hs hn hindex
    exact ⟨n, hfound, Node.service?_eq_self_iff.2 ⟨hindex.symm, hruns, hstated⟩⟩

/-- A pair of clients with a sidecar of another type, whose names agree. -/
def pairedNames : List String := ["vc-1-prysm-geth", "cl-1-teku-geth", "el-1-geth-teku"]

theorem ofServices_restates_paired :
    ∃ t, ofServices pairedNames = .ok t ∧ Restates pairedNames t ∧
      ∀ s ∈ observedServices pairedNames, ∃ n, t.node? s.index = some n ∧ s.RunsOn n := by
  have ht : ofServices pairedNames = .ok
      ⟨[⟨1, .ofKind .geth, (ConsensusClient.ofKind .teku).withSidecar (some .prysm), 0⟩]⟩ := by
    decide +kernel
  have hservices : observedServices pairedNames = [⟨.validator, 1, .geth, .prysm⟩,
      ⟨.consensus, 1, .geth, .teku⟩, ⟨.execution, 1, .geth, .teku⟩] := by
    decide +kernel
  have hagree : PairingsAgree (observedServices pairedNames) := by
    rw [hservices]
    unfold PairingsAgree
    decide
  have h := ofServices_restates_iff ht
  exact ⟨_, ht, h.2.2 hagree, h.1⟩

/-- The execution client is said to be paired with teku, and beside it runs lighthouse, which is
said to be paired with besu. -/
def mispairedNames : List String := ["el-1-geth-teku", "cl-1-lighthouse-besu"]

/-- Names that state different pairings at one index are read all the same, and the services of the
node are not those that the names stand for. -/
theorem ofServices_not_restates :
    ∃ t, ofServices mispairedNames = .ok t ∧ t.fingerprints = [⟨1, .geth, .lighthouse⟩] ∧
      ¬ Restates mispairedNames t ∧ ¬ PairingsAgree (observedServices mispairedNames) := by
  have ht : ofServices mispairedNames = .ok ⟨[⟨1, .ofKind .geth, .ofKind .lighthouse, 0⟩]⟩ := by
    decide +kernel
  have hel : ServiceName.parse "el-1-geth-teku" = .ok ⟨.execution, 1, .geth, .teku⟩ := by
    decide +kernel
  have hcl :
      ServiceName.parse "cl-1-lighthouse-besu" = .ok ⟨.consensus, 1, .besu, .lighthouse⟩ := by
    decide +kernel
  refine ⟨_, ht, rfl, ?_, ?_⟩
  · intro hrestates
    obtain ⟨n, hn, hservice⟩ := hrestates _ (by simp [mispairedNames]) _ hel
    cases hn
    cases hservice
  · intro hagree
    have hsame := hagree _ (mem_observedServices.2 ⟨_, by simp [mispairedNames], hel⟩)
      _ (mem_observedServices.2 ⟨_, by simp [mispairedNames], hcl⟩) rfl
    cases hsame.1

end Topology
end DevnetChaos
