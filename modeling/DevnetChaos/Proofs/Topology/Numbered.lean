import DevnetChaos.Proofs.Client.Filled
import DevnetChaos.Proofs.Target.Resolution
import Mathlib.Algebra.GroupWithZero.Nat
import Mathlib.Data.List.Nodup

/-!
# Numbered topologies

The nodes of a built network are numbered from one without a gap, their clients are filled, and
they hold the same number of keys.  Such a topology is rebuilt from its own network parameters,
whatever the defaults are.

Main definitions:

- `Topology.Numbered`: what holds of the topology of a built network.
- `Topology.declaredNodes`: the nodes that groups declare.

Main results:

- `eq_of_perm_of_sorted`, `sortOn_eq_of_perm`: different keys have one order in which they
  increase, and sorting finds it.
- `Topology.ofNodes_eq_self`: nodes in order of their indices are not moved.
- `Topology.ofNetwork_eq`: network parameters always declare a topology.
- `Topology.declared_numbered`: a declared topology is numbered.
- `Topology.declaredNodes_fingerprints`: the defaults have no part in what topologies are compared
  by.
- `Topology.participantNodes_ofClients`: the groups of numbered nodes declare these nodes.
- `Topology.Numbered.ofNetwork_generated`: a numbered topology is rebuilt from its parameters.
-/

namespace DevnetChaos

/-! ## Sorting what is sorted -/

/-- An element before all others stays in front. -/
theorem insertOn_eq_cons {α : Type} {key : α → Nat} {x : α} {xs : List α}
    (h : ∀ y ∈ xs, key x ≤ key y) : insertOn key x xs = x :: xs := by
  cases xs with
  | nil => rfl
  | cons y rest => simp [insertOn, h y List.mem_cons_self]

/-- Elements in order of their keys are not moved. -/
theorem sortOn_eq_self {α : Type} {key : α → Nat} {xs : List α}
    (hsorted : xs.Pairwise fun a b => key a ≤ key b) : sortOn key xs = xs := by
  induction xs with
  | nil => rfl
  | cons x rest ih =>
    obtain ⟨hx, hrest⟩ := List.pairwise_cons.1 hsorted
    rw [sortOn, ih hrest, insertOn_eq_cons hx]

/-- Elements with different keys have one order in which the keys do not decrease. -/
theorem eq_of_perm_of_sorted {α : Type} {key : α → Nat} {xs ys : List α} (hperm : xs.Perm ys)
    (hkeys : (ys.map key).Nodup) (hxs : xs.Pairwise fun a b => key a ≤ key b)
    (hys : ys.Pairwise fun a b => key a ≤ key b) : xs = ys := by
  refine hperm.eq_of_pairwise ?_ hxs hys
  intro a b ha hb hab hba
  have hsame : key a = key b := Nat.le_antisymm hab hba
  exact List.inj_on_of_nodup_map hkeys (hperm.mem_iff.1 ha) hb hsame

/-- Sorting finds the one order in which different keys increase, whatever order they come in. -/
theorem sortOn_eq_of_perm {α : Type} {key : α → Nat} {xs ys : List α} (hperm : xs.Perm ys)
    (hsorted : ys.Pairwise fun a b => key a < key b) : sortOn key xs = ys := by
  have hkeys : (ys.map key).Nodup := List.pairwise_map.2 (hsorted.imp Nat.ne_of_lt)
  exact eq_of_perm_of_sorted ((sortOn_perm key xs).trans hperm) hkeys (sortOn_sorted key xs)
    (hsorted.imp Nat.le_of_lt)

namespace Topology

/-- Indices that count on from a number increase. -/
theorem pairwise_index_lt {nodes : List Node} {first : Nat}
    (hindices : nodes.map (·.index) = List.range' first nodes.length) :
    nodes.Pairwise fun a b => a.index < b.index := by
  have hlt : (nodes.map (·.index)).Pairwise (· < ·) := hindices ▸ List.pairwise_lt_range'
  exact List.pairwise_map.1 hlt

/-- Nodes in order of their indices are not moved. -/
theorem ofNodes_eq_self {nodes : List Node}
    (hsorted : nodes.Pairwise fun a b => a.index ≤ b.index) : (ofNodes nodes).nodes = nodes :=
  sortOn_eq_self hsorted

/-! ## Numbered topologies -/

/-- The nodes are numbered from one, their clients are filled, and each holds `votes` keys. -/
structure Numbered (t : Topology) (votes : UInt32) : Prop where
  indices : t.nodes.map (·.index) = List.range' 1 t.nodes.length
  execution : ∀ n ∈ t.nodes, n.execution.Filled
  consensus : ∀ n ∈ t.nodes, n.consensus.Filled
  votes : ∀ n ∈ t.nodes, n.votes = votes

/-- Nodes that are numbered have different indices, which increase. -/
theorem Numbered.sorted {t : Topology} {votes : UInt32} (h : t.Numbered votes) :
    t.nodes.Pairwise fun a b => a.index < b.index :=
  pairwise_index_lt h.indices

/-- Nodes that are numbered without a gap have different indices. -/
theorem Numbered.distinct {t : Topology} {votes : UInt32} (h : t.Numbered votes) : t.Distinct :=
  distinct_of_sorted h.sorted

/-- An index is at most the number of nodes. -/
theorem Numbered.index_le {t : Topology} {votes : UInt32} (h : t.Numbered votes) {n : Node}
    (hn : n ∈ t.nodes) : n.index ≤ t.size := by
  have hindex : n.index ∈ t.nodes.map (·.index) := List.mem_map_of_mem hn
  rw [h.indices, List.mem_range'_1] at hindex
  rw [size]
  omega

/-! ## Declared topologies -/

/-- The nodes that groups declare, with indices that count on from `first`. -/
def declaredNodes (d : ClientDefaults) (votes : UInt32) : Nat → List Participant → List Node
  | _, [] => []
  | first, p :: rest =>
      groupNodes (p.executionClient.backfill d) (p.consensusClient.filled d) votes first p.count ++
        declaredNodes d votes (first + p.count) rest

theorem groupNodes_length (el : ExecutionClient) (cl : ConsensusClient) (votes : UInt32)
    (first count : Nat) : (groupNodes el cl votes first count).length = count := by
  induction count generalizing first with
  | zero => rfl
  | succ count ih => simp [groupNodes, ih]

/-- The nodes of a group are numbered one after another. -/
theorem groupNodes_indices (el : ExecutionClient) (cl : ConsensusClient) (votes : UInt32)
    (first count : Nat) :
    (groupNodes el cl votes first count).map (·.index) = List.range' first count := by
  induction count generalizing first with
  | zero => rfl
  | succ count ih => simp [groupNodes, ih, List.range'_succ]

/-- The nodes of a group differ in nothing but their indices. -/
theorem eq_of_mem_groupNodes {el : ExecutionClient} {cl : ConsensusClient} {votes : UInt32}
    {first count : Nat} {n : Node} (hn : n ∈ groupNodes el cl votes first count) :
    n = ⟨n.index, el, cl, votes⟩ := by
  induction count generalizing first with
  | zero => simp [groupNodes] at hn
  | succ count ih =>
    rw [groupNodes, List.mem_cons] at hn
    rcases hn with rfl | hlater
    · rfl
    · exact ih hlater

section Declared

variable (d : ClientDefaults) (votes : UInt32)

/-- Groups always declare their nodes. -/
theorem participantNodes_eq (first : Nat) (groups : List Participant) :
    participantNodes d votes first groups = .ok (declaredNodes d votes first groups) := by
  induction groups generalizing first with
  | nil => rfl
  | cons p rest ih =>
    rw [participantNodes, declaredNodes]
    by_cases hnone : p.count = 0
    · rw [if_pos hnone, ih, hnone]
      rfl
    · rw [if_neg hnone, p.clients_eq, ih]
      rfl

/-- Network parameters always declare a topology. -/
theorem ofNetwork_eq (config : NetworkConfig) :
    ofNetwork d config = .ok ⟨declaredNodes d config.params.keysPerNode 1 config.participants⟩ := by
  rw [ofNetwork, participantNodes_eq]
  rfl

/-- There are as many nodes as the groups count. -/
theorem declaredNodes_length (first : Nat) (groups : List Participant) :
    (declaredNodes d votes first groups).length = (groups.map (·.count)).sum := by
  induction groups generalizing first with
  | nil => rfl
  | cons p rest ih => simp [declaredNodes, groupNodes_length, ih]

/-- The nodes of all groups are numbered one after another. -/
theorem declaredNodes_indices (first : Nat) (groups : List Participant) :
    (declaredNodes d votes first groups).map (·.index) =
      List.range' first (groups.map (·.count)).sum := by
  induction groups generalizing first with
  | nil => rfl
  | cons p rest ih =>
    rw [declaredNodes, List.map_append, groupNodes_indices, ih, List.map_cons, List.sum_cons,
      List.range'_append_1]

/-- Every declared node has the filled clients of one of the groups. -/
theorem exists_group_of_mem_declaredNodes {first : Nat} {groups : List Participant} {n : Node}
    (hn : n ∈ declaredNodes d votes first groups) :
    ∃ p ∈ groups,
      n = ⟨n.index, p.executionClient.backfill d, p.consensusClient.filled d, votes⟩ := by
  induction groups generalizing first with
  | nil => simp [declaredNodes] at hn
  | cons p rest ih =>
    rw [declaredNodes, List.mem_append] at hn
    rcases hn with hown | hlater
    · exact ⟨p, List.mem_cons_self, eq_of_mem_groupNodes hown⟩
    · obtain ⟨q, hq, hnode⟩ := ih hlater
      exact ⟨q, List.mem_cons_of_mem p hq, hnode⟩

/-- A declared topology is numbered and its clients are filled. -/
theorem declared_numbered (groups : List Participant) :
    Numbered ⟨declaredNodes d votes 1 groups⟩ votes := by
  have hnode : ∀ n ∈ declaredNodes d votes 1 groups,
      n.execution.Filled ∧ n.consensus.Filled ∧ n.votes = votes := by
    intro n hn
    obtain ⟨p, -, hnode⟩ := exists_group_of_mem_declaredNodes d votes hn
    rw [hnode]
    exact ⟨ExecutionClient.backfill_filled d _, ConsensusClient.filled_filled d _, rfl⟩
  exact
    { indices := by rw [declaredNodes_indices, declaredNodes_length]
      execution := fun n hn => (hnode n hn).1
      consensus := fun n hn => (hnode n hn).2.1
      votes := fun n hn => (hnode n hn).2.2 }

/-- Clients of the same kinds are compared alike. -/
theorem groupNodes_fingerprints {el el' : ExecutionClient} {cl cl' : ConsensusClient}
    (hel : el.kind = el'.kind) (hcl : cl.kind = cl'.kind) (first count : Nat) :
    (groupNodes el cl votes first count).map Node.fingerprint =
      (groupNodes el' cl' votes first count).map Node.fingerprint := by
  induction count generalizing first with
  | zero => rfl
  | succ count ih => simp [groupNodes, Node.fingerprint, hel, hcl, ih]

/-- The defaults have no part in what topologies are compared by. -/
theorem declaredNodes_fingerprints (d' : ClientDefaults) (first : Nat)
    (groups : List Participant) :
    (declaredNodes d votes first groups).map Node.fingerprint =
      (declaredNodes d' votes first groups).map Node.fingerprint := by
  induction groups generalizing first with
  | nil => rfl
  | cons p rest ih =>
    have hel : (p.executionClient.backfill d).kind = (p.executionClient.backfill d').kind := rfl
    have hcl : (p.consensusClient.filled d).kind = (p.consensusClient.filled d').kind := rfl
    rw [declaredNodes, declaredNodes, List.map_append, List.map_append, ih,
      groupNodes_fingerprints votes hel hcl]

end Declared

/-! ## Rebuilding a topology -/

/-- The groups of nodes that are numbered from `first` declare these nodes. -/
theorem participantNodes_ofClients (d : ClientDefaults) {votes : UInt32} {nodes : List Node}
    {first : Nat} (hindices : nodes.map (·.index) = List.range' first nodes.length)
    (hexecution : ∀ n ∈ nodes, n.execution.Filled)
    (hconsensus : ∀ n ∈ nodes, n.consensus.Filled) (hvotes : ∀ n ∈ nodes, n.votes = votes) :
    participantNodes d votes first
      (nodes.map fun n => .ofClients n.execution n.consensus) = .ok nodes := by
  induction nodes generalizing first with
  | nil => rfl
  | cons n rest ih =>
    simp only [List.map_cons, List.length_cons, List.range'_succ, List.cons.injEq] at hindices
    obtain ⟨hfirst, hlater⟩ := hindices
    have hclients := Participant.clients_ofClients (hexecution n List.mem_cons_self)
      (hconsensus n List.mem_cons_self) d
    have hrest := ih hlater (fun m hm => hexecution m (List.mem_cons_of_mem n hm))
      (fun m hm => hconsensus m (List.mem_cons_of_mem n hm))
      (fun m hm => hvotes m (List.mem_cons_of_mem n hm))
    have hcount : (Participant.ofClients n.execution n.consensus).count = 1 := rfl
    have hnode : groupNodes n.execution n.consensus votes first 1 = [n] := by
      rw [← hfirst, ← hvotes n List.mem_cons_self]
      rfl
    rw [List.map_cons, participantNodes, if_neg (by rw [hcount]; decide), hclients, hcount, hrest]
    simp only [bind, Except.bind, pure, Except.pure]
    rw [hnode, List.singleton_append]

/-- A numbered topology is rebuilt from its network parameters, whatever the defaults are. -/
theorem Numbered.ofNetwork_generated {t : Topology} {params : GenesisParams}
    (h : t.Numbered params.keysPerNode) (d : ClientDefaults) :
    ofNetwork d (.generated t.participants params) = .ok t := by
  have hnodes := participantNodes_ofClients d h.indices h.execution h.consensus h.votes
  unfold ofNetwork
  change (participantNodes d params.keysPerNode 1 t.participants >>= fun nodes =>
    pure (⟨nodes⟩ : Topology)) = .ok t
  rw [participants, hnodes]
  rfl

end Topology
end DevnetChaos
