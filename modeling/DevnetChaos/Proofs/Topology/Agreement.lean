import DevnetChaos.Proofs.Topology.Reconciled
import DevnetChaos.Sample
import Mathlib.Data.List.Perm.Subperm

/-!
# When topologies agree

Topologies are compared by their size and by the fingerprints that occur in them.  This is an
equivalence on all topologies.  However a topology is built, its nodes are in order of their
indices; where no index occurs twice, topologies therefore agree exactly if their lists of
fingerprints are equal, and nothing else about their nodes matters.

Main definitions:

- `Topology.Built`: the ways in which a topology is built.

Main results:

- `Topology.agrees_iff`: what is compared.
- `Topology.agrees_iff_perm`: fingerprints that do not occur twice are compared as they are counted.
- `Topology.Built.sorted`: the nodes of a built topology are in order.
- `Topology.agrees_equivalence`: agreement is an equivalence, and means the same nodes.
-/

namespace DevnetChaos
namespace Topology

variable {a b c t : Topology}

/-! ## What is compared -/

/-- Topologies agree if they have the same size and the same fingerprints occur in them. -/
theorem agrees_iff :
    a.agrees b = true ↔ a.size = b.size ∧ ∀ f, f ∈ a.fingerprints ↔ f ∈ b.fingerprints := by
  simp only [agrees, Bool.and_eq_true, beq_iff_eq, List.all_eq_true, List.contains_iff_mem]
  constructor
  · rintro ⟨⟨hsize, hab⟩, hba⟩
    exact ⟨hsize, fun f => ⟨hab f, hba f⟩⟩
  · rintro ⟨hsize, hsame⟩
    exact ⟨⟨hsize, fun f => (hsame f).1⟩, fun f => (hsame f).2⟩

/-- Every topology agrees with itself. -/
theorem agrees_refl (t : Topology) : t.agrees t = true :=
  agrees_of_fingerprints_eq rfl

/-- If one topology agrees with another, so does the other with it. -/
theorem agrees_symm (h : a.agrees b = true) : b.agrees a = true := by
  obtain ⟨hsize, hsame⟩ := agrees_iff.1 h
  exact agrees_iff.2 ⟨hsize.symm, fun f => (hsame f).symm⟩

/-- Topologies that agree with one agree with each other. -/
theorem agrees_trans (hab : a.agrees b = true) (hbc : b.agrees c = true) : a.agrees c = true := by
  obtain ⟨hsize, hsame⟩ := agrees_iff.1 hab
  obtain ⟨hsize', hsame'⟩ := agrees_iff.1 hbc
  exact agrees_iff.2 ⟨hsize.trans hsize', fun f => (hsame f).trans (hsame' f)⟩

/-! ## Different indices -/

theorem length_fingerprints (t : Topology) : t.fingerprints.length = t.size :=
  List.length_map _

theorem fingerprints_indices (t : Topology) :
    t.fingerprints.map (·.index) = t.nodes.map (·.index) := by
  rw [fingerprints, List.map_map]
  rfl

/-- Nodes with different indices have different fingerprints. -/
theorem Distinct.nodup_fingerprints (h : t.Distinct) : t.fingerprints.Nodup := by
  apply List.Nodup.of_map (fun f : Fingerprint => f.index)
  rw [fingerprints_indices]
  exact h

/-- Where no index occurs twice in one of them, topologies agree if they have the same fingerprints
in some order. -/
theorem agrees_iff_perm (ha : a.Distinct) :
    a.agrees b = true ↔ a.fingerprints.Perm b.fingerprints := by
  rw [agrees_iff]
  constructor
  · rintro ⟨hsize, hsame⟩
    -- Different elements, all of which occur in a list of the same length, are all that it has.
    have hsubset : a.fingerprints ⊆ b.fingerprints := fun f hf => (hsame f).1 hf
    have hsubperm := List.subperm_of_subset ha.nodup_fingerprints hsubset
    apply hsubperm.perm_of_length_le
    rw [length_fingerprints, length_fingerprints]
    exact Nat.le_of_eq hsize.symm
  · intro hperm
    refine ⟨?_, fun f => hperm.mem_iff⟩
    rw [← length_fingerprints, ← length_fingerprints, hperm.length_eq]

/-! ## Built topologies -/

/-- A topology is put together from nodes in any order, declared by network parameters, or read off
the names of services. -/
inductive Built : Topology → Prop
  | ofNodes (nodes : List Node) : Built (ofNodes nodes)
  | ofNetwork {d : ClientDefaults} {network : NetworkConfig} {t : Topology}
      (h : Topology.ofNetwork d network = .ok t) : Built t
  | ofServices {names : List String} {t : Topology} (h : Topology.ofServices names = .ok t) :
      Built t

/-- The nodes of a built topology are in order of their indices. -/
theorem Built.sorted (h : t.Built) : t.nodes.Pairwise fun n m => n.index ≤ m.index := by
  cases h with
  | ofNodes nodes => exact sortOn_sorted _ nodes
  | ofNetwork h =>
    rw [ofNetwork_eq] at h
    cases h
    exact (declared_numbered _ _ _).sorted.imp Nat.le_of_lt
  | ofServices h =>
    obtain ⟨services, -, -, hreconcile⟩ := ofServices_eq_ok.1 h
    have hels : (servicesOf .execution services).Pairwise fun s s' => s.index ≤ s'.index :=
      sortOn_sorted _ _
    apply List.pairwise_map.1
    rw [indices_of_reconcile hreconcile]
    exact List.pairwise_map.2 hels

/-- A built topology is compared in the order of its indices. -/
theorem Built.fingerprints_sorted (h : t.Built) :
    t.fingerprints.Pairwise fun f g => f.index ≤ g.index :=
  List.pairwise_map.2 h.sorted

/-- Built topologies in one of which no index occurs twice agree if their fingerprints are the same
in order. -/
theorem Built.agrees_iff_fingerprints (ha : a.Built) (hb : b.Built) (hdistinct : a.Distinct) :
    a.agrees b = true ↔ a.fingerprints = b.fingerprints := by
  constructor
  · intro h
    have hperm := (agrees_iff_perm hdistinct).1 h
    have hindices : (a.fingerprints.map (·.index)).Nodup := by
      rw [fingerprints_indices]
      exact hdistinct
    exact (eq_of_perm_of_sorted hperm.symm hindices hb.fingerprints_sorted
      ha.fingerprints_sorted).symm
  · exact agrees_of_fingerprints_eq

/-- A topology is compared by all of the nodes that it is put together from. -/
theorem fingerprints_ofNodes (nodes : List Node) :
    (ofNodes nodes).fingerprints.Perm (nodes.map Node.fingerprint) :=
  (ofNodes_perm nodes).map _

/-- Agreement is an equivalence on all topologies, and topologies of different sizes never agree.
The fingerprints of a built topology are listed in order of their indices; built topologies in one
of which no index occurs twice agree exactly if these lists are equal.  So nodes that are given in
any order, with whatever images, resources, labels, sidecars and keys, make up topologies that agree
exactly if they have the same fingerprints. -/
theorem agrees_equivalence :
    Equivalence (fun a b : Topology => a.agrees b = true) ∧
      (∀ a b : Topology, a.size ≠ b.size → a.agrees b = false) ∧
      (∀ t : Topology, t.Built → t.fingerprints.Pairwise fun f g => f.index ≤ g.index) ∧
      (∀ a b : Topology, a.Built → b.Built → a.Distinct →
        (a.agrees b = true ↔ a.fingerprints = b.fingerprints)) ∧
      ∀ nodes nodes' : List Node, (nodes.map (·.index)).Nodup →
        ((ofNodes nodes).agrees (ofNodes nodes') = true ↔
          (nodes.map Node.fingerprint).Perm (nodes'.map Node.fingerprint)) := by
  refine ⟨⟨agrees_refl, agrees_symm, agrees_trans⟩, ?_, ?_, ?_, ?_⟩
  · intro a b hsize
    exact Bool.eq_false_iff.2 fun h => hsize (agrees_iff.1 h).1
  · intro t ht
    exact ht.fingerprints_sorted
  · intro a b ha hb hdistinct
    exact ha.agrees_iff_fingerprints hb hdistinct
  · intro nodes nodes' hindices
    have hperm := (ofNodes_perm nodes).map fun n : Node => n.index
    have hdistinct : (ofNodes nodes).Distinct := hperm.nodup_iff.2 hindices
    rw [agrees_iff_perm hdistinct]
    have hleft := fingerprints_ofNodes nodes
    have hright := fingerprints_ofNodes nodes'
    exact ⟨fun h => hleft.symm.trans (h.trans hright), fun h => hleft.trans (h.trans hright.symm)⟩

/-- A node of two clients of which nothing else is said. -/
def plainNode (index : Nat) (execution : ExecutionKind) (consensus : ConsensusKind) : Node :=
  ⟨index, .ofKind execution, .ofKind consensus, 0⟩

/-- Three declared nodes, and the same nodes in another order and without anything else. -/
theorem agrees_equivalence_shuffled :
    ∃ t, ofNetwork .standard Sample.threeNodes = .ok t ∧ t.Distinct ∧
      t.agrees (ofNodes [plainNode 3 .nethermind .prysm, plainNode 1 .geth .teku,
        plainNode 2 .besu .lighthouse]) = true ∧
      t.agrees (ofNodes [plainNode 1 .geth .teku, plainNode 2 .besu .lighthouse]) = false := by
  obtain ⟨-, hsize, -, hagrees, -⟩ := agrees_equivalence
  have hdeclared := ofNetwork_eq .standard Sample.threeNodes
  have hdistinct := (declared_numbered .standard Sample.threeNodes.params.keysPerNode
    Sample.threeNodes.participants).distinct
  refine ⟨_, hdeclared, hdistinct, ?_, ?_⟩
  · exact (hagrees _ _ (.ofNetwork hdeclared) (.ofNodes _) hdistinct).2 (by decide)
  · exact hsize _ _ (by decide)

/-- Where indices occur twice, topologies may agree without having the same nodes. -/
example :
    let besu := plainNode 1 .besu .teku
    let geth := plainNode 1 .geth .teku
    (ofNodes [besu, besu, geth]).agrees (ofNodes [besu, geth, geth]) = true := by
  decide

end Topology
end DevnetChaos
