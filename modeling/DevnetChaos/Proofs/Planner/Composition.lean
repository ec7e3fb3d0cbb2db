import DevnetChaos.Proofs.Planner.Catalog
import DevnetChaos.Proofs.Topology.Numbered

/-!
# Composed networks

A composed network is one numbered list of nodes in three parts that meet without gap or overlap:
the bootnode, the nodes with the target client, and the padding.

Main definitions:

- `Node.clients`: the two clients of a node.
- `Catalog.TargetPairing`: the pairs of the target client with every client of the other side.
- `Composed`: what holds of every composed network.

Main results:

- `PlannerConfig.compose_eq_ok`: the three parts of a composed network.
- `PlannerConfig.compose_composed`: every composed network has the required structure.
-/

namespace DevnetChaos

/-- The two clients of a node. -/
def Node.clients (n : Node) : ExecutionClient × ConsensusClient := (n.execution, n.consensus)

namespace Catalog

/-! ## Nodes for pairs of clients -/

section NodesOf

variable (votes : UInt32) (first : Nat) (pairs : List (ExecutionClient × ConsensusClient))

/-- Each pair becomes one node. -/
theorem nodesOf_length : (nodesOf votes first pairs).length = pairs.length := by
  induction pairs generalizing first with
  | nil => rfl
  | cons p rest ih => simp [nodesOf, ih]

/-- The indices count on from the first one. -/
theorem nodesOf_index :
    (nodesOf votes first pairs).map (·.index) = List.range' first pairs.length := by
  induction pairs generalizing first with
  | nil => rfl
  | cons p rest ih => simp [nodesOf, ih, List.range'_succ]

/-- The nodes are in order of their indices. -/
theorem nodesOf_sorted : (nodesOf votes first pairs).Pairwise fun a b => a.index ≤ b.index := by
  have hindices := nodesOf_index votes first pairs
  rw [← nodesOf_length votes first pairs] at hindices
  exact (Topology.pairwise_index_lt hindices).imp Nat.le_of_lt

/-- The nodes run the pairs of clients in order. -/
theorem nodesOf_clients : (nodesOf votes first pairs).map Node.clients = pairs := by
  induction pairs generalizing first with
  | nil => rfl
  | cons p rest ih => simp [nodesOf, ih, Node.clients]

/-- All nodes hold the same number of keys. -/
theorem nodesOf_votes : ∀ n ∈ nodesOf votes first pairs, n.votes = votes := by
  induction pairs generalizing first with
  | nil => simp [nodesOf]
  | cons p rest ih => simpa [nodesOf] using ih (first + 1)

/-- The nodes of two lists of pairs are numbered on from each other. -/
theorem nodesOf_append (later : List (ExecutionClient × ConsensusClient)) :
    nodesOf votes first (pairs ++ later) =
      nodesOf votes first pairs ++ nodesOf votes (first + pairs.length) later := by
  induction pairs generalizing first with
  | nil => rfl
  | cons p rest ih =>
    have hfirst : first + 1 + rest.length = first + (rest.length + 1) := by omega
    simp [nodesOf, ih, hfirst]

end NodesOf

/-- Nodes that are numbered in a row are not moved. -/
theorem ofNodes_nodesOf {votes : UInt32} {first : Nat}
    {pairs : List (ExecutionClient × ConsensusClient)} {nodes : List Node}
    (h : nodes = nodesOf votes first pairs) : (Topology.ofNodes nodes).nodes = nodes := by
  rw [h]
  exact Topology.ofNodes_eq_self (nodesOf_sorted ..)

/-! ## Nodes with the target client -/

/-- The pairs of the target client with every client of the other side, in declaration order. -/
def TargetPairing (c : Catalog) :
    ClientKind → List (ExecutionClient × ConsensusClient) → Prop
  | .execution kind, pairs =>
      ∃ el ∈ c.execution, el.kind = kind ∧ pairs = c.consensus.map fun cl => (el, cl)
  | .consensus kind, pairs =>
      ∃ cl ∈ c.consensus, cl.kind = kind ∧ pairs = c.execution.map fun el => (el, cl)

/-- The execution client of a kind is one of the catalog. -/
theorem mem_of_execution? {c : Catalog} {kind : ExecutionKind} {el : ExecutionClient}
    (h : c.execution? kind = some el) : el ∈ c.execution ∧ el.kind = kind :=
  ⟨List.mem_of_find?_eq_some h, by simpa using List.find?_some h⟩

/-- The consensus client of a kind is one of the catalog. -/
theorem mem_of_consensus? {c : Catalog} {kind : ConsensusKind} {cl : ConsensusClient}
    (h : c.consensus? kind = some cl) : cl ∈ c.consensus ∧ cl.kind = kind :=
  ⟨List.mem_of_find?_eq_some h, by simpa using List.find?_some h⟩

/-- The pairs of a target are those of its own client with each client of the other side. -/
theorem targetPairs_eq_ok {c : Catalog} {target : ClientKind}
    {pairs : List (ExecutionClient × ConsensusClient)} (h : c.targetPairs target = .ok pairs) :
    c.TargetPairing target pairs := by
  cases target with
  | execution kind =>
    simp only [targetPairs] at h
    split at h
    · next el hel =>
      cases h
      obtain ⟨hmem, hkind⟩ := mem_of_execution? hel
      exact ⟨el, hmem, hkind, rfl⟩
    · cases h
  | consensus kind =>
    simp only [targetPairs] at h
    split at h
    · next cl hcl =>
      cases h
      obtain ⟨hmem, hkind⟩ := mem_of_consensus? hcl
      exact ⟨cl, hmem, hkind, rfl⟩
    · cases h

namespace TargetPairing

variable {c : Catalog} {target : ClientKind} {pairs : List (ExecutionClient × ConsensusClient)}

/-- There are as many pairs as the target has counterparts. -/
theorem length_eq (h : c.TargetPairing target pairs) :
    pairs.length = c.counterparts target := by
  cases target with
  | execution kind =>
    obtain ⟨el, _, _, rfl⟩ := h
    exact List.length_map _
  | consensus kind =>
    obtain ⟨cl, _, _, rfl⟩ := h
    exact List.length_map _

/-- Both clients of a pair are in the catalog. -/
theorem mem (h : c.TargetPairing target pairs) {p : ExecutionClient × ConsensusClient}
    (hp : p ∈ pairs) : p.1 ∈ c.execution ∧ p.2 ∈ c.consensus := by
  cases target with
  | execution kind =>
    obtain ⟨el, hel, _, rfl⟩ := h
    obtain ⟨cl, hcl, rfl⟩ := List.mem_map.1 hp
    exact ⟨hel, hcl⟩
  | consensus kind =>
    obtain ⟨cl, hcl, _, rfl⟩ := h
    obtain ⟨el, hel, rfl⟩ := List.mem_map.1 hp
    exact ⟨hel, hcl⟩

/-- Without repeats in the catalog no pair comes twice. -/
theorem nodup (h : c.TargetPairing target pairs) (hel : c.execution.Nodup)
    (hcl : c.consensus.Nodup) : pairs.Nodup := by
  cases target with
  | execution kind =>
    obtain ⟨el, _, _, rfl⟩ := h
    exact hcl.map fun _ _ heq => (Prod.mk.inj heq).2
  | consensus kind =>
    obtain ⟨cl, _, _, rfl⟩ := h
    exact hel.map fun _ _ heq => (Prod.mk.inj heq).1

end TargetPairing

/-- Every one of different elements comes as often as it is repeated. -/
theorem count_flatMap_replicate {α : Type} [BEq α] [LawfulBEq α] (m : Nat) {xs : List α} {x : α}
    (hxs : xs.Nodup) (hx : x ∈ xs) : (xs.flatMap (List.replicate m)).count x = m := by
  induction xs with
  | nil => simp at hx
  | cons y rest ih =>
    obtain ⟨hy, hrest⟩ := List.nodup_cons.1 hxs
    rw [List.flatMap_cons, List.count_append]
    by_cases hxy : x = y
    · -- The later elements are other ones.
      subst hxy
      have hnone : (rest.flatMap (List.replicate m)).count x = 0 := by
        refine List.count_eq_zero_of_not_mem fun hmem => ?_
        obtain ⟨z, hz, hxz⟩ := List.mem_flatMap.1 hmem
        exact hy ((List.eq_of_mem_replicate hxz).symm ▸ hz)
      rw [hnone, List.count_replicate_self, Nat.add_zero]
    · have hmem : x ∈ rest := (List.mem_cons.1 hx).resolve_left hxy
      rw [ih hrest hmem, List.count_replicate, if_neg (by simpa using Ne.symm hxy), Nat.zero_add]

/-! ## Padding -/

/-- Drawn pairs consist of the clients that are drawn from, whatever the source gives. -/
theorem drawPairs_eq_some {els : List ExecutionClient} {cls : List ConsensusClient} {count : Nat}
    {s s' : Random.Source} {pairs : List (ExecutionClient × ConsensusClient)}
    (h : drawPairs els cls count s = (some pairs, s')) :
    pairs.length = count ∧ ∀ p ∈ pairs, p.1 ∈ els ∧ p.2 ∈ cls := by
  induction count generalizing s pairs with
  | zero =>
    simp only [drawPairs, Prod.mk.injEq, Option.some.injEq] at h
    simp [← h.1]
  | succ count ih =>
    rw [drawPairs] at h
    rcases hel : s.choose els with ⟨el, s₁⟩
    rcases hcl : s₁.choose cls with ⟨cl, s₂⟩
    rcases hrest : drawPairs els cls count s₂ with ⟨rest, s₃⟩
    rw [hel] at h
    simp only [hcl, hrest] at h
    cases el with
    | none => simp at h
    | some el =>
      cases cl with
      | none => simp at h
      | some cl =>
        simp only [Prod.mk.injEq, Option.map_eq_some_iff] at h
        obtain ⟨⟨later, hlater, rfl⟩, rfl⟩ := h
        obtain ⟨hlength, hmem⟩ := ih (hlater ▸ hrest)
        refine ⟨by simp [hlength], ?_⟩
        intro p hp
        rcases List.mem_cons.1 hp with rfl | hp
        · exact ⟨Random.Source.choose_mem hel, Random.Source.choose_mem hcl⟩
        · exact hmem p hp

/-- Padding nodes run clients that are eligible. -/
theorem pad_eq_ok {c : Catalog} {target : ClientKind} {count first : Nat} {votes : UInt32}
    {s s' : Random.Source} {nodes : List Node}
    (h : c.pad target count first votes s = (.ok nodes, s')) :
    ∃ pairs : List (ExecutionClient × ConsensusClient),
      nodes = nodesOf votes first pairs ∧ pairs.length = count ∧
        ∀ p ∈ pairs, p.1 ∈ c.eligibleExecution target ∧ p.2 ∈ c.eligibleConsensus target := by
  simp only [pad] at h
  split at h
  · next hcount =>
    cases h
    exact ⟨[], rfl, hcount.symm, by simp⟩
  · split at h
    · cases h
    · split at h
      · next pairs s₁ hdraw =>
        cases h
        obtain ⟨hlength, hmem⟩ := drawPairs_eq_some hdraw
        exact ⟨pairs, rfl, hlength, hmem⟩
      · cases h

end Catalog

/-! ## The whole network -/

/-- The pairs of clients from which a network is composed, in the order of its nodes. -/
structure Composition where
  catalog : Catalog
  size : NetworkSize
  /-- The clients of the bootnode, if there is one. -/
  boot : List (ExecutionClient × ConsensusClient)
  /-- The target client with every client of the other side. -/
  targets : List (ExecutionClient × ConsensusClient)
  padding : List (ExecutionClient × ConsensusClient)

/-- The pairs of all nodes, each pair with the target client `multiplier` times in a row. -/
def Composition.pairs (parts : Composition) (multiplier : Nat) :
    List (ExecutionClient × ConsensusClient) :=
  parts.boot ++ parts.targets.flatMap (List.replicate multiplier) ++ parts.padding

namespace Composition

/-- Which parts a planner document asks for. -/
structure Valid (parts : Composition) (d : ClientDefaults) (c : PlannerConfig)
    (target : ClientKind) : Prop where
  catalog : c.catalog d = .ok parts.catalog
  size : c.sizing.size (parts.catalog.counterparts target) = .ok parts.size
  boot : parts.boot.map (fun p => BootnodeConfig.mk p.1.kind p.2.kind) = c.bootnode.toList
  bootDeclared : ∀ p ∈ parts.boot, p.1 ∈ parts.catalog.execution ∧ p.2 ∈ parts.catalog.consensus
  targets : parts.catalog.TargetPairing target parts.targets
  paddingLength : parts.padding.length = parts.size.target - parts.size.base
  paddingEligible : ∀ p ∈ parts.padding,
    p.1 ∈ parts.catalog.eligibleExecution target ∧ p.2 ∈ parts.catalog.eligibleConsensus target

namespace Valid

variable {parts : Composition} {d : ClientDefaults} {c : PlannerConfig} {target : ClientKind}

theorem declared (h : parts.Valid d c target) : parts.catalog.Declared d c :=
  PlannerConfig.catalog_eq_ok h.catalog

/-- There is one bootnode if one is declared, and none otherwise. -/
theorem boot_length (h : parts.Valid d c target) :
    parts.boot.length = c.bootnode.toList.length := by
  rw [← h.boot, List.length_map]

/-- The number of nodes with the target client is exact. -/
theorem base_eq (h : parts.Valid d c target) :
    parts.size.base = c.sizing.factor.toNat * parts.catalog.counterparts target :=
  SizingPolicy.base_of_size h.size (h.declared.counterparts_le target)

/-- The nodes with the target client are as many as the size says. -/
theorem repeated_length (h : parts.Valid d c target) :
    (parts.targets.flatMap (List.replicate c.sizing.factor.toNat)).length = parts.size.base := by
  rw [h.base_eq, ← h.targets.length_eq, Nat.mul_comm]
  simp [List.length_flatMap, List.map_const']

/-- The parts meet: their sizes add up to the size of the network. -/
theorem pairs_length (h : parts.Valid d c target) :
    (parts.pairs c.sizing.factor.toNat).length =
      c.bootnode.toList.length + parts.size.target := by
  have hle := parts.size.base_le_target
  rw [pairs, List.length_append, List.length_append, h.boot_length, h.repeated_length,
    h.paddingLength]
  omega

/-- Every node runs clients of the catalog. -/
theorem mem_pairs (h : parts.Valid d c target) {p : ExecutionClient × ConsensusClient}
    (hp : p ∈ parts.pairs c.sizing.factor.toNat) :
    p.1 ∈ parts.catalog.execution ∧ p.2 ∈ parts.catalog.consensus := by
  rw [pairs, List.mem_append, List.mem_append] at hp
  rcases hp with (hp | hp) | hp
  · exact h.bootDeclared p hp
  · obtain ⟨q, hq, hpq⟩ := List.mem_flatMap.1 hp
    rw [List.eq_of_mem_replicate hpq]
    exact h.targets.mem hq
  · obtain ⟨hel, hcl⟩ := h.paddingEligible p hp
    exact ⟨List.mem_of_mem_filter hel, List.mem_of_mem_filter hcl⟩

/-- The three parts are numbered on from each other. -/
theorem nodesOf_pairs (h : parts.Valid d c target) (votes : UInt32) :
    Catalog.nodesOf votes 1 (parts.pairs c.sizing.factor.toNat) =
      Catalog.nodesOf votes 1 parts.boot ++
        Catalog.nodesOf votes (parts.boot.length + 1)
          (parts.targets.flatMap (List.replicate c.sizing.factor.toNat)) ++
        Catalog.nodesOf votes (parts.boot.length + 1 + parts.size.base) parts.padding := by
  have hpadding : 1 + (parts.boot.length + parts.size.base) =
      parts.boot.length + 1 + parts.size.base := by omega
  rw [pairs, Catalog.nodesOf_append, Catalog.nodesOf_append, List.length_append,
    h.repeated_length, hpadding, Nat.add_comm 1]

end Valid
end Composition

namespace PlannerConfig

/-- The bootnode comes first and runs declared clients of the two kinds asked for. -/
theorem bootnodeNodes_eq_ok {c : PlannerConfig} {catalog : Catalog} {nodes : List Node}
    (h : c.bootnodeNodes catalog = .ok nodes) :
    ∃ pairs : List (ExecutionClient × ConsensusClient),
      nodes = Catalog.nodesOf c.params.keysPerNode 1 pairs ∧
        pairs.map (fun p => BootnodeConfig.mk p.1.kind p.2.kind) = c.bootnode.toList ∧
        ∀ p ∈ pairs, p.1 ∈ catalog.execution ∧ p.2 ∈ catalog.consensus := by
  unfold bootnodeNodes at h
  cases hboot : c.bootnode with
  | none =>
    rw [hboot] at h
    cases h
    exact ⟨[], rfl, rfl, by simp⟩
  | some boot =>
    simp only [hboot] at h
    cases hel : catalog.execution? boot.execution with
    | none => simp [hel] at h
    | some el =>
      cases hcl : catalog.consensus? boot.consensus with
      | none => simp [hel, hcl] at h
      | some cl =>
        simp only [hel, hcl, pure, Except.pure, Except.ok.injEq] at h
        obtain ⟨helMem, helKind⟩ := Catalog.mem_of_execution? hel
        obtain ⟨hclMem, hclKind⟩ := Catalog.mem_of_consensus? hcl
        refine ⟨[(el, cl)], h.symm, ?_, by simp [helMem, hclMem]⟩
        simp [helKind, hclKind]

/-- What is fixed before any chance has a share in a network. -/
theorem skeleton_eq_ok {d : ClientDefaults} {c : PlannerConfig} {target : ClientKind}
    {s : Skeleton} (h : c.skeleton d target = .ok s) :
    c.catalog d = .ok s.catalog ∧ c.bootnodeNodes s.catalog = .ok s.bootnode ∧
      c.sizing.size (s.catalog.counterparts target) = .ok s.size ∧
      ∃ targets, s.catalog.TargetPairing target targets ∧
        s.paired = Catalog.nodesOf c.params.keysPerNode (s.bootnode.length + 1)
          (targets.flatMap (List.replicate c.sizing.factor.toNat)) := by
  unfold skeleton at h
  obtain ⟨catalog, hcatalog, h⟩ := bind_eq_ok.1 h
  obtain ⟨bootnodes, hbootnodes, h⟩ := bind_eq_ok.1 h
  obtain ⟨size, hsize, h⟩ := bind_eq_ok.1 h
  obtain ⟨paired, hpaired, h⟩ := bind_eq_ok.1 h
  obtain ⟨targets, htargets, hnodes⟩ := map_eq_ok.1 hpaired
  cases h
  exact ⟨hcatalog, hbootnodes, hsize, targets, Catalog.targetPairs_eq_ok htargets, hnodes.symm⟩

/-- Eligible clients in the number asked for complete what is fixed to valid parts, which are
numbered on from each other. -/
theorem skeleton_parts {d : ClientDefaults} {c : PlannerConfig} {target : ClientKind}
    {s : Skeleton} (h : c.skeleton d target = .ok s) :
    ∃ boot targets : List (ExecutionClient × ConsensusClient),
      ∀ padding : List (ExecutionClient × ConsensusClient),
        padding.length = s.size.target - s.size.base →
        (∀ p ∈ padding, p.1 ∈ s.catalog.eligibleExecution target ∧
          p.2 ∈ s.catalog.eligibleConsensus target) →
        (Composition.mk s.catalog s.size boot targets padding).Valid d c target ∧
          s.bootnode ++ s.paired ++
              Catalog.nodesOf c.params.keysPerNode (s.firstIndex + s.size.base) padding =
            Catalog.nodesOf c.params.keysPerNode 1
              ((Composition.mk s.catalog s.size boot targets padding).pairs
                c.sizing.factor.toNat) := by
  obtain ⟨hcatalog, hbootnodes, hsize, targets, htargets, hpaired⟩ := skeleton_eq_ok h
  obtain ⟨boot, hboot, hkinds, hdeclared⟩ := bootnodeNodes_eq_ok hbootnodes
  refine ⟨boot, targets, fun padding hlength heligible => ?_⟩
  have hvalid : (Composition.mk s.catalog s.size boot targets padding).Valid d c target :=
    { catalog := hcatalog
      size := hsize
      boot := hkinds
      bootDeclared := hdeclared
      targets := htargets
      paddingLength := hlength
      paddingEligible := heligible }
  have hfirst : s.bootnode.length = boot.length := by rw [hboot, Catalog.nodesOf_length]
  refine ⟨hvalid, ?_⟩
  rw [hvalid.nodesOf_pairs, hpaired, Skeleton.firstIndex, hfirst, hboot]

/-- A composed network is one numbered list of its three parts. -/
theorem compose_eq_ok {d : ClientDefaults} {c : PlannerConfig} {target : ClientKind}
    {source rest : Random.Source} {t : Topology} {bootnode : Option Nat}
    (h : c.compose d target source = (.ok (t, bootnode), rest)) :
    ∃ parts : Composition, parts.Valid d c target ∧
      t.nodes = Catalog.nodesOf c.params.keysPerNode 1 (parts.pairs c.sizing.factor.toNat) ∧
      bootnode = c.bootnode.map fun _ => bootnodeIndex := by
  unfold compose at h
  split at h
  · cases h
  · next s hskeleton =>
    obtain ⟨boot, targets, hparts⟩ := skeleton_parts hskeleton
    split at h
    · cases h
    · next padding s' hpad =>
      obtain ⟨pads, rfl, hlength, heligible⟩ := Catalog.pad_eq_ok hpad
      obtain ⟨hvalid, hnumbered⟩ := hparts pads hlength heligible
      simp only [Prod.mk.injEq, Except.ok.injEq] at h
      obtain ⟨⟨rfl, rfl⟩, _⟩ := h
      exact ⟨_, hvalid, (Catalog.ofNodes_nodesOf hnumbered).trans hnumbered, rfl⟩

end PlannerConfig

/-! ## The structure of composed networks -/

/-- Number of nodes that are set apart in front of the others. -/
def PlannerConfig.bootnodeCount (c : PlannerConfig) : Nat := if c.bootnode.isSome then 1 else 0

/-- What holds of a composed network: its parts have the sizes asked for, follow each other without
gap or overlap, and run the clients asked for. -/
structure Composed (d : ClientDefaults) (c : PlannerConfig) (target : ClientKind)
    (catalog : Catalog) (size : NetworkSize) (t : Topology) (bootnode : Option Nat) : Prop where
  /-- The catalog is what the document declares, with its fields filled. -/
  declared : catalog.Declared d c
  base_eq : size.base = c.sizing.factor.toNat * catalog.counterparts target
  base_le : size.base ≤ size.target
  length_eq : t.nodes.length = c.bootnodeCount + size.target
  indices : t.nodes.map (·.index) = List.range' 1 (c.bootnodeCount + size.target)
  bootnode_eq : bootnode = c.bootnode.map fun _ => 1
  /-- A declared bootnode is node 1 and runs the clients declared for it. -/
  first : ∀ boot ∈ c.bootnode, ∃ n later, t.nodes = n :: later ∧ n.index = 1 ∧
    n.execution.kind = boot.execution ∧ n.consensus.kind = boot.consensus
  /-- The nodes after it run each pair with the target client as often as asked for, in a row. -/
  pairing : ∃ pairs, catalog.TargetPairing target pairs ∧
    ((t.nodes.drop c.bootnodeCount).take size.base).map Node.clients =
      pairs.flatMap (List.replicate c.sizing.factor.toNat) ∧
    ∀ p ∈ pairs, (((t.nodes.drop c.bootnodeCount).take size.base).map Node.clients).count p =
      c.sizing.factor.toNat
  /-- All other nodes are padding. -/
  padding : ∀ n ∈ t.nodes.drop (c.bootnodeCount + size.base), n.runs target = false
  clients : ∀ n ∈ t.nodes, n.execution ∈ catalog.execution ∧ n.consensus ∈ catalog.consensus
  votes : ∀ n ∈ t.nodes, n.votes = c.params.keysPerNode

namespace Composition
namespace Valid

variable {parts : Composition} {d : ClientDefaults} {c : PlannerConfig} {target : ClientKind}

/-- The bootnodes are as many as the document declares. -/
theorem boot_length_eq_count (h : parts.Valid d c target) :
    parts.boot.length = c.bootnodeCount := by
  rw [h.boot_length, PlannerConfig.bootnodeCount]
  cases c.bootnode <;> rfl

/-- A network has as many nodes as the size says, beside the bootnode. -/
theorem length_eq (h : parts.Valid d c target) :
    (parts.pairs c.sizing.factor.toNat).length = c.bootnodeCount + parts.size.target := by
  rw [h.pairs_length, ← h.boot_length, h.boot_length_eq_count]

/-- The nodes after the bootnode, as many as run the target client. -/
theorem target_pairs (h : parts.Valid d c target) :
    ((parts.pairs c.sizing.factor.toNat).drop c.bootnodeCount).take parts.size.base =
      parts.targets.flatMap (List.replicate c.sizing.factor.toNat) := by
  rw [← h.boot_length_eq_count, ← h.repeated_length, pairs, List.append_assoc, List.drop_left,
    List.take_left]

/-- The nodes after those with the target client. -/
theorem padding_pairs (h : parts.Valid d c target) :
    (parts.pairs c.sizing.factor.toNat).drop (c.bootnodeCount + parts.size.base) =
      parts.padding := by
  rw [← h.boot_length_eq_count, ← h.repeated_length, ← List.length_append, pairs, List.drop_left]

/-- Eligible clients are not the target client. -/
theorem padding_runs (h : parts.Valid d c target) {n : Node} (hn : n.clients ∈ parts.padding) :
    n.runs target = false := by
  obtain ⟨hel, hcl⟩ := h.paddingEligible _ hn
  cases target with
  | execution kind => simpa [Node.runs, Node.clients] using (List.mem_filter.1 hel).2
  | consensus kind => simpa [Node.runs, Node.clients] using (List.mem_filter.1 hcl).2

/-- A numbered list of valid parts has the structure of a composed network. -/
theorem composed (h : parts.Valid d c target) {t : Topology}
    (ht : t.nodes = Catalog.nodesOf c.params.keysPerNode 1 (parts.pairs c.sizing.factor.toNat)) :
    Composed d c target parts.catalog parts.size t (c.bootnode.map fun _ => bootnodeIndex) := by
  have hclients : t.nodes.map Node.clients = parts.pairs c.sizing.factor.toNat := by
    rw [ht, Catalog.nodesOf_clients]
  have hmem : ∀ n ∈ t.nodes, n.clients ∈ parts.pairs c.sizing.factor.toNat := fun n hn =>
    hclients ▸ List.mem_map_of_mem hn
  have hindices : t.nodes.map (·.index) =
      List.range' 1 (c.bootnodeCount + parts.size.target) := by
    rw [ht, Catalog.nodesOf_index, h.length_eq]
  have htargets : ((t.nodes.drop c.bootnodeCount).take parts.size.base).map Node.clients =
      parts.targets.flatMap (List.replicate c.sizing.factor.toNat) := by
    rw [List.map_take, List.map_drop, hclients, h.target_pairs]
  refine
    { declared := h.declared
      base_eq := h.base_eq
      base_le := parts.size.base_le_target
      length_eq := by rw [ht, Catalog.nodesOf_length, h.length_eq]
      indices := hindices
      bootnode_eq := rfl
      first := ?_
      pairing := ⟨parts.targets, h.targets, htargets, ?_⟩
      padding := ?_
      clients := fun n hn => h.mem_pairs (hmem n hn)
      votes := fun n hn => Catalog.nodesOf_votes _ _ _ n (ht ▸ hn) }
  · intro boot hboot
    have hkinds := h.boot
    rw [Option.mem_def.1 hboot, Option.toList_some, List.map_eq_singleton_iff] at hkinds
    obtain ⟨p, hp, hkind⟩ := hkinds
    rw [Composition.pairs, hp, List.append_assoc, List.singleton_append] at ht
    refine ⟨_, _, ht, rfl, ?_, ?_⟩
    · rw [← hkind]
    · rw [← hkind]
  · intro p hp
    rw [htargets]
    exact Catalog.count_flatMap_replicate _
      (h.targets.nodup h.declared.execution_nodup h.declared.consensus_nodup) hp
  · intro n hn
    refine h.padding_runs ?_
    have hdrop := List.mem_map_of_mem (f := Node.clients) hn
    rwa [List.map_drop, hclients, h.padding_pairs] at hdrop

end Valid
end Composition

namespace PlannerConfig

/-- Every composed network has the structure that its document asks for, whatever the random
source gives. -/
theorem compose_structure {d : ClientDefaults} {c : PlannerConfig} {target : ClientKind}
    {source rest : Random.Source} {t : Topology} {bootnode : Option Nat}
    (h : c.compose d target source = (.ok (t, bootnode), rest)) :
    ∃ catalog size, c.catalog d = .ok catalog ∧
      c.sizing.size (catalog.counterparts target) = .ok size ∧
      Composed d c target catalog size t bootnode := by
  obtain ⟨parts, hvalid, hnodes, rfl⟩ := compose_eq_ok h
  exact ⟨parts.catalog, parts.size, hvalid.catalog, hvalid.size, hvalid.composed hnodes⟩

/-- A small planner document with a bootnode and two nodes for each pair, which needs no padding. -/
def sample : PlannerConfig where
  execution := [⟨.geth, none⟩, ⟨.besu, none⟩]
  consensus := [⟨.lighthouse, none, none, none, some true⟩, ⟨.teku, none, none, none, none⟩]
  sizing := ⟨some 2, none⟩
  params := { GenesisParams.unset with keysPerNode := 32 }
  bootnode := some ⟨.besu, .teku⟩
  seed := none
  package := "github.com/ethpandaops/ethereum-package"
  kubernetesNamespace := "kt-chaosnet"
  fault :=
    { faultType := "RestartFailures"
      targetClient := "geth"
      waitBeforeFirstTest := none
      dimensions := []
      targeting := ["MatchingNode", "MatchingClient"]
      attackSizes := ["AttackOneMatching", "AttackAllMatching"] }

/-- The network of the sample document. -/
theorem compose_structure_sample :
    ∃ t bootnode rest,
      sample.compose .standard (.execution .geth) (.ofSeed 0) = (.ok (t, bootnode), rest) ∧
        ∃ catalog size, sample.catalog .standard = .ok catalog ∧
          sample.sizing.size (catalog.counterparts (.execution .geth)) = .ok size ∧
          Composed .standard sample (.execution .geth) catalog size t bootnode := by
  have hok : (sample.compose .standard (.execution .geth) (.ofSeed 0)).1.isOk = true := by
    decide +kernel
  obtain ⟨⟨t, bootnode⟩, hcompose⟩ := exists_eq_ok_of_isOk hok
  exact ⟨t, bootnode, _, Prod.ext hcompose rfl, compose_structure (Prod.ext hcompose rfl)⟩

end PlannerConfig
end DevnetChaos
