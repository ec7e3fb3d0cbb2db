import DevnetChaos.Proofs.Planner.Composition

/-!
# Plans and their networks

The network of a plan is written from its topology, one group for each node.  Whoever builds this
network, with whatever defaults of their own, arrives at that topology again.

Main results:

- `PlannerConfig.plan_eq_ok`: the stages of a plan.
- `Composition.Valid.numbered`: a composed topology is numbered and its clients are filled.
- `PlannerConfig.ofNetwork_plan`: the network of a plan rebuilds its topology.
-/

namespace DevnetChaos

/-- A composed topology is numbered and its clients are filled. -/
theorem Composition.Valid.numbered {parts : Composition} {d : ClientDefaults} {c : PlannerConfig}
    {target : ClientKind} (h : parts.Valid d c target) {t : Topology}
    (ht : t.nodes = Catalog.nodesOf c.params.keysPerNode 1 (parts.pairs c.sizing.factor.toNat)) :
    t.Numbered c.params.keysPerNode := by
  have hmem : ∀ n ∈ t.nodes, n.execution ∈ parts.catalog.execution ∧
      n.consensus ∈ parts.catalog.consensus := by
    intro n hn
    have hclients : n.clients ∈ t.nodes.map Node.clients := List.mem_map_of_mem hn
    rw [ht, Catalog.nodesOf_clients] at hclients
    exact h.mem_pairs hclients
  exact
    { indices := by rw [ht, Catalog.nodesOf_index, Catalog.nodesOf_length]
      execution := fun n hn => h.declared.execution_filled (hmem n hn).1
      consensus := fun n hn => h.declared.consensus_filled (hmem n hn).2
      votes := fun n hn => Catalog.nodesOf_votes _ _ _ n (ht ▸ hn) }

namespace PlannerConfig

variable {d : ClientDefaults} {c : PlannerConfig} {source : Random.Source} {p : Plan}

/-- A plan comes from a fault section, its dimensions, a composed network and compiled tests. -/
theorem plan_eq_ok (h : c.plan d source = .ok p) :
    ∃ fault dimensions, c.faultPlan = .ok fault ∧
      parseDimensions fault.faultType c.fault.dimensions = .ok dimensions ∧
      (c.compose d fault.target source).1 = .ok (p.topology, p.bootnode) ∧
      fault.compile d dimensions p.topology p.bootnode = .ok p.tests ∧
      p = { topology := p.topology
            network := .generated p.topology.participants c.params
            tests := p.tests
            bootnode := p.bootnode
            waitBeforeFirstTest := c.fault.waitBeforeFirstTest
            package := c.package
            kubernetesNamespace := c.kubernetesNamespace } := by
  unfold PlannerConfig.plan at h
  obtain ⟨fault, hfault, h⟩ := bind_eq_ok.1 h
  obtain ⟨dimensions, hdimensions, h⟩ := bind_eq_ok.1 h
  obtain ⟨⟨topology, bootnode⟩, hcompose, h⟩ := bind_eq_ok.1 h
  obtain ⟨tests, htests, h⟩ := bind_eq_ok.1 h
  cases h
  exact ⟨fault, dimensions, Input.ofExcept_eq_ok.1 hfault, hdimensions,
    Input.ofExcept_eq_ok.1 hcompose, Input.ofExcept_eq_ok.1 htests, rfl⟩

/-- The topology of a plan is numbered and its clients are filled. -/
theorem plan_numbered (h : c.plan d source = .ok p) :
    p.topology.Numbered c.params.keysPerNode := by
  obtain ⟨fault, _, _, _, hcompose, _⟩ := plan_eq_ok h
  obtain ⟨parts, hvalid, hnodes, _⟩ := compose_eq_ok (Prod.ext hcompose rfl)
  exact hvalid.numbered hnodes

theorem plan_network (h : c.plan d source = .ok p) :
    p.network = .generated p.topology.participants c.params := by
  obtain ⟨_, _, _, _, _, _, hp⟩ := plan_eq_ok h
  rw [hp]

/-- The network of a plan rebuilds its topology, whatever the defaults of the builder are. -/
theorem ofNetwork_plan (h : c.plan d source = .ok p) (d' : ClientDefaults) :
    Topology.ofNetwork d' p.network = .ok p.topology := by
  rw [plan_network h]
  exact (plan_numbered h).ofNetwork_generated d'

theorem ofNetwork_plan_sample :
    ∃ p, sample.plan .standard (.ofSeed 0) = .ok p ∧
      Topology.ofNetwork (ClientDefaults.standard.withExecutionImage .geth "geth:other")
        p.network = .ok p.topology := by
  have hok : (sample.plan .standard (.ofSeed 0)).isOk = true := by decide +kernel
  obtain ⟨p, hplan⟩ := exists_eq_ok_of_isOk hok
  exact ⟨p, hplan, ofNetwork_plan hplan _⟩

end PlannerConfig
end DevnetChaos
