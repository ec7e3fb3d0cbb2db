import DevnetChaos.Proofs.Planner.Plan
import DevnetChaos.Proofs.Simulation.Coverage

/-!
# Planned suites

What the tests of a plan keep for those who run them: the devnet has no labels that mislead a
search for its pods, every test aims at services of that devnet by name, none of them twice, and no
fault is refused.

Main results:

- `Composition.Valid.plain`: the labels of a planned devnet.
- `Composition.Valid.candidates_bounds`: only the nodes in front of the padding are candidates, and
  these are few.
- `FaultPlan.testOn_aimsAt`: what a compiled test aims at.
- `PlannerConfig.plan_tests`: the tests of a plan.
-/

namespace DevnetChaos

/-! ## Labels -/

/-- Planned execution clients have the default labels. -/
theorem Catalog.Declared.execution_plain {catalog : Catalog} {d : ClientDefaults}
    {c : PlannerConfig} (h : catalog.Declared d c) {el : ExecutionClient}
    (hel : el ∈ catalog.execution) : el.labels.Plain .execution := by
  rw [h.execution] at hel
  obtain ⟨v, _, rfl⟩ := List.mem_map.1 hel
  exact (Labels.plain_empty .execution).withDefaults v.kind.name

/-- The sidecar that a version describes has no labels of its own. -/
theorem ConsensusVersion.sidecar?_labels {v : ConsensusVersion} {s : ValidatorClient}
    (h : s ∈ v.sidecar?) : s.labels = .empty := by
  unfold sidecar? at h
  split at h
  · cases h
    rfl
  · cases h

/-- Planned consensus clients and their sidecars have the default labels. -/
theorem Catalog.Declared.consensus_plain {catalog : Catalog} {d : ClientDefaults}
    {c : PlannerConfig} (h : catalog.Declared d c) {cl : ConsensusClient}
    (hcl : cl ∈ catalog.consensus) :
    cl.labels.Plain .consensus ∧ ∀ s ∈ cl.validator, s.labels.Plain .validator := by
  have hmem : Except.ok cl ∈ c.consensus.map (·.client d) :=
    h.consensus ▸ List.mem_map_of_mem hcl
  obtain ⟨v, _, hv⟩ := List.mem_map.1 hmem
  obtain ⟨_, rfl⟩ := ConsensusClient.backfill_eq_ok.1 hv
  refine ⟨(Labels.plain_empty .consensus).withDefaults v.kind.name, ?_⟩
  intro s hs
  have hdeclared : (v.declared.validator.getD (.ofKind none)).labels = .empty := by
    cases hsidecar : v.sidecar? with
    | none => simp [ConsensusVersion.declared, hsidecar, ValidatorClient.ofKind]
    | some s' =>
      have := ConsensusVersion.sidecar?_labels (Option.mem_def.2 hsidecar)
      simpa [ConsensusVersion.declared, hsidecar] using this
  simp only [ConsensusClient.filled] at hs
  split at hs
  · cases hs
    simp only [ValidatorClient.backfill, hdeclared]
    exact (Labels.plain_empty .validator).withDefaults _
  · cases hs

namespace Composition

/-- The pairs of the nodes in front of the padding. -/
def front (parts : Composition) (multiplier : Nat) : List (ExecutionClient × ConsensusClient) :=
  parts.boot ++ parts.targets.flatMap (List.replicate multiplier)

theorem pairs_eq_front (parts : Composition) (multiplier : Nat) :
    parts.pairs multiplier = parts.front multiplier ++ parts.padding := rfl

namespace Valid

variable {parts : Composition} {d : ClientDefaults} {c : PlannerConfig} {target : ClientKind}
variable {t : Topology}

/-- The labels of a planned devnet are the default ones. -/
theorem plain (h : parts.Valid d c target)
    (ht : t.nodes = Catalog.nodesOf c.params.keysPerNode 1 (parts.pairs c.sizing.factor.toNat)) :
    t.Plain := by
  intro n hn role
  have hclients : n.clients ∈ t.nodes.map Node.clients := List.mem_map_of_mem hn
  rw [ht, Catalog.nodesOf_clients] at hclients
  obtain ⟨hel, hcl⟩ := h.mem_pairs hclients
  obtain ⟨hconsensus, hvalidator⟩ := h.declared.consensus_plain hcl
  cases role with
  | execution => exact h.declared.execution_plain hel
  | consensus => exact hconsensus
  | validator =>
    cases hsidecar : n.consensus.validator with
    | none =>
      simp only [Cluster.declaredLabels, hsidecar]
      exact Labels.plain_empty .validator
    | some s =>
      simp only [Cluster.declaredLabels, hsidecar]
      exact hvalidator s (Option.mem_def.2 hsidecar)

/-! ## Candidates -/

/-- The nodes before the padding are fewer than a word can count. -/
theorem front_length_le (h : parts.Valid d c target) :
    (parts.front c.sizing.factor.toNat).length ≤ 1 + 4294967296 * 7 := by
  have hboot : parts.boot.length ≤ 1 := by
    rw [h.boot_length]
    cases c.bootnode <;> simp
  have hfactor : c.sizing.factor.toNat < 4294967296 := c.sizing.factor.toNat_lt
  have hbase : parts.size.base ≤ 4294967296 * 7 := by
    rw [h.base_eq]
    exact Nat.mul_le_mul (Nat.le_of_lt hfactor) (h.declared.counterparts_le target)
  rw [front, List.length_append, h.repeated_length]
  omega

/-- Padding is never attacked: every candidate stands in front of it. -/
theorem candidates_eq (h : parts.Valid d c target)
    (ht : t.nodes = Catalog.nodesOf c.params.keysPerNode 1 (parts.pairs c.sizing.factor.toNat))
    (bootnode : Option Nat) :
    t.candidates target bootnode =
      (Catalog.nodesOf c.params.keysPerNode 1 (parts.front c.sizing.factor.toNat)).filter
        fun n => some n.index != bootnode && n.runs target := by
  have hpadding : ∀ first, (Catalog.nodesOf c.params.keysPerNode first parts.padding).filter
      (fun n => some n.index != bootnode && n.runs target) = [] := by
    intro first
    refine List.filter_eq_nil_iff.2 fun n hn => ?_
    have hclients : n.clients ∈
        (Catalog.nodesOf c.params.keysPerNode first parts.padding).map Node.clients :=
      List.mem_map_of_mem hn
    rw [Catalog.nodesOf_clients] at hclients
    simp [h.padding_runs hclients]
  rw [Topology.candidates, ht, pairs_eq_front, Catalog.nodesOf_append, List.filter_append,
    hpadding, List.append_nil]

/-- The candidates fit into words, however large the network is. -/
theorem candidates_bounds (h : parts.Valid d c target)
    (ht : t.nodes = Catalog.nodesOf c.params.keysPerNode 1 (parts.pairs c.sizing.factor.toNat))
    (bootnode : Option Nat) :
    (∀ n ∈ t.candidates target bootnode, n.index < wordCount) ∧
      2 * (t.candidates target bootnode).length < wordCount := by
  have hfront := h.front_length_le
  rw [h.candidates_eq ht]
  constructor
  · intro n hn
    have hindex : n.index ∈ (Catalog.nodesOf c.params.keysPerNode 1
        (parts.front c.sizing.factor.toNat)).map (·.index) :=
      List.mem_map_of_mem (List.mem_of_mem_filter hn)
    rw [Catalog.nodesOf_index] at hindex
    have hlt := (List.mem_range'_1.1 hindex).2
    have hword : 1 + (1 + 4294967296 * 7) < wordCount := by decide
    omega
  · have hle := List.length_filter_le (fun n : Node => some n.index != bootnode && n.runs target)
      (Catalog.nodesOf c.params.keysPerNode 1 (parts.front c.sizing.factor.toNat))
    rw [Catalog.nodesOf_length] at hle
    have hword : 2 * (1 + 4294967296 * 7) < wordCount := by decide
    omega

end Valid
end Composition

/-! ## Tests -/

/-- A fault that names its pods is not refused. -/
theorem Fault.validate_serviceIds {fault : Fault} {ids : List String}
    (h : fault.selector = [.serviceIds ids]) : fault.validate = .ok () := by
  cases fault with
  | ioLatency selector =>
    obtain rfl : selector = [.serviceIds ids] := h
    simp [validate, ensureServiceIds, foreignRequirement?, Requirement.serviceIds]
  | clockSkew selector | podRestart selector | networkLatency selector | packetDrop selector =>
    obtain rfl : selector = [.serviceIds ids] := h
    rfl

/-- A test that aims at services of a devnet is not refused. -/
theorem SuiteTest.AimsAt.validate {test : SuiteTest} {t : Topology} (h : test.AimsAt t) :
    test.validate = .ok () := by
  refine forM_eq_ok.2 fun fault hfault => ?_
  obtain ⟨ids, hids⟩ := h.selectors fault hfault
  rw [Fault.validate_serviceIds hids]
  rfl

namespace FaultPlan

variable {plan : FaultPlan} {d : ClientDefaults} {t : Topology}

/-- Every compiled fault names its pods. -/
theorem attackSteps_selector {params : FaultParams} {size : Nat} {description : String}
    {services : List ServiceName} {fault : Fault}
    (h : fault ∈ (params.attackSteps d size description services).filterMap PlanStep.fault?) :
    ∃ ids, fault.selector = [.serviceIds ids] := by
  obtain ⟨step, hstep, hfault⟩ := List.mem_filterMap.1 h
  cases params with
  | ioLatency delay percent duration =>
    obtain ⟨s, _, rfl⟩ := List.mem_map.1 hstep
    cases hfault
    exact ⟨_, rfl⟩
  | clockSkew | restartFailures | networkLatency | packetDrop =>
    cases List.mem_singleton.1 hstep
    cases hfault
    exact ⟨_, rfl⟩

/-- A compiled test aims at services of its devnet. -/
theorem testOn_aimsAt {c : Combination} {nodes : List Node} (hnodes : ∀ n ∈ nodes, n ∈ t.nodes)
    (hindices : (nodes.map (·.index)).Nodup) : (plan.testOn d t c nodes).AimsAt t where
  selectors := by
    intro fault hfault
    rw [SuiteTest.faults, testOn, List.filterMap_append, List.mem_append] at hfault
    rcases hfault with hfault | hfault
    · exact attackSteps_selector hfault
    · cases hfault
  named := by
    intro name hname
    rw [testOn_namedPods] at hname
    obtain ⟨s, hs, rfl⟩ := List.mem_map.1 hname
    obtain ⟨n, hn, hs⟩ := List.mem_flatMap.1 hs
    obtain ⟨role, _, hservice⟩ := Node.mem_servicesIn.1 hs
    have hname : t.serviceName? n role = some (s.render t.size) :=
      Option.map_eq_some_iff.2 ⟨s, hservice, rfl⟩
    exact Topology.mem_allNames.2 ⟨n, hnodes n hn, role, hname⟩
  once := testOn_namedPods_nodup hindices

end FaultPlan

namespace PlannerConfig

variable {d : ClientDefaults} {c : PlannerConfig} {source : Random.Source} {p : Plan}

/-- No two nodes of a plan have one index. -/
theorem plan_distinct (h : c.plan d source = .ok p) : p.topology.Distinct :=
  (plan_numbered h).distinct

/-- The topology of a plan sets none of the labels that pods are found by. -/
theorem plan_plain (h : c.plan d source = .ok p) : p.topology.Plain := by
  obtain ⟨_, _, _, _, hcompose, _⟩ := plan_eq_ok h
  obtain ⟨parts, hvalid, hnodes, _⟩ := compose_eq_ok (Prod.ext hcompose rfl)
  exact hvalid.plain hnodes

/-- Every test of a plan checks pods and aims at services of the planned devnet. -/
theorem plan_tests (h : c.plan d source = .ok p) :
    ∀ test ∈ p.tests, test.health.enabled = true ∧ test.AimsAt p.topology := by
  obtain ⟨fault, dimensions, _, _, hcompose, hcompile, _⟩ := plan_eq_ok h
  obtain ⟨parts, hvalid, hnodes, _⟩ := compose_eq_ok (Prod.ext hcompose rfl)
  obtain ⟨hword, hcount⟩ := hvalid.candidates_bounds hnodes p.bootnode
  have hdistinct := plan_distinct h
  rw [FaultPlan.compile_eq hdistinct hword hcount] at hcompile
  split at hcompile
  · cases hcompile
  · rw [← Except.ok.inj hcompile]
    intro test htest
    obtain ⟨x, _, rfl⟩ := List.mem_map.1 htest
    refine ⟨rfl, FaultPlan.testOn_aimsAt ?_ ?_⟩
    · exact fun n hn => (Topology.mem_candidates.1 (List.mem_of_mem_take hn)).1
    · exact hdistinct.candidates.sublist ((List.take_sublist ..).map _)

/-- No experiment of a plan is refused. -/
theorem plan_validate (h : c.plan d source = .ok p) (enclave : String) :
    (p.experiment enclave).validate = .ok () :=
  forM_eq_ok.2 fun test htest => (plan_tests h test htest).2.validate

end PlannerConfig
end DevnetChaos
