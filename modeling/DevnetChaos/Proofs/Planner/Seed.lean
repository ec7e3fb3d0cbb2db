import DevnetChaos.Proofs.Simulation.PlannedSuite

/-!
# What the seed of a plan decides

A plan draws nothing but the clients of its padding nodes.  Two plans of one document from different
sources of random words are refused alike, or they have the same tests, the same size and the same
nodes in front of the padding.

Main definitions:

- `Composition.repadded`: the same parts with other padding.
- `SameFront`: two networks of one document that differ in their padding alone.
- `Plan.SameButPadding`: what two plans of one document have in common.

Main results:

- `Catalog.pad_refused_or_padded`: whether padding fails is decided by the catalog.
- `PlannerConfig.compose_sources`: two networks of one document differ in their padding alone.
- `FaultPlan.compile_congr`: a suite depends on the size of the network and its candidates.
- `SameFront.compile_eq`: so padding has no part in a suite.
- `PlannerConfig.plan_sources`: two plans of one document.
-/

namespace DevnetChaos

/-! ## Drawing -/

namespace Catalog

/-- From clients on both sides pairs are drawn, whatever the source gives. -/
theorem drawPairs_isSome {els : List ExecutionClient} {cls : List ConsensusClient}
    (hels : els ≠ []) (hcls : cls ≠ []) (helsFit : els.length < 4294967296)
    (hclsFit : cls.length < 4294967296) (count : Nat) (s : Random.Source) :
    (drawPairs els cls count s).1.isSome = true := by
  induction count generalizing s with
  | zero => rfl
  | succ count ih =>
    rw [drawPairs]
    have hel := s.choose_isSome hels helsFit
    rcases hchosen : s.choose els with ⟨el?, s₁⟩
    rw [hchosen] at hel
    obtain ⟨el, rfl⟩ := Option.isSome_iff_exists.1 hel
    have hcl := s₁.choose_isSome hcls hclsFit
    rcases hchosen' : s₁.choose cls with ⟨cl?, s₂⟩
    rw [hchosen'] at hcl
    obtain ⟨cl, rfl⟩ := Option.isSome_iff_exists.1 hcl
    simp only [hchosen', Option.isSome_map]
    exact ih s₂

/-- Neither side of a catalog is longer than the number of its clients that there are. -/
theorem Declared.length_le {catalog : Catalog} {d : ClientDefaults} {c : PlannerConfig}
    (h : catalog.Declared d c) : catalog.execution.length ≤ 7 ∧ catalog.consensus.length ≤ 7 :=
  ⟨h.counterparts_le (.consensus .teku), h.counterparts_le (.execution .geth)⟩

/-- Whether a network can be padded is decided by the catalog: no source makes padding fail that
another one carries out. -/
theorem pad_refused_or_padded {catalog : Catalog} (hels : catalog.execution.length ≤ 7)
    (hcls : catalog.consensus.length ≤ 7) (target : ClientKind) (count first : Nat)
    (votes : UInt32) :
    (∀ s, catalog.pad target count first votes s =
        (.error (.configuration (.cannotPad count target.role.name target.name)), s)) ∨
      ∀ s, ∃ nodes rest, catalog.pad target count first votes s = (.ok nodes, rest) := by
  have helsFit : (catalog.eligibleExecution target).length < 4294967296 := by
    have hle : (catalog.eligibleExecution target).length ≤ catalog.execution.length :=
      List.length_filter_le ..
    omega
  have hclsFit : (catalog.eligibleConsensus target).length < 4294967296 := by
    have hle : (catalog.eligibleConsensus target).length ≤ catalog.consensus.length :=
      List.length_filter_le ..
    omega
  by_cases hcount : count = 0
  · right
    intro s
    exact ⟨[], s, by simp [pad, hcount]⟩
  by_cases hnone : (catalog.eligibleExecution target).isEmpty ||
      (catalog.eligibleConsensus target).isEmpty
  · left
    intro s
    simp only [pad, if_neg hcount, if_pos hnone]
  · right
    intro s
    -- What may be drawn is fixed by the catalog; the source decides only which of it is drawn.
    simp only [Bool.or_eq_true, List.isEmpty_iff, not_or] at hnone
    have hdrawn := drawPairs_isSome hnone.1 hnone.2 helsFit hclsFit count s
    rcases hdraw : drawPairs (catalog.eligibleExecution target) (catalog.eligibleConsensus target)
      count s with ⟨pairs?, rest⟩
    rw [hdraw] at hdrawn
    obtain ⟨pairs, rfl⟩ := Option.isSome_iff_exists.1 hdrawn
    refine ⟨nodesOf votes first pairs, rest, ?_⟩
    simp [pad, hcount, hnone, hdraw]

end Catalog

/-! ## Single networks -/

namespace Composition

/-- The same parts with other padding. -/
def repadded (parts : Composition) (padding : List (ExecutionClient × ConsensusClient)) :
    Composition :=
  { parts with padding }

variable {parts : Composition} {d : ClientDefaults} {c : PlannerConfig} {target : ClientKind}
variable {t : Topology}

@[simp]
theorem repadded_front (padding : List (ExecutionClient × ConsensusClient)) (multiplier : Nat) :
    (parts.repadded padding).front multiplier = parts.front multiplier := rfl

/-- As many nodes come before the padding as the bootnode and the target client account for. -/
theorem Valid.front_length (h : parts.Valid d c target) :
    (parts.front c.sizing.factor.toNat).length = c.bootnodeCount + parts.size.base := by
  rw [front, List.length_append, h.boot_length_eq_count, h.repeated_length]

/-- A node in front of the padding is found there. -/
theorem Valid.node?_front (h : parts.Valid d c target)
    (ht : t.nodes = Catalog.nodesOf c.params.keysPerNode 1 (parts.pairs c.sizing.factor.toNat))
    {index : Nat} (hindex : index ≤ c.bootnodeCount + parts.size.base) :
    t.node? index = (Catalog.nodesOf c.params.keysPerNode 1
      (parts.front c.sizing.factor.toNat)).find? fun n => n.index == index := by
  have hlater : (Catalog.nodesOf c.params.keysPerNode
      (1 + (parts.front c.sizing.factor.toNat).length) parts.padding).find?
        (fun n => n.index == index) = none := by
    apply List.find?_eq_none.2
    intro n hn
    have hn := List.mem_map_of_mem (f := fun n : Node => n.index) hn
    rw [Catalog.nodesOf_index, h.front_length, List.mem_range'_1] at hn
    simp only [beq_iff_eq]
    omega
  rw [Topology.node?, ht, pairs_eq_front, Catalog.nodesOf_append, List.find?_append, hlater,
    Option.or_none]

/-- A network has as many nodes as its size says, beside the bootnode. -/
theorem Valid.topology_size (h : parts.Valid d c target)
    (ht : t.nodes = Catalog.nodesOf c.params.keysPerNode 1 (parts.pairs c.sizing.factor.toNat)) :
    t.size = c.bootnodeCount + parts.size.target := by
  rw [Topology.size, ht, Catalog.nodesOf_length, h.length_eq]

theorem Valid.distinct (h : parts.Valid d c target)
    (ht : t.nodes = Catalog.nodesOf c.params.keysPerNode 1 (parts.pairs c.sizing.factor.toNat)) :
    t.Distinct :=
  (h.numbered ht).distinct

/-- Where no padding is needed there is none. -/
theorem Valid.padding_eq_nil (h : parts.Valid d c target)
    (hsize : parts.size.base = parts.size.target) : parts.padding = [] := by
  apply List.eq_nil_of_length_eq_zero
  rw [h.paddingLength, hsize, Nat.sub_self]

end Composition

/-- A suite depends on nothing of a topology but its size and its candidates. -/
theorem FaultPlan.compile_congr {plan : FaultPlan} {d : ClientDefaults} {t t' : Topology}
    (ht : t.Distinct) (ht' : t'.Distinct) (hsize : t.size = t'.size)
    {dimensions : List ParamDimension} {bootnode : Option Nat}
    (hcandidates : t.candidates plan.target bootnode = t'.candidates plan.target bootnode)
    (hword : ∀ n ∈ t.candidates plan.target bootnode, n.index < wordCount)
    (hcount : 2 * (t.candidates plan.target bootnode).length < wordCount) :
    plan.compile d dimensions t bootnode = plan.compile d dimensions t' bootnode := by
  -- The size is there in a test as the width of the indices in the names of its targets.
  have htests : ∀ c nodes, plan.testOn d t c nodes = plan.testOn d t' c nodes := by
    intro c nodes
    rw [testOn, testOn, hsize]
  rw [compile_eq ht hword hcount]
  rw [hcandidates] at hword hcount ⊢
  rw [compile_eq ht' hword hcount]
  simp only [htests]

/-! ## Two networks of one document -/

/-- Two networks of one document that differ in their padding alone. -/
structure SameFront (d : ClientDefaults) (c : PlannerConfig) (target : ClientKind)
    (parts : Composition) (padding : List (ExecutionClient × ConsensusClient))
    (t t' : Topology) : Prop where
  first : parts.Valid d c target
  second : (parts.repadded padding).Valid d c target
  firstNodes :
    t.nodes = Catalog.nodesOf c.params.keysPerNode 1 (parts.pairs c.sizing.factor.toNat)
  secondNodes : t'.nodes = Catalog.nodesOf c.params.keysPerNode 1
    ((parts.repadded padding).pairs c.sizing.factor.toNat)

namespace SameFront

variable {d : ClientDefaults} {c : PlannerConfig} {target : ClientKind} {parts : Composition}
variable {padding : List (ExecutionClient × ConsensusClient)} {t t' : Topology}

/-- Networks with the same front have the same size. -/
theorem size_eq (h : SameFront d c target parts padding t t') : t.size = t'.size := by
  rw [h.first.topology_size h.firstNodes, h.second.topology_size h.secondNodes]
  rfl

/-- Nodes before the padding are the same. -/
theorem node?_eq (h : SameFront d c target parts padding t t') {index : Nat}
    (hindex : index ≤ c.bootnodeCount + parts.size.base) : t.node? index = t'.node? index := by
  rw [h.first.node?_front h.firstNodes hindex, h.second.node?_front h.secondNodes hindex,
    Composition.repadded_front]

/-- Padding is never attacked and the size is the same, so the suites are. -/
theorem compile_eq {fault : FaultPlan} (h : SameFront d c fault.target parts padding t t')
    (dimensions : List ParamDimension) (bootnode : Option Nat) :
    fault.compile d dimensions t bootnode = fault.compile d dimensions t' bootnode := by
  have hcandidates : t.candidates fault.target bootnode = t'.candidates fault.target bootnode := by
    rw [h.first.candidates_eq h.firstNodes, h.second.candidates_eq h.secondNodes,
      Composition.repadded_front]
  obtain ⟨hword, hcount⟩ := h.first.candidates_bounds h.firstNodes bootnode
  exact FaultPlan.compile_congr (h.first.distinct h.firstNodes) (h.second.distinct h.secondNodes)
    h.size_eq hcandidates hword hcount

/-- Where no padding is needed there is but one network. -/
theorem eq_of_unpadded (h : SameFront d c target parts padding t t')
    (hsize : parts.size.base = parts.size.target) : t = t' := by
  have hpairs : (parts.repadded padding).pairs = parts.pairs := by
    funext multiplier
    rw [Composition.pairs_eq_front, Composition.pairs_eq_front, h.first.padding_eq_nil hsize,
      h.second.padding_eq_nil hsize, Composition.repadded_front]
  rw [Topology.mk.injEq, h.firstNodes, h.secondNodes, hpairs]

end SameFront

namespace PlannerConfig

variable {d : ClientDefaults} {c : PlannerConfig}

/-- Two sources are refused a network alike, or they are given networks that differ in their padding
alone. -/
theorem compose_sources (d : ClientDefaults) (c : PlannerConfig) (target : ClientKind)
    (s s' : Random.Source) :
    (∃ failure, (c.compose d target s).1 = .error failure ∧
        (c.compose d target s').1 = .error failure) ∨
      ∃ t t' parts padding,
        (c.compose d target s).1 = .ok (t, c.bootnode.map fun _ => bootnodeIndex) ∧
          (c.compose d target s').1 = .ok (t', c.bootnode.map fun _ => bootnodeIndex) ∧
          SameFront d c target parts padding t t' := by
  cases hskeleton : c.skeleton d target with
  | error failure =>
    left
    exact ⟨failure, by simp only [compose, hskeleton], by simp only [compose, hskeleton]⟩
  | ok k =>
    have hlength := (catalog_eq_ok (skeleton_eq_ok hskeleton).1).length_le
    rcases Catalog.pad_refused_or_padded hlength.1 hlength.2 target (k.size.target - k.size.base)
      (k.firstIndex + k.size.base) c.params.keysPerNode with hrefused | hpadded
    · left
      refine ⟨.configuration (.cannotPad (k.size.target - k.size.base) target.role.name
        target.name), ?_, ?_⟩
      · simp only [compose, hskeleton, hrefused s]
      · simp only [compose, hskeleton, hrefused s']
    · right
      -- Bootnode and targets are settled before anything is drawn, so both networks share them.
      obtain ⟨boot, targets, hparts⟩ := skeleton_parts hskeleton
      obtain ⟨nodes, rest, hpad⟩ := hpadded s
      obtain ⟨nodes', rest', hpad'⟩ := hpadded s'
      obtain ⟨pads, rfl, hcount, heligible⟩ := Catalog.pad_eq_ok hpad
      obtain ⟨pads', rfl, hcount', heligible'⟩ := Catalog.pad_eq_ok hpad'
      obtain ⟨hvalid, hnodes⟩ := hparts pads hcount heligible
      obtain ⟨hvalid', hnodes'⟩ := hparts pads' hcount' heligible'
      have hsame : SameFront d c target ⟨k.catalog, k.size, boot, targets, pads⟩ pads' _ _ :=
        { first := hvalid
          second := hvalid'
          firstNodes := (Catalog.ofNodes_nodesOf hnodes).trans hnodes
          secondNodes := (Catalog.ofNodes_nodesOf hnodes').trans hnodes' }
      refine ⟨_, _, _, pads', ?_, ?_, hsame⟩
      · simp only [compose, hskeleton, hpad]
      · simp only [compose, hskeleton, hpad']

end PlannerConfig

/-! ## Plans -/

/-- What two plans of one document have in common: all but their nodes after the first `front`
ones. -/
structure Plan.SameButPadding (front : Nat) (p p' : Plan) : Prop where
  tests : p.tests = p'.tests
  bootnode : p.bootnode = p'.bootnode
  wait : p.waitBeforeFirstTest = p'.waitBeforeFirstTest
  package : p.package = p'.package
  kubernetesNamespace : p.kubernetesNamespace = p'.kubernetesNamespace
  params : p.network.params = p'.network.params
  size : p.topology.size = p'.topology.size
  nodes : ∀ index ≤ front, p.topology.node? index = p'.topology.node? index

namespace PlannerConfig

variable {d : ClientDefaults} {c : PlannerConfig}

/-- What is left of a plan when the words are checked, the parameters are read and the network is
composed. -/
theorem plan_eq_of_compose {source : Random.Source} {fault : FaultPlan}
    {dimensions : List ParamDimension} {t : Topology} {bootnode : Option Nat}
    (hfault : c.faultPlan = .ok fault)
    (hdimensions : parseDimensions fault.faultType c.fault.dimensions = .ok dimensions)
    (hcompose : (c.compose d fault.target source).1 = .ok (t, bootnode)) :
    c.plan d source = (Input.ofExcept (fault.compile d dimensions t bootnode)).map fun tests =>
      { topology := t
        network := .generated t.participants c.params
        tests
        bootnode
        waitBeforeFirstTest := c.fault.waitBeforeFirstTest
        package := c.package
        kubernetesNamespace := c.kubernetesNamespace } := by
  rw [plan, hfault]
  simp only [Input.ofExcept, hdimensions, hcompose, bind, Except.bind, pure, Except.pure]
  cases fault.compile d dimensions t bootnode <;> rfl

/-- Networks that differ in their padding alone are refused a suite alike, or they are given plans
that have everything else in common. -/
theorem plan_of_sameFront {s s' : Random.Source} {fault : FaultPlan}
    {dimensions : List ParamDimension} {t t' : Topology} {parts : Composition}
    {padding : List (ExecutionClient × ConsensusClient)} (hfault : c.faultPlan = .ok fault)
    (hdimensions : parseDimensions fault.faultType c.fault.dimensions = .ok dimensions)
    (h : (c.compose d fault.target s).1 = .ok (t, c.bootnode.map fun _ => bootnodeIndex))
    (h' : (c.compose d fault.target s').1 = .ok (t', c.bootnode.map fun _ => bootnodeIndex))
    (hfront : SameFront d c fault.target parts padding t t') :
    (∃ cause, c.plan d s = .error cause ∧ c.plan d s' = .error cause) ∨
      ∃ p p', c.plan d s = .ok p ∧ c.plan d s' = .ok p' ∧
        p.SameButPadding (c.bootnodeCount + parts.size.base) p' ∧
        (parts.size.base = parts.size.target → p = p') := by
  have hplan := plan_eq_of_compose hfault hdimensions h
  have hplan' := plan_eq_of_compose hfault hdimensions h'
  rw [← hfront.compile_eq] at hplan'
  cases htests : fault.compile d dimensions t (c.bootnode.map fun _ => bootnodeIndex) with
  | error failure =>
    left
    rw [htests] at hplan hplan'
    exact ⟨.refused failure, hplan, hplan'⟩
  | ok tests =>
    right
    rw [htests] at hplan hplan'
    refine ⟨_, _, hplan, hplan', ?_, ?_⟩
    · exact
        { tests := rfl
          bootnode := rfl
          wait := rfl
          package := rfl
          kubernetesNamespace := rfl
          params := rfl
          size := hfront.size_eq
          nodes := fun index hindex => hfront.node?_eq hindex }
    · intro hsize
      rw [hfront.eq_of_unpadded hsize]

/-- Two plans of one document from different sources of random words are refused alike, or they have
everything in common but their padding.  Where none is needed they are the same. -/
theorem plan_sources (d : ClientDefaults) (c : PlannerConfig) (s s' : Random.Source) :
    (∃ cause, c.plan d s = .error cause ∧ c.plan d s' = .error cause) ∨
      ∃ p p' fault catalog size, c.plan d s = .ok p ∧ c.plan d s' = .ok p' ∧
        c.faultPlan = .ok fault ∧ c.catalog d = .ok catalog ∧
        c.sizing.size (catalog.counterparts fault.target) = .ok size ∧
        p.SameButPadding (c.bootnodeCount + size.base) p' ∧
        (size.base = size.target → p = p') := by
  cases hfault : c.faultPlan with
  | error failure =>
    left
    exact ⟨.refused failure, by rw [plan, hfault]; rfl, by rw [plan, hfault]; rfl⟩
  | ok fault =>
    cases hdimensions : parseDimensions fault.faultType c.fault.dimensions with
    | error flaw =>
      left
      refine ⟨flaw, ?_, ?_⟩
      · simp only [plan, hfault, Input.ofExcept, hdimensions, bind, Except.bind]
      · simp only [plan, hfault, Input.ofExcept, hdimensions, bind, Except.bind]
    | ok dimensions =>
      rcases compose_sources d c fault.target s s' with
        ⟨failure, h, h'⟩ | ⟨t, t', parts, padding, h, h', hfront⟩
      · left
        refine ⟨.refused failure, ?_, ?_⟩
        · simp only [plan, hfault, Input.ofExcept, hdimensions, h, bind, Except.bind]
        · simp only [plan, hfault, Input.ofExcept, hdimensions, h', bind, Except.bind]
      · rcases plan_of_sameFront hfault hdimensions h h' hfront with
          hrefused | ⟨p, p', hp, hp', hsame, hequal⟩
        · exact .inl hrefused
        · exact .inr ⟨p, p', fault, parts.catalog, parts.size, hp, hp', rfl, hfront.first.catalog,
            hfront.first.size, hsame, hequal⟩

/-- The sample document needs no padding, so all its plans are the same. -/
theorem plan_sources_sample : ∃ p, sample.plan .standard (.ofSeed 1) = .ok p ∧
    sample.plan .standard (.ofSeed 2) = .ok p := by
  have hok : (sample.plan .standard (.ofSeed 1)).isOk = true := by decide +kernel
  obtain ⟨first, hfirst⟩ := exists_eq_ok_of_isOk hok
  rcases plan_sources .standard sample (.ofSeed 1) (.ofSeed 2) with
    ⟨cause, hcause, -⟩ | ⟨p, p', fault, catalog, size, hp, hp', -, -, hsize, -, hsame⟩
  · rw [hfirst] at hcause
    cases hcause
  · have hunpadded : size.base = size.target := by
      rw [sample, SizingPolicy.size, if_neg (by decide)] at hsize
      cases hsize
      rfl
    have heq : p = p' := hsame hunpadded
    exact ⟨p, hp, heq ▸ hp'⟩

end PlannerConfig
end DevnetChaos
