import DevnetChaos.Planner.Suite
import DevnetChaos.Proofs.Planner.AttackSize
import DevnetChaos.Proofs.Target.Resolution

/-!
# What a compiled suite hits

A suite has one test for each combination that can be satisfied, and each test names exactly the
services in scope on the first of the nodes that can be attacked.  Neither the resolution of the
target, nor the check of its selector, nor the reading of the rendered names can fail on the way.

Main definitions:

- `Topology.candidates`: the nodes that can be attacked.
- `FaultPlan.satisfiable`: the combinations that become tests, with their numbers of nodes.
- `FaultParams.attackSteps`: the inject steps against given services.
- `FaultPlan.testOn`: the test of a combination on given nodes.
- `SuiteTest.namedPods`: the pods that the faults of a test name.

Main results:

- `FaultPlan.compileTest_eq_ok`: compilation of a test succeeds.
- `FaultPlan.testOn_namedPods`: the pods named by a test are the services of its nodes.
- `FaultPlan.compile_eq`: a suite as a whole.
- `FaultPlan.compile_exact`: which tests there are, and what they hit and spare.
-/

namespace DevnetChaos

/-! ## Candidates -/

/-- The nodes that run the target client and are not the bootnode, in the order of the
topology. -/
def Topology.candidates (t : Topology) (target : ClientKind) (bootnode : Option Nat) : List Node :=
  t.nodes.filter fun n => some n.index != bootnode && n.runs target

namespace Topology

variable {t : Topology} {target : ClientKind} {bootnode : Option Nat}

theorem attackable_eq : t.attackable target bootnode =
    (t.candidates target bootnode).map (·.index) := rfl

theorem mem_candidates {n : Node} : n ∈ t.candidates target bootnode ↔
    n ∈ t.nodes ∧ some n.index ≠ bootnode ∧ n.runs target = true := by
  simp [candidates]

theorem Distinct.candidates (h : t.Distinct) :
    ((t.candidates target bootnode).map (·.index)).Nodup :=
  h.sublist (List.filter_sublist.map _)

/-- The candidates of a topology in index order are in index order. -/
theorem candidates_sorted (h : t.nodes.Pairwise fun a b => a.index < b.index) :
    (t.candidates target bootnode).Pairwise fun a b => a.index < b.index :=
  h.filter _

end Topology

/-! ## Inject steps -/

/-- The I/O fault on one service, on the volume that holds the data of its client. -/
def ServiceName.volumeStep (d : ClientDefaults) (size : Nat) (delay : Duration) (percent : UInt8)
    (duration : Duration) (s : ServiceName) : PlanStep :=
  .injectFault ("inject I/O latency on " ++ s.render size)
    (.ioLatency [.serviceIds [s.render size]] (d.dataDirectory s.role s.client) delay percent
      duration)

/-- The inject steps against given services: with I/O latency one for each service, and one that
names all of them otherwise. -/
def FaultParams.attackSteps (d : ClientDefaults) (size : Nat) (description : String)
    (services : List ServiceName) : FaultParams → List PlanStep
  | .ioLatency delay percent duration =>
      services.map (·.volumeStep d size delay percent duration)
  | params =>
      let fault := params.fault [.serviceIds (services.map (·.render size))]
      [.injectFault ("inject " ++ fault.kind ++ " (" ++ params.display ++ ") on " ++ description)
        fault]

/-- A rendered name is read back, so the volume of its service is found. -/
theorem volumeInjection_render {d : ClientDefaults} {size : Nat} {delay : Duration}
    {percent : UInt8} {duration : Duration} {s : ServiceName} (hword : s.index < wordCount) :
    volumeInjection d delay percent duration (s.render size) =
      .ok (s.volumeStep d size delay percent duration) := by
  rw [volumeInjection, ServiceName.parse_render size hword]
  rfl

/-- Injections against named services succeed. -/
theorem injections_eq_ok {d : ClientDefaults} {size : Nat} {description : String}
    {services : List ServiceName} (params : FaultParams)
    (hword : ∀ s ∈ services, s.index < wordCount) :
    injections d params [⟨description, [.serviceIds (services.map (·.render size))]⟩] =
      .ok (params.attackSteps d size description services) := by
  have hsteps : injectionsFor d params
      ⟨description, [.serviceIds (services.map (·.render size))]⟩ =
        .ok (params.attackSteps d size description services) := by
    cases params with
    | ioLatency delay percent duration =>
      have hcheck : ensureServiceIds "I/O latency"
          [.serviceIds (services.map (·.render size))] = .ok () := by
        simp [ensureServiceIds, foreignRequirement?, Requirement.serviceIds]
      have hpods : (services.map (·.render size)).mapM
          (volumeInjection d delay percent duration) =
            .ok (services.map (·.volumeStep d size delay percent duration)) := by
        rw [mapM_eq_ok, List.map_map, List.map_map]
        exact List.map_congr_left fun s hs => volumeInjection_render (hword s hs)
      simp only [injectionsFor, hcheck, List.flatMap_cons, List.flatMap_nil, List.append_nil]
      exact hpods
    | clockSkew => rfl
    | restartFailures => rfl
    | networkLatency => rfl
    | packetDrop => rfl
  rw [injections, List.mapM_cons, hsteps]
  simp [bind, Except.bind, pure, Except.pure]

/-! ## Tests -/

/-- The pods that the faults of a test name, in order. -/
def SuiteTest.namedPods (test : SuiteTest) : List String :=
  test.faults.flatMap fun fault => fault.selector.flatMap (·.values)

namespace FaultPlan

variable {plan : FaultPlan} {d : ClientDefaults} {t : Topology}

/-- The combinations that become tests, with the number of nodes that each hits. -/
def satisfiable (plan : FaultPlan) (dimensions : List ParamDimension) (candidates : Nat) :
    List (Combination × Nat) :=
  (plan.combinations dimensions).filterMap fun c => (c.size.nodeCount candidates).map (c, ·)

/-- The services in scope on given nodes, by node and then by role. -/
def servicesOn (plan : FaultPlan) (targeting : Targeting) (nodes : List Node) :
    List ServiceName :=
  nodes.flatMap (·.servicesIn (TargetDescription.scopeRoles (plan.scope targeting)))

/-- The test of a combination on given nodes. -/
def testOn (plan : FaultPlan) (d : ClientDefaults) (t : Topology) (c : Combination)
    (nodes : List Node) : SuiteTest where
  name := plan.testName c
  steps :=
    c.dimension.params.attackSteps d t.size
        (TargetDescription.nodes (nodes.map (·.index)) (plan.scope c.targeting)).display
        (plan.servicesOn c.targeting nodes)
      ++ [PlanStep.awaitAll]
  health := .on c.dimension.gracePeriod

/-- The scope of a test fits every node that runs the target client. -/
theorem scopeFits_of_runs {n : Node} (targeting : Targeting) (h : n.runs plan.target = true) :
    TargetDescription.scopeFits n (plan.scope targeting) = true := by
  cases targeting with
  | matchingNode => rfl
  | matchingClient => exact h

/-- Compilation of a test succeeds on nodes that run the target client. -/
theorem compileTest_eq_ok (ht : t.Distinct) {c : Combination} {nodes : List Node}
    (hnodes : ∀ n ∈ nodes, n ∈ t.nodes ∧ n.runs plan.target = true)
    (hword : ∀ n ∈ nodes, n.index < wordCount) (hsome : nodes ≠ []) :
    plan.compileTest d t c (nodes.map (·.index)) = .ok (plan.testOn d t c nodes) := by
  have hfits : ∀ n ∈ nodes, n ∈ t.nodes ∧
      TargetDescription.scopeFits n (plan.scope c.targeting) = true := fun n hn =>
    ⟨(hnodes n hn).1, scopeFits_of_runs c.targeting (hnodes n hn).2⟩
  have hservices : ∀ s ∈ plan.servicesOn c.targeting nodes, s.index < wordCount := by
    intro s hs
    obtain ⟨n, hn, hsn⟩ := List.mem_flatMap.1 hs
    rw [Node.index_of_mem_servicesIn hsn]
    exact hword n hn
  have hresolve := TargetDescription.resolve_nodes ht hfits hsome
  exact bind_eq_ok.2 ⟨_, hresolve, bind_eq_ok.2
    ⟨_, injections_eq_ok c.dimension.params hservices, rfl⟩⟩

/-! ## The pods that a test names -/

/-- The faults of inject steps against given services name these services. -/
theorem attackSteps_named (params : FaultParams) (size : Nat) (description : String)
    (services : List ServiceName) :
    ((params.attackSteps d size description services).filterMap PlanStep.fault?).flatMap
      (fun fault => fault.selector.flatMap (·.values)) = services.map (·.render size) := by
  have hsingle : ∀ xs : List String, [Requirement.serviceIds xs].flatMap (·.values) = xs :=
    fun xs => List.append_nil xs
  cases params with
  | ioLatency delay percent duration =>
    induction services with
    | nil => rfl
    | cons s rest ih =>
      simp only [FaultParams.attackSteps, List.map_cons] at ih ⊢
      rw [List.filterMap_cons_some (by rfl), List.flatMap_cons, ih]
      exact congrArg (· ++ rest.map (·.render size)) (hsingle [s.render size])
  | clockSkew => exact (List.append_nil _).trans (hsingle _)
  | restartFailures => exact (List.append_nil _).trans (hsingle _)
  | networkLatency => exact (List.append_nil _).trans (hsingle _)
  | packetDrop => exact (List.append_nil _).trans (hsingle _)

/-- The pods named by a test are the services in scope on its nodes. -/
theorem testOn_namedPods (c : Combination) (nodes : List Node) :
    (plan.testOn d t c nodes).namedPods =
      (plan.servicesOn c.targeting nodes).map (·.render t.size) := by
  rw [SuiteTest.namedPods, SuiteTest.faults, testOn, List.filterMap_append, List.flatMap_append,
    attackSteps_named]
  exact List.append_nil _

/-- No pod is named twice. -/
theorem testOn_namedPods_nodup {c : Combination} {nodes : List Node}
    (hindices : (nodes.map (·.index)).Nodup) : (plan.testOn d t c nodes).namedPods.Nodup := by
  rw [testOn_namedPods]
  exact Topology.nodup_names t.size hindices (TargetDescription.nodup_scopeRoles _)

/-- No service of a node elsewhere is named. -/
theorem not_mem_testOn_namedPods {c : Combination} {nodes : List Node} {n : Node}
    (hn : n.index ∉ nodes.map (·.index)) {name : String} (hname : name ∈ t.serviceNames n) :
    name ∉ (plan.testOn d t c nodes).namedPods := by
  rw [testOn_namedPods]
  intro hmem
  rw [Topology.serviceNames, Topology.filterMap_serviceName?] at hname
  obtain ⟨s, hs, rfl⟩ := List.mem_map.1 hname
  obtain ⟨s', hs', hrender⟩ := List.mem_map.1 hmem
  obtain ⟨m, hm, hs'⟩ := List.mem_flatMap.1 hs'
  have hindex : m.index = n.index := by
    rw [← Node.index_of_mem_servicesIn hs', ← Node.index_of_mem_servicesIn hs,
      ServiceName.eq_of_render_eq hrender]
  exact hn (hindex ▸ List.mem_map_of_mem hm)

/-! ## The suite -/

/-- Every combination that can be satisfied is compiled, and the others are left out. -/
theorem compileAll_eq_ok (ht : t.Distinct) {nodes : List Node}
    (hnodes : ∀ n ∈ nodes, n ∈ t.nodes ∧ n.runs plan.target = true)
    (hword : ∀ n ∈ nodes, n.index < wordCount) (hcount : 2 * nodes.length < wordCount)
    (combinations : List Combination) :
    plan.compileAll d t (nodes.map (·.index)) combinations =
      .ok ((combinations.filterMap fun c => (c.size.nodeCount nodes.length).map (c, ·)).map
        fun x => plan.testOn d t x.1 (nodes.take x.2)) := by
  induction combinations with
  | nil => rfl
  | cons c rest ih =>
    rw [compileAll, List.length_map]
    cases hk : c.size.nodeCount nodes.length with
    | none =>
      rw [List.filterMap_cons_none (by rw [hk]; rfl)]
      exact ih
    | some k =>
      obtain ⟨hpos, hle⟩ := AttackSize.nodeCount_bounds hcount hk
      have hsome : nodes.take k ≠ [] := by
        intro hnil
        have hlength := congrArg List.length hnil
        rw [List.length_take, List.length_nil] at hlength
        omega
      have htest : plan.compileTest d t c ((nodes.map (·.index)).take k) =
          .ok (plan.testOn d t c (nodes.take k)) := by
        rw [← List.map_take]
        exact compileTest_eq_ok ht (fun n hn => hnodes n (List.mem_of_mem_take hn))
          (fun n hn => hword n (List.mem_of_mem_take hn)) hsome
      rw [List.filterMap_cons_some (by rw [hk]; rfl), List.map_cons]
      exact bind_eq_ok.2 ⟨_, htest, bind_eq_ok.2 ⟨_, ih, rfl⟩⟩

/-- A suite has one test for each combination that can be satisfied, and one without any is
refused.  Only the candidates have to fit into words. -/
theorem compile_eq (ht : t.Distinct) {dimensions : List ParamDimension} {bootnode : Option Nat}
    (hword : ∀ n ∈ t.candidates plan.target bootnode, n.index < wordCount)
    (hcount : 2 * (t.candidates plan.target bootnode).length < wordCount) :
    plan.compile d dimensions t bootnode =
      if (plan.satisfiable dimensions (t.candidates plan.target bootnode).length).isEmpty then
        .error (.configuration (.nothingCompiled plan.faultType.name plan.target.name
          (t.candidates plan.target bootnode).length))
      else
        .ok ((plan.satisfiable dimensions (t.candidates plan.target bootnode).length).map
          fun x => plan.testOn d t x.1 ((t.candidates plan.target bootnode).take x.2)) := by
  have hnodes : ∀ n ∈ t.candidates plan.target bootnode,
      n ∈ t.nodes ∧ n.runs plan.target = true := fun n hn =>
    ⟨(Topology.mem_candidates.1 hn).1, (Topology.mem_candidates.1 hn).2.2⟩
  have hall : plan.compileAll d t (t.attackable plan.target bootnode)
      (plan.combinations dimensions) =
        .ok ((plan.satisfiable dimensions (t.candidates plan.target bootnode).length).map
          fun x => plan.testOn d t x.1 ((t.candidates plan.target bootnode).take x.2)) :=
    compileAll_eq_ok ht hnodes hword hcount _
  simp only [compile, hall, bind, Except.bind, List.isEmpty_map]
  rw [Topology.attackable_eq, List.length_map]
  split <;> rfl

end FaultPlan

/-! ## Exact suites -/

/-- What every list of nodes in memory keeps: indices are words, and twice the number of nodes is
one. -/
structure Topology.FitsWords (t : Topology) : Prop where
  index : ∀ n ∈ t.nodes, n.index < wordCount
  count : 2 * t.nodes.length < wordCount

namespace FaultPlan

/-- What the test of a combination hits: the services in scope on the first `count` candidates,
each once and in order, and none of the bootnode. -/
structure Hits (plan : FaultPlan) (t : Topology) (bootnode : Option Nat) (c : Combination)
    (count : Nat) (test : SuiteTest) : Prop where
  positive : 1 ≤ count
  enough : count ≤ (t.candidates plan.target bootnode).length
  named : test.namedPods =
    (plan.servicesOn c.targeting ((t.candidates plan.target bootnode).take count)).map
      (·.render t.size)
  once : test.namedPods.Nodup
  spared : ∀ n ∈ t.nodes, some n.index = bootnode →
    ∀ name ∈ t.serviceNames n, name ∉ test.namedPods

/-- What compilation comes to: a refusal where no combination can be satisfied, and otherwise one
test for each that can, in the order of dimensions, targeting and sizes. -/
structure ExactSuite (plan : FaultPlan) (d : ClientDefaults) (dimensions : List ParamDimension)
    (t : Topology) (bootnode : Option Nat) : Prop where
  refused : plan.satisfiable dimensions (t.candidates plan.target bootnode).length = [] →
    plan.compile d dimensions t bootnode =
      .error (.configuration (.nothingCompiled plan.faultType.name plan.target.name
        (t.candidates plan.target bootnode).length))
  compiled : plan.satisfiable dimensions (t.candidates plan.target bootnode).length ≠ [] →
    plan.compile d dimensions t bootnode =
      .ok ((plan.satisfiable dimensions (t.candidates plan.target bootnode).length).map
        fun x => plan.testOn d t x.1 ((t.candidates plan.target bootnode).take x.2))
  hits : ∀ x ∈ plan.satisfiable dimensions (t.candidates plan.target bootnode).length,
    plan.Hits t bootnode x.1 x.2
      (plan.testOn d t x.1 ((t.candidates plan.target bootnode).take x.2))
  ordered : (t.nodes.Pairwise fun a b => a.index < b.index) →
    (t.candidates plan.target bootnode).Pairwise fun a b => a.index < b.index

variable {plan : FaultPlan} {d : ClientDefaults} {t : Topology}

/-- A test on the first candidates hits their services and spares the bootnode. -/
theorem testOn_hits (ht : t.Distinct) {bootnode : Option Nat} {c : Combination} {count : Nat}
    (hpos : 1 ≤ count) (hle : count ≤ (t.candidates plan.target bootnode).length) :
    plan.Hits t bootnode c count
      (plan.testOn d t c ((t.candidates plan.target bootnode).take count)) := by
  refine
    { positive := hpos
      enough := hle
      named := testOn_namedPods c _
      once := testOn_namedPods_nodup (ht.candidates.sublist ((List.take_sublist ..).map _))
      spared := ?_ }
  intro n _ hboot name hname
  refine not_mem_testOn_namedPods ?_ hname
  intro hmem
  obtain ⟨m, hm, hindex⟩ := List.mem_map.1 hmem
  exact (Topology.mem_candidates.1 (List.mem_of_mem_take hm)).2.1 (hindex ▸ hboot)

/-- Compilation is exact on every topology whose nodes have different indices. -/
theorem compile_exact (plan : FaultPlan) (d : ClientDefaults) (dimensions : List ParamDimension)
    (bootnode : Option Nat) (ht : t.Distinct) (hwords : t.FitsWords) :
    plan.ExactSuite d dimensions t bootnode := by
  have hword : ∀ n ∈ t.candidates plan.target bootnode, n.index < wordCount := fun n hn =>
    hwords.index n (Topology.mem_candidates.1 hn).1
  have hlength : (t.candidates plan.target bootnode).length ≤ t.nodes.length :=
    List.length_filter_le ..
  have hcount : 2 * (t.candidates plan.target bootnode).length < wordCount :=
    Nat.lt_of_le_of_lt (Nat.mul_le_mul_left 2 hlength) hwords.count
  have hcompile := @compile_eq plan d t ht dimensions bootnode hword hcount
  refine
    { refused := fun hnone => by rw [hcompile, hnone]; rfl
      compiled := fun hsome => by rw [hcompile, if_neg (by simpa using hsome)]
      hits := ?_
      ordered := Topology.candidates_sorted }
  intro x hx
  obtain ⟨c, _, hc⟩ := List.mem_filterMap.1 hx
  obtain ⟨count, hsize, rfl⟩ := Option.map_eq_some_iff.1 hc
  obtain ⟨hpos, hle⟩ := AttackSize.nodeCount_bounds hcount hsize
  exact testOn_hits ht hpos hle

/-- Two nodes that run the same execution client, the first of them a bootnode. -/
def sampleTopology : Topology :=
  ⟨[⟨1, .ofKind .geth, .ofKind .teku, 0⟩,
    ⟨2, .ofKind .geth, (ConsensusClient.ofKind .lighthouse).withSidecar none, 0⟩]⟩

theorem compile_exact_sample :
    sampleTopology.Distinct ∧ sampleTopology.FitsWords ∧
      ExactSuite ⟨.restartFailures, .execution .geth, [.matchingNode], [.one, .minority]⟩
        .standard [⟨.restartFailures, none⟩] sampleTopology (some 1) := by
  have ht : sampleTopology.Distinct := by unfold Topology.Distinct; decide
  have hwords : sampleTopology.FitsWords := ⟨by decide, by decide⟩
  exact ⟨ht, hwords, compile_exact _ _ _ _ ht hwords⟩

end FaultPlan
end DevnetChaos
