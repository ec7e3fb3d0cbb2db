import DevnetChaos.Proofs.Target.Resolution
import DevnetChaos.Proofs.Topology.Numbered
import DevnetChaos.Topology.Observed
import Mathlib.Data.List.Forall2

/-!
# Topologies read off their services

The names of the services of a declared network, in whatever order they are reported, are put
together to nodes with the indices, the clients and the sidecars of the declared ones.

Main definitions:

- `ServiceName.slot`: the place that a service takes in a topology.
- `Topology.observedNode?`: what an execution service and the services beside it are put together
  to.
- `Node.observed`: what the services of a node are put together to.

Main results:

- `Topology.ofServices_eq_ok`: which names are put together to a topology.
- `Topology.ofServices_eq_error`: why names are not put together.
- `Topology.reconcile_services`: the services of nodes in order, reported in any order.
- `Topology.ofServices_rendered`: the same for their rendered names.
- `Topology.ofServices_declared`: a declared topology and the one that is read off its services.
-/

namespace DevnetChaos

/-! ## Reading names -/

/-- The place that a service takes in a topology. -/
def ServiceName.slot (s : ServiceName) : Role × Nat := (s.role, s.index)

/-- Whether a service takes a slot that another one has. -/
theorem any_sameSlot_iff {seen : List ServiceName} {s : ServiceName} :
    seen.any s.sameSlot = true ↔ s.slot ∈ seen.map (·.slot) := by
  simp only [List.any_eq_true, ServiceName.sameSlot, ServiceName.slot, Bool.and_eq_true, beq_iff_eq,
    List.mem_map, Prod.mk.injEq]
  exact ⟨fun ⟨x, hx, hr, hi⟩ => ⟨x, hx, hr.symm, hi.symm⟩,
    fun ⟨x, hx, hr, hi⟩ => ⟨x, hx, hr.symm, hi.symm⟩⟩

/-- One more service takes a place of its own when no other has it. -/
theorem nodup_slots_concat {seen : List ServiceName} {s : ServiceName} :
    ((seen ++ [s]).map (·.slot)).Nodup ↔
      (seen.map (·.slot)).Nodup ∧ ¬ seen.any s.sameSlot = true := by
  rw [any_sameSlot_iff, List.map_append, List.nodup_append_comm, List.map_singleton,
    List.singleton_append, List.nodup_cons, and_comm]

/-- A name is read after those before it, and refused if its place is taken. -/
theorem readServices_cons (seen : List ServiceName) (name : String) (rest : List String) :
    readServices seen (name :: rest) =
      (ServiceName.parse name).bind fun s =>
        if seen.any s.sameSlot then
          .error (.inconsistentTopology (.duplicateService s.role.name s.index))
        else readServices (seen ++ [s]) rest := by
  rw [readServices]
  cases ServiceName.parse name with
  | error failure => rfl
  | ok s =>
    simp only [bind, Except.bind]
    split <;> rfl

/-- Names are read when each of them parses and no two services take one slot. -/
theorem readServices_eq_ok {names : List String} {seen services : List ServiceName}
    (hseen : (seen.map (·.slot)).Nodup) :
    readServices seen names = .ok services ↔
      ∃ later, names.map ServiceName.parse = later.map .ok ∧ services = seen ++ later ∧
        (services.map (·.slot)).Nodup := by
  induction names generalizing seen with
  | nil =>
    constructor
    · intro h
      cases h
      exact ⟨[], rfl, (List.append_nil services).symm, hseen⟩
    · intro ⟨later, hlater, hservices, _⟩
      have hnil : later = [] := by simpa using hlater
      rw [hservices, hnil, List.append_nil]
      rfl
  | cons name rest ih =>
    rw [readServices_cons]
    constructor
    · intro h
      obtain ⟨s, hs, h⟩ := bind_eq_ok.1 h
      by_cases htaken : seen.any s.sameSlot = true
      · rw [if_pos htaken] at h
        cases h
      · rw [if_neg htaken] at h
        have hseen' := nodup_slots_concat.2 ⟨hseen, htaken⟩
        obtain ⟨later, hlater, hservices, hslots⟩ := (ih hseen').1 h
        exact ⟨s :: later, by simp [hs, hlater], by simp [hservices], hslots⟩
    · intro ⟨later, hlater, hservices, hslots⟩
      cases later with
      | nil => simp at hlater
      | cons s later =>
        simp only [List.map_cons, List.cons.injEq] at hlater
        have hservices' : services = seen ++ [s] ++ later := by simp [hservices]
        have hseen' : ((seen ++ [s]).map (·.slot)).Nodup := by
          rw [hservices', List.map_append] at hslots
          exact hslots.of_append_left
        have htaken := (nodup_slots_concat.1 hseen').2
        rw [hlater.1]
        simp only [Except.bind, htaken]
        exact (ih hseen').2 ⟨later, hlater.2, hservices', hslots⟩

namespace Topology

/-! ## Putting services together -/

/-- Which names are put together to a topology. -/
theorem ofServices_eq_ok {names : List String} {t : Topology} :
    ofServices names = .ok t ↔
      ∃ services, names.map ServiceName.parse = services.map .ok ∧
        (services.map (·.slot)).Nodup ∧ reconcile services = .ok t := by
  have hnone : (([] : List ServiceName).map (·.slot)).Nodup := List.nodup_nil
  rw [ofServices, bind_eq_ok]
  constructor
  · intro ⟨services, hread, hreconcile⟩
    obtain ⟨later, hlater, hservices, hslots⟩ := (readServices_eq_ok hnone).1 hread
    rw [List.nil_append] at hservices
    exact ⟨services, hservices ▸ hlater, hslots, hreconcile⟩
  · intro ⟨services, hparse, hslots, hreconcile⟩
    exact ⟨services, (readServices_eq_ok hnone).2 ⟨services, hparse, rfl, hslots⟩, hreconcile⟩

/-- What an execution service and the services beside it are put together to. -/
def observedNode? (cls vcs : List ServiceName) (el : ServiceName) : Option Node :=
  (serviceAt? cls el.index).map fun cl =>
    ⟨el.index, .ofKind el.execution, observedConsensus cl (serviceAt? vcs el.index), 0⟩

/-- Execution services are put together to nodes when each has a consensus service beside it. -/
theorem observedNodes_eq_ok {cls vcs els : List ServiceName} {nodes : List Node} :
    observedNodes cls vcs els = .ok nodes ↔ els.map (observedNode? cls vcs) = nodes.map some := by
  induction els generalizing nodes with
  | nil => cases nodes <;> simp [observedNodes]
  | cons el rest ih =>
    rw [observedNodes]
    cases hcl : serviceAt? cls el.index with
    | none =>
      have hnode : observedNode? cls vcs el = none := by simp [observedNode?, hcl]
      cases nodes <;> simp [hnode]
    | some cl =>
      have hnode : observedNode? cls vcs el = some ⟨el.index, .ofKind el.execution,
          observedConsensus cl (serviceAt? vcs el.index), 0⟩ := by
        simp [observedNode?, hcl]
      rw [List.map_cons, hnode]
      change (observedNodes cls vcs rest >>= fun later => Except.ok (_ :: later)) = _ ↔ _
      rw [bind_eq_ok]
      cases nodes with
      | nil => simp
      | cons n later => simp [ih, and_comm]

/-- When services of which no two share a slot are put together, and to what. -/
theorem reconcile_eq_ok {services : List ServiceName} {t : Topology} :
    reconcile services = .ok t ↔
      (servicesOf .execution services).map
          (observedNode? (servicesOf .consensus services) (servicesOf .validator services)) =
        t.nodes.map some ∧
      orphan? (servicesOf .execution services) (servicesOf .consensus services) = none ∧
      orphan? (servicesOf .execution services) (servicesOf .validator services) = none := by
  rw [reconcile, bind_eq_ok]
  simp only [observedNodes_eq_ok]
  constructor
  · intro ⟨nodes, hnodes, h⟩
    cases hcl : orphan? (servicesOf .execution services) (servicesOf .consensus services) with
    | some cl =>
      rw [hcl] at h
      cases h
    | none =>
      cases hvc : orphan? (servicesOf .execution services) (servicesOf .validator services) with
      | some vc =>
        rw [hcl, hvc] at h
        cases h
      | none =>
        rw [hcl, hvc] at h
        cases h
        exact ⟨hnodes, rfl, rfl⟩
  · intro ⟨hnodes, hcl, hvc⟩
    refine ⟨t.nodes, hnodes, ?_⟩
    rw [hcl, hvc]
    rfl

/-! ## Names that are not put together -/

/-- Names are refused because one is not recognised or two claim one place. -/
theorem readServices_eq_error {names : List String} {seen : List ServiceName} {failure : Failure}
    (h : readServices seen names = .error failure) :
    (∃ name, failure = .unrecognizedService name) ∨
      ∃ flaw, failure = .inconsistentTopology flaw := by
  induction names generalizing seen with
  | nil => cases h
  | cons name rest ih =>
    rw [readServices_cons] at h
    rcases bind_eq_error.1 h with hparse | ⟨s, -, h⟩
    · rw [ServiceName.parse] at hparse
      split at hparse
      · cases hparse
      · cases hparse
        exact .inl ⟨name, rfl⟩
    · split at h
      · cases h
        exact .inr ⟨_, rfl⟩
      · exact ih h

/-- Services are refused only for how they fit together. -/
theorem observedNodes_eq_error {cls vcs els : List ServiceName} {failure : Failure}
    (h : observedNodes cls vcs els = .error failure) :
    ∃ flaw, failure = .inconsistentTopology flaw := by
  induction els with
  | nil => cases h
  | cons el rest ih =>
    rw [observedNodes] at h
    split at h
    · rcases bind_eq_error.1 h with h | ⟨nodes, -, h⟩
      · exact ih h
      · cases h
    · cases h
      exact ⟨_, rfl⟩

/-- Names are not put together because one of them is no name of a service, or because they do not
fit together. -/
theorem ofServices_eq_error {names : List String} {failure : Failure}
    (h : ofServices names = .error failure) :
    (∃ name, failure = .unrecognizedService name) ∨
      ∃ flaw, failure = .inconsistentTopology flaw := by
  rcases bind_eq_error.1 h with h | ⟨services, -, h⟩
  · exact readServices_eq_error h
  · rcases bind_eq_error.1 h with h | ⟨nodes, -, h⟩
    · exact .inr (observedNodes_eq_error h)
    · dsimp only at h
      split at h
      · cases h
        exact .inr ⟨_, rfl⟩
      · split at h
        · cases h
          exact .inr ⟨_, rfl⟩
        · cases h

end Topology

/-! ## Services of nodes in order -/

namespace Node

/-- What the services of a node are put together to: index, clients and the type of a sidecar. -/
def observed (n : Node) : Node where
  index := n.index
  execution := .ofKind n.execution.kind
  consensus :=
    match n.consensus.validatorKind? with
    | some kind => (ConsensusClient.ofKind n.consensus.kind).withSidecar (some kind)
    | none => .ofKind n.consensus.kind
  votes := 0

/-- A node is observed with the clients that it runs. -/
theorem observed_fingerprint (n : Node) : n.observed.fingerprint = n.fingerprint := by
  rw [fingerprint, observed]
  cases n.consensus.validatorKind? <;> rfl

/-- A sidecar is observed where a service of a validator runs. -/
theorem observed_hasSidecar (n : Node) :
    n.observed.consensus.hasSidecar = n.consensus.validatorKind?.isSome := by
  rw [observed]
  cases n.consensus.validatorKind? <;> rfl

/-- The validator is observed as the client that it is. -/
theorem observed_validatorKind? (n : Node) :
    n.observed.consensus.validatorKind? = n.consensus.validatorKind? := by
  rw [observed]
  cases n.consensus.validatorKind? <;> rfl

/-- The services of one role among all services of a node. -/
theorem filter_servicesIn (n : Node) (role : Role) :
    (n.servicesIn Role.all).filter (fun s => s.role == role) = (n.service? role).toList := by
  cases hvc : n.consensus.validatorKind? <;> cases role <;>
    simp [servicesIn, Role.all, service?, hvc]

end Node

namespace Topology

variable {nodes : List Node} {services : List ServiceName}

/-- The services of one role are found in the order of the nodes, in whatever order all services
are reported. -/
theorem servicesOf_services (hsorted : nodes.Pairwise fun a b => a.index < b.index)
    (hservices : services.Perm (nodes.flatMap (·.servicesIn Role.all))) (role : Role) :
    servicesOf role services = nodes.filterMap (·.service? role) := by
  have hrole : (nodes.flatMap (·.servicesIn Role.all)).filter (fun s => s.role == role) =
      nodes.filterMap (·.service? role) := by
    simp only [List.filter_flatMap, Node.filter_servicesIn, List.filterMap_eq_flatMap_toList]
  have hperm := hservices.filter fun s => s.role == role
  rw [hrole] at hperm
  refine sortOn_eq_of_perm hperm (hsorted.filterMap _ ?_)
  intro a b hlt s hs s' hs'
  rw [(Node.service?_eq_some hs).2, (Node.service?_eq_some hs').2]
  exact hlt

/-- A service is found by the index of its node. -/
theorem serviceAt?_services (hindices : (nodes.map (·.index)).Nodup) {n : Node} (hn : n ∈ nodes)
    (role : Role) : serviceAt? (nodes.filterMap (·.service? role)) n.index = n.service? role := by
  cases hfound : serviceAt? (nodes.filterMap (·.service? role)) n.index with
  | none =>
    cases hs : n.service? role with
    | none => rfl
    | some s =>
      have hmem : s ∈ nodes.filterMap (·.service? role) := List.mem_filterMap.2 ⟨n, hn, hs⟩
      have hother := List.find?_eq_none.1 hfound s hmem
      simp [(Node.service?_eq_some hs).2] at hother
  | some s =>
    obtain ⟨m, hm, hs⟩ := List.mem_filterMap.1 (List.mem_of_find?_eq_some hfound)
    have hindex : s.index = n.index := by simpa using List.find?_some hfound
    have hsame : m.index = n.index := (Node.service?_eq_some hs).2.symm.trans hindex
    have hnode : m = n := List.inj_on_of_nodup_map hindices hm hn hsame
    rw [← hs, hnode]

/-- The services of nodes in the order of their indices are put together to what is observed of
these nodes, in whatever order they are reported. -/
theorem reconcile_services (hsorted : nodes.Pairwise fun a b => a.index < b.index)
    (hservices : services.Perm (nodes.flatMap (·.servicesIn Role.all))) :
    reconcile services = .ok ⟨nodes.map Node.observed⟩ := by
  have hindices : (nodes.map (·.index)).Nodup := List.pairwise_map.2 (hsorted.imp Nat.ne_of_lt)
  have hat : ∀ n ∈ nodes, ∀ role,
      serviceAt? (servicesOf role services) n.index = n.service? role := by
    intro n hn role
    rw [servicesOf_services hsorted hservices]
    exact serviceAt?_services hindices hn role
  have horphan : ∀ role,
      orphan? (servicesOf .execution services) (servicesOf role services) = none := by
    intro role
    refine List.find?_eq_none.2 fun s hs => ?_
    rw [servicesOf_services hsorted hservices] at hs
    obtain ⟨n, hn, hs⟩ := List.mem_filterMap.1 hs
    rw [(Node.service?_eq_some hs).2, hat n hn]
    simp [Node.service?]
  refine reconcile_eq_ok.2 ⟨?_, horphan .consensus, horphan .validator⟩
  have hexecution : servicesOf .execution services =
      nodes.map fun n => ⟨.execution, n.index, n.execution.kind, n.consensus.kind⟩ := by
    rw [servicesOf_services hsorted hservices]
    exact congrFun List.filterMap_eq_map' nodes
  rw [hexecution, List.map_map, List.map_map]
  refine List.map_congr_left fun n hn => ?_
  simp only [Function.comp_apply, observedNode?, hat n hn]
  cases hvc : n.consensus.validatorKind? <;>
    simp [Node.service?, Node.observed, observedConsensus, hvc]

/-! ## Names of services -/

/-- Names that all parse are read one by one. -/
theorem map_parse_eq {names : List String}
    (hparse : ∀ name ∈ names, (ServiceName.parse? name).isSome) :
    names.map ServiceName.parse = (names.filterMap ServiceName.parse?).map .ok := by
  induction names with
  | nil => rfl
  | cons name rest ih =>
    rw [List.forall_mem_cons] at hparse
    obtain ⟨s, hs⟩ := Option.isSome_iff_exists.1 hparse.1
    rw [List.map_cons, List.filterMap_cons_some hs, List.map_cons, ih hparse.2,
      ServiceName.parse_eq_ok.2 hs]

/-- No two services of nodes with different indices take one slot. -/
theorem nodup_slots (hindices : (nodes.map (·.index)).Nodup) :
    ((nodes.flatMap (·.servicesIn Role.all)).map (·.slot)).Nodup := by
  have hservices : (nodes.flatMap (·.servicesIn Role.all)).Nodup :=
    Node.nodup_services hindices (by decide)
  refine hservices.map_on fun s hs s' hs' hslot => ?_
  obtain ⟨n, hn, hs⟩ := List.mem_flatMap.1 hs
  obtain ⟨n', hn', hs'⟩ := List.mem_flatMap.1 hs'
  obtain ⟨role, -, hs⟩ := Node.mem_servicesIn.1 hs
  obtain ⟨role', -, hs'⟩ := Node.mem_servicesIn.1 hs'
  have hrole := Node.service?_eq_some hs
  have hrole' := Node.service?_eq_some hs'
  simp only [ServiceName.slot, hrole, hrole', Prod.mk.injEq] at hslot
  have hnode : n = n' := List.inj_on_of_nodup_map hindices hn hn' hslot.2
  rw [hnode, hslot.1, hs'] at hs
  exact (Option.some.inj hs).symm

/-- The rendered services of nodes, reported in any order, are put together to what is observed of
these nodes. -/
theorem ofServices_rendered {names : List String} {size : Nat}
    (hsorted : nodes.Pairwise fun a b => a.index < b.index)
    (hword : ∀ n ∈ nodes, n.index < wordCount)
    (hnames : names.Perm ((nodes.flatMap (·.servicesIn Role.all)).map (·.render size))) :
    ofServices names = .ok ⟨nodes.map Node.observed⟩ := by
  have hread : ∀ s ∈ nodes.flatMap (·.servicesIn Role.all),
      ServiceName.parse? (s.render size) = some s := by
    intro s hs
    obtain ⟨n, hn, hs⟩ := List.mem_flatMap.1 hs
    apply ServiceName.parse?_render
    rw [Node.index_of_mem_servicesIn hs]
    exact hword n hn
  have hparse : ∀ name ∈ names, (ServiceName.parse? name).isSome := by
    intro name hname
    obtain ⟨s, hs, rfl⟩ := List.mem_map.1 (hnames.mem_iff.1 hname)
    rw [hread s hs]
    rfl
  have hservices : (names.filterMap ServiceName.parse?).Perm
      (nodes.flatMap (·.servicesIn Role.all)) := by
    have hself : ((nodes.flatMap (·.servicesIn Role.all)).filterMap fun s =>
        ServiceName.parse? (s.render size)) = nodes.flatMap (·.servicesIn Role.all) :=
      (List.filterMap_congr hread).trans List.filterMap_some
    have hperm := hnames.filterMap ServiceName.parse?
    rw [List.filterMap_map] at hperm
    exact hself ▸ hperm
  have hindices : (nodes.map (·.index)).Nodup := List.pairwise_map.2 (hsorted.imp Nat.ne_of_lt)
  have hslots : ((names.filterMap ServiceName.parse?).map (·.slot)).Nodup :=
    (hservices.map _).nodup_iff.2 (nodup_slots hindices)
  exact ofServices_eq_ok.2
    ⟨_, map_parse_eq hparse, hslots, reconcile_services hsorted hservices⟩

/-! ## Declared topologies -/

/-- Topologies with the same clients have the same size. -/
theorem size_eq_of_fingerprints_eq {a b : Topology} (h : a.fingerprints = b.fingerprints) :
    a.size = b.size := by
  have hlength := congrArg List.length h
  simpa [fingerprints, size] using hlength

/-- Topologies with the same fingerprints agree. -/
theorem agrees_of_fingerprints_eq {a b : Topology} (h : a.fingerprints = b.fingerprints) :
    a.agrees b = true := by
  simp [agrees, size_eq_of_fingerprints_eq h, h]

variable {t : Topology} {votes : UInt32}

/-- A topology is observed with the clients that its nodes run. -/
theorem observed_fingerprints (t : Topology) :
    (⟨t.nodes.map Node.observed⟩ : Topology).fingerprints = t.fingerprints := by
  rw [fingerprints, fingerprints, List.map_map]
  exact List.map_congr_left fun n _ => n.observed_fingerprint

/-- The names of the services of a numbered topology, in any order, are put together to what is
observed of its nodes. -/
theorem Numbered.ofServices_allNames (h : t.Numbered votes) (hfits : t.size < wordCount)
    {names : List String} (hnames : names.Perm t.allNames) :
    ofServices names = .ok ⟨t.nodes.map Node.observed⟩ := by
  rw [allNames_eq] at hnames
  refine ofServices_rendered h.sorted (fun n hn => ?_) hnames
  exact Nat.lt_of_le_of_lt (h.index_le hn) hfits

/-- Filled nodes have a sidecar exactly where one is observed. -/
theorem Numbered.observed_sidecar (h : t.Numbered votes) {n : Node} (hn : n ∈ t.nodes) :
    n.observed.consensus.hasSidecar = n.consensus.hasSidecar := by
  have hrule : n.consensus.validator.isSome = n.consensus.hasSidecar := (h.consensus n hn).rule
  rw [n.observed_hasSidecar, ConsensusClient.validatorKind?, Option.isSome_map, hrule]

/-- Network parameters declare a topology.  Read off the names of its services, in whatever order
they come, it has the same nodes in the same order as far as services tell: index and clients, and
the type of the sidecar of those nodes that have one.  Indices are read as 64-bit words, which have
to suffice to number the nodes. -/
theorem ofServices_declared (d : ClientDefaults) {config : NetworkConfig}
    (hfits : (config.participants.map (·.count)).sum < wordCount) :
    ∃ t, ofNetwork d config = .ok t ∧
      ∀ names : List String, names.Perm t.allNames →
        ∃ o, ofServices names = .ok o ∧ o.fingerprints = t.fingerprints ∧
          o.agrees t = true ∧ t.agrees o = true ∧
          List.Forall₂ (fun n m => n.consensus.hasSidecar = m.consensus.hasSidecar ∧
            n.consensus.validatorKind? = m.consensus.validatorKind?) o.nodes t.nodes := by
  refine ⟨_, ofNetwork_eq d config, ?_⟩
  intro names hnames
  have hnumbered := declared_numbered d config.params.keysPerNode config.participants
  have hsize : (⟨declaredNodes d config.params.keysPerNode 1 config.participants⟩ : Topology).size <
      wordCount := by
    rw [size, declaredNodes_length]
    exact hfits
  have hsame := observed_fingerprints
    ⟨declaredNodes d config.params.keysPerNode 1 config.participants⟩
  refine ⟨_, hnumbered.ofServices_allNames hsize hnames, hsame, agrees_of_fingerprints_eq hsame,
    agrees_of_fingerprints_eq hsame.symm, ?_⟩
  rw [List.forall₂_map_left_iff, List.forall₂_same]
  intro n hn
  exact ⟨hnumbered.observed_sidecar hn, n.observed_validatorKind?⟩

/-- Eleven nodes, so that indices are padded, of which the first two have a sidecar of another type
than their beacon node. -/
def sampleNetwork : NetworkConfig :=
  .generated
    [{ Participant.ofKinds .nimbusEth1 .nimbus with
        count := 2, separateValidator := true, validator := some .lodestar },
      { Participant.ofKinds .geth .teku with count := 9 }]
    .unset

/-- The services of a network with all kinds of nodes, reported in reverse. -/
theorem ofServices_declared_sample :
    ∃ t o, ofNetwork .standard sampleNetwork = .ok t ∧ ofServices t.allNames.reverse = .ok o ∧
      o.fingerprints = t.fingerprints ∧ o.agrees t = true ∧ t.agrees o = true ∧
      List.Forall₂ (fun n m => n.consensus.hasSidecar = m.consensus.hasSidecar ∧
        n.consensus.validatorKind? = m.consensus.validatorKind?) o.nodes t.nodes := by
  have hfits : (sampleNetwork.participants.map (·.count)).sum < wordCount := by decide
  obtain ⟨t, ht, hread⟩ := ofServices_declared .standard hfits
  obtain ⟨o, ho⟩ := hread _ (List.reverse_perm _)
  exact ⟨t, o, ht, ho⟩

end Topology
end DevnetChaos
