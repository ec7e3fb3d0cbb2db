import DevnetChaos.Proofs.Topology.Observed

/-!
# Which names are put together

Names are put together to a topology exactly when they are consistent: each is the name of a
service, no two services take one slot, every execution service has a consensus service beside it
and the other way around, and validators stand beside such pairs only.  The topology says of the
services what they say themselves, and the order in which they are reported has no part in it.

Main definitions:

- `Topology.observedServices`: the services that names stand for.
- `Topology.Consistent`: names that fit together.
- `Topology.ReadOff`: a topology that says of services what they say themselves.

Main results:

- `Topology.servicesOf_perm`: the services of a role, in whatever order all of them are reported.
- `Topology.reconcile_isOk_iff`: which services are put together.
- `Topology.reconcile_readOff`: what they are put together to.
- `Topology.ofServices_isOk_iff`, `Topology.ofServices_readOff`, `Topology.ofServices_perm`: the
  same for names.
- `Topology.ofServices_reads`: which names are put together to a topology, to which one, and that
  their order does not matter.
-/

namespace DevnetChaos
namespace Topology

variable {names names' : List String} {services services' : List ServiceName} {t : Topology}

/-! ## Services of one role -/

theorem mem_servicesOf {role : Role} {s : ServiceName} :
    s ∈ servicesOf role services ↔ s ∈ services ∧ s.role = role := by
  rw [servicesOf, (sortOn_perm _ _).mem_iff, List.mem_filter, beq_iff_eq]

/-- The indices of the services of one role are those that the role takes. -/
theorem mem_indices_servicesOf {role : Role} {index : Nat} :
    index ∈ (servicesOf role services).map (·.index) ↔
      (role, index) ∈ services.map (·.slot) := by
  simp only [List.mem_map, mem_servicesOf, ServiceName.slot, Prod.mk.injEq, and_assoc]

/-- Services of one role that take different slots have different indices. -/
theorem nodup_indices_filter (hslots : (services.map (·.slot)).Nodup) (role : Role) :
    ((services.filter fun s => s.role == role).map (·.index)).Nodup := by
  have hfilter : ((services.filter fun s => s.role == role).map (·.slot)).Nodup :=
    hslots.sublist (List.filter_sublist.map _)
  have hrole : ∀ s ∈ services.filter fun s => s.role == role, s.slot = (role, s.index) := by
    intro s hs
    simp only [List.mem_filter, beq_iff_eq] at hs
    rw [ServiceName.slot, hs.2]
  rw [List.map_congr_left hrole] at hfilter
  apply List.Nodup.of_map (fun index => (role, index))
  rw [List.map_map]
  exact hfilter

/-- The services of one role are ordered by their indices, of which no two are equal. -/
theorem servicesOf_sorted (hslots : (services.map (·.slot)).Nodup) (role : Role) :
    (servicesOf role services).Pairwise fun a b => a.index < b.index := by
  have hle : (servicesOf role services).Pairwise fun a b => a.index ≤ b.index :=
    sortOn_sorted _ _
  have hperm : ((servicesOf role services).map (·.index)).Perm
      ((services.filter fun s => s.role == role).map (·.index)) := (sortOn_perm _ _).map _
  have hne : (servicesOf role services).Pairwise fun a b => a.index ≠ b.index :=
    List.pairwise_map.1 (hperm.nodup_iff.2 (nodup_indices_filter hslots role))
  have hboth := hle.and hne
  exact hboth.imp fun h => Nat.lt_of_le_of_ne h.1 h.2

/-- The order in which services are reported has no part in the order of those of one role. -/
theorem servicesOf_perm (hperm : services'.Perm services)
    (hslots : (services.map (·.slot)).Nodup) (role : Role) :
    servicesOf role services' = servicesOf role services := by
  have hfilter : (services'.filter fun s => s.role == role).Perm (servicesOf role services) :=
    (hperm.filter _).trans (sortOn_perm _ _).symm
  exact sortOn_eq_of_perm hfilter (servicesOf_sorted hslots role)

/-- So it has none in what all of them are put together to. -/
theorem reconcile_perm (hperm : services'.Perm services)
    (hslots : (services.map (·.slot)).Nodup) : reconcile services' = reconcile services := by
  simp only [reconcile, servicesOf_perm hperm hslots]

/-! ## Services of one index -/

/-- Among services that take different slots the one of a role and an index is found. -/
theorem serviceAt?_servicesOf (hslots : (services.map (·.slot)).Nodup) {role : Role} {index : Nat}
    {s : ServiceName} :
    serviceAt? (servicesOf role services) index = some s ↔
      s ∈ services ∧ s.slot = (role, index) := by
  constructor
  · intro h
    have hmem := mem_servicesOf.1 (List.mem_of_find?_eq_some h)
    have hindex : s.index = index := by simpa using List.find?_some h
    exact ⟨hmem.1, by rw [ServiceName.slot, hmem.2, hindex]⟩
  · rintro ⟨hs, hslot⟩
    simp only [ServiceName.slot, Prod.mk.injEq] at hslot
    cases hfound : serviceAt? (servicesOf role services) index with
    | none =>
      have hother := List.find?_eq_none.1 hfound s (mem_servicesOf.2 ⟨hs, hslot.1⟩)
      simp [hslot.2] at hother
    | some s' =>
      have hmem := mem_servicesOf.1 (List.mem_of_find?_eq_some hfound)
      have hindex : s'.index = index := by simpa using List.find?_some hfound
      -- The one that is found has the same slot, which no other service takes.
      have hsame : s'.slot = s.slot := by
        rw [ServiceName.slot, ServiceName.slot, hmem.2, hindex, hslot.1, hslot.2]
      rw [List.inj_on_of_nodup_map hslots hmem.1 hs hsame]

/-- A service of a role and an index is found if there is one. -/
theorem serviceAt?_isSome {role : Role} {index : Nat} :
    (serviceAt? (servicesOf role services) index).isSome = true ↔
      (role, index) ∈ services.map (·.slot) := by
  rw [serviceAt?, List.find?_isSome, ← mem_indices_servicesOf, List.mem_map]
  simp only [beq_iff_eq]

/-- No service of a role is an orphan when it stands beside execution services only. -/
theorem orphan?_eq_none {role : Role} :
    orphan? (servicesOf .execution services) (servicesOf role services) = none ↔
      ∀ index, (role, index) ∈ services.map (·.slot) →
        (Role.execution, index) ∈ services.map (·.slot) := by
  simp only [orphan?, List.find?_eq_none, Option.isNone_iff_eq_none, ← Option.isSome_iff_ne_none,
    serviceAt?_isSome]
  constructor
  · intro h index hindex
    obtain ⟨s, hs, rfl⟩ := List.mem_map.1 (mem_indices_servicesOf.2 hindex)
    exact h s hs
  · intro h s hs
    apply h
    exact mem_indices_servicesOf.1 (List.mem_map_of_mem hs)

/-! ## Putting services together -/

/-- A function gives something for every element of a list when what it gives is a list again. -/
theorem map_eq_map_some_iff {α β : Type} {f : α → Option β} {xs : List α} {ys : List β} :
    xs.map f = ys.map some ↔ (∀ x ∈ xs, (f x).isSome = true) ∧ ys = xs.filterMap f := by
  induction xs generalizing ys with
  | nil => cases ys <;> simp
  | cons x rest ih =>
    cases ys with
    | nil =>
      cases hx : f x <;> simp [hx]
    | cons y later =>
      rw [List.map_cons, List.map_cons, List.cons.injEq, ih, List.forall_mem_cons]
      cases hx : f x with
      | none => simp
      | some y' =>
        rw [List.filterMap_cons_some hx, List.cons.injEq, Option.some.injEq, eq_comm (a := y)]
        simp only [Option.isSome_some, true_and, and_left_comm]

/-- A node can be put together when its consensus service is there. -/
theorem observedNode?_isSome {cls vcs : List ServiceName} {el : ServiceName} :
    (observedNode? cls vcs el).isSome = (serviceAt? cls el.index).isSome := by
  rw [observedNode?, Option.isSome_map]

/-- Services are put together when every index has an execution and a consensus service or neither,
and every index with a validator has an execution service. -/
theorem reconcile_isOk_iff :
    (∃ t, reconcile services = .ok t) ↔
      (∀ index, (Role.execution, index) ∈ services.map (·.slot) ↔
        (Role.consensus, index) ∈ services.map (·.slot)) ∧
      ∀ index, (Role.validator, index) ∈ services.map (·.slot) →
        (Role.execution, index) ∈ services.map (·.slot) := by
  simp only [reconcile_eq_ok, orphan?_eq_none]
  constructor
  · intro ⟨t, hnodes, hconsensus, hvalidator⟩
    have hall := (map_eq_map_some_iff.1 hnodes).1
    refine ⟨fun index => ⟨fun hindex => ?_, hconsensus index⟩, hvalidator⟩
    obtain ⟨el, hel, rfl⟩ := List.mem_map.1 (mem_indices_servicesOf.2 hindex)
    have hsome := hall el hel
    rw [observedNode?_isSome] at hsome
    exact serviceAt?_isSome.1 hsome
  · intro ⟨hpaired, hvalidator⟩
    have hnodes : ∀ el ∈ servicesOf .execution services,
        (observedNode? (servicesOf .consensus services)
          (servicesOf .validator services) el).isSome = true := by
      intro el hel
      rw [observedNode?_isSome, serviceAt?_isSome, ← hpaired]
      exact mem_indices_servicesOf.1 (List.mem_map_of_mem hel)
    exact ⟨⟨_⟩, map_eq_map_some_iff.2 ⟨hnodes, rfl⟩, fun index => (hpaired index).2, hvalidator⟩

/-! ## What they are put together to -/

section

variable (cl : ServiceName) (vc : Option ServiceName)

theorem observedConsensus_kind : (observedConsensus cl vc).kind = cl.consensus := by
  cases vc <;> rfl

theorem observedConsensus_hasSidecar : (observedConsensus cl vc).hasSidecar = vc.isSome := by
  cases vc <;> rfl

theorem observedConsensus_validatorKind? :
    (observedConsensus cl vc).validatorKind? = vc.map (·.consensus) := by
  cases vc <;> rfl

end

/-- A topology says of services what they say themselves. -/
structure ReadOff (services : List ServiceName) (t : Topology) : Prop where
  /-- The nodes are in order of their indices, of which no two are equal. -/
  sorted : t.nodes.Pairwise fun a b => a.index < b.index
  /-- There is one node for each execution service. -/
  nodes : (t.nodes.map (·.index)).Perm
    ((services.filter fun s => s.role == .execution).map (·.index))
  /-- A node runs the execution client of its execution service and nothing else is known of it. -/
  execution : ∀ n ∈ t.nodes, ∃ el ∈ services,
    el.slot = (.execution, n.index) ∧ n.execution = .ofKind el.execution
  /-- A node runs the consensus client of its consensus service. -/
  consensus : ∀ n ∈ t.nodes, ∃ cl ∈ services,
    cl.slot = (.consensus, n.index) ∧ n.consensus.kind = cl.consensus
  /-- A node has a sidecar when there is a validator service at its index. -/
  sidecar : ∀ n ∈ t.nodes,
    n.consensus.hasSidecar = true ↔ (.validator, n.index) ∈ services.map (·.slot)
  /-- The sidecar is of the type of this service. -/
  validator : ∀ n ∈ t.nodes, ∀ kind, n.consensus.validatorKind? = some kind ↔
    ∃ vc ∈ services, vc.slot = (.validator, n.index) ∧ vc.consensus = kind

/-- Where a node comes from. -/
theorem mem_nodes_of_reconcile (h : reconcile services = .ok t) {n : Node} (hn : n ∈ t.nodes) :
    ∃ el ∈ servicesOf .execution services,
      ∃ cl, serviceAt? (servicesOf .consensus services) n.index = some cl ∧
        n = ⟨el.index, .ofKind el.execution,
          observedConsensus cl (serviceAt? (servicesOf .validator services) n.index), 0⟩ := by
  have hsome : some n ∈ t.nodes.map some := List.mem_map_of_mem hn
  rw [← (reconcile_eq_ok.1 h).1] at hsome
  obtain ⟨el, hel, hnode⟩ := List.mem_map.1 hsome
  obtain ⟨cl, hcl, rfl⟩ := Option.map_eq_some_iff.1 hnode
  exact ⟨el, hel, cl, hcl, rfl⟩

/-- The nodes have the indices of the execution services, in the order of these. -/
theorem indices_of_reconcile (h : reconcile services = .ok t) :
    t.nodes.map (·.index) = (servicesOf .execution services).map (·.index) := by
  obtain ⟨hall, hnodes⟩ := map_eq_map_some_iff.1 (reconcile_eq_ok.1 h).1
  rw [hnodes, List.map_filterMap, ← List.filterMap_eq_map]
  apply List.filterMap_congr
  intro el hel
  obtain ⟨n, hn⟩ := Option.isSome_iff_exists.1 (hall el hel)
  obtain ⟨cl, -, rfl⟩ := Option.map_eq_some_iff.1 hn
  rw [hn]
  rfl

/-- Services that take different slots are put together to a topology that says of them what they
say themselves. -/
theorem reconcile_readOff (hslots : (services.map (·.slot)).Nodup)
    (h : reconcile services = .ok t) : ReadOff services t := by
  have hindices := indices_of_reconcile h
  constructor
  case sorted =>
    have hsorted := servicesOf_sorted hslots .execution
    rw [← List.pairwise_map (R := (· < ·)) (f := fun n : Node => n.index), hindices]
    exact List.pairwise_map.2 hsorted
  case nodes =>
    rw [hindices]
    exact (sortOn_perm _ _).map _
  case execution =>
    intro n hn
    obtain ⟨el, hel, cl, -, hnode⟩ := mem_nodes_of_reconcile h hn
    have hmem := mem_servicesOf.1 hel
    refine ⟨el, hmem.1, ?_, ?_⟩
    · rw [ServiceName.slot, hmem.2, hnode]
    · rw [hnode]
  case consensus =>
    intro n hn
    obtain ⟨el, -, cl, hcl, hnode⟩ := mem_nodes_of_reconcile h hn
    have hmem := (serviceAt?_servicesOf hslots).1 hcl
    refine ⟨cl, hmem.1, hmem.2, ?_⟩
    rw [hnode, observedConsensus_kind]
  case sidecar =>
    intro n hn
    obtain ⟨el, -, cl, -, hnode⟩ := mem_nodes_of_reconcile h hn
    rw [← serviceAt?_isSome, ← observedConsensus_hasSidecar cl]
    rw [congrArg Node.consensus hnode]
  case validator =>
    intro n hn kind
    obtain ⟨el, -, cl, -, hnode⟩ := mem_nodes_of_reconcile h hn
    have hkind : n.consensus.validatorKind? =
        (serviceAt? (servicesOf .validator services) n.index).map (·.consensus) := by
      rw [congrArg Node.consensus hnode, observedConsensus_validatorKind?]
    rw [hkind, Option.map_eq_some_iff]
    simp only [serviceAt?_servicesOf hslots, and_assoc]

/-! ## Reading names and putting them together -/

/-- The services that names stand for. -/
def observedServices (names : List String) : List ServiceName :=
  names.filterMap ServiceName.parse?

/-- Names that fit together. -/
structure Consistent (names : List String) : Prop where
  /-- Each is the name of a service. -/
  parses : ∀ name ∈ names, ∃ s, ServiceName.parse name = .ok s
  /-- No two services have role and index in common. -/
  slots : ((observedServices names).map (·.slot)).Nodup
  /-- Execution and consensus services have the same indices. -/
  paired : ∀ index, (Role.execution, index) ∈ (observedServices names).map (·.slot) ↔
    (Role.consensus, index) ∈ (observedServices names).map (·.slot)
  /-- Every index of a validator service is one of these. -/
  attached : ∀ index, (Role.validator, index) ∈ (observedServices names).map (·.slot) →
    (Role.execution, index) ∈ (observedServices names).map (·.slot)

/-- A name is read to the service that its parts stand for. -/
theorem toOption_parse (name : String) :
    (ServiceName.parse name).toOption = ServiceName.parse? name := by
  rw [ServiceName.parse]
  cases ServiceName.parse? name <;> rfl

/-- A name is accepted when its parts stand for a service. -/
theorem parse_isOk_iff {name : String} :
    (∃ s, ServiceName.parse name = .ok s) ↔ (ServiceName.parse? name).isSome = true := by
  simp only [ServiceName.parse_eq_ok, Option.isSome_iff_exists]

/-- Names are put together when their services can be read and put together. -/
theorem ofServices_eq_ok_iff :
    ofServices names = .ok t ↔ (∀ name ∈ names, ∃ s, ServiceName.parse name = .ok s) ∧
      ((observedServices names).map (·.slot)).Nodup ∧
        reconcile (observedServices names) = .ok t := by
  simp only [parse_isOk_iff, ofServices_eq_ok]
  constructor
  · intro ⟨services, hparse, hslots, hreconcile⟩
    have hread : names.map ServiceName.parse? = services.map some := by
      have hoption := congrArg (List.map Except.toOption) hparse
      simp only [List.map_map, Function.comp_def, toOption_parse] at hoption
      exact hoption
    obtain ⟨hall, rfl⟩ := map_eq_map_some_iff.1 hread
    exact ⟨hall, hslots, hreconcile⟩
  · intro ⟨hall, hslots, hreconcile⟩
    exact ⟨_, map_parse_eq hall, hslots, hreconcile⟩

/-- Names are put together when they are consistent. -/
theorem ofServices_isOk_iff : (∃ t, ofServices names = .ok t) ↔ Consistent names := by
  constructor
  · intro ⟨t, ht⟩
    obtain ⟨hparses, hslots, hreconcile⟩ := ofServices_eq_ok_iff.1 ht
    obtain ⟨hpaired, hattached⟩ := reconcile_isOk_iff.1 ⟨t, hreconcile⟩
    exact ⟨hparses, hslots, hpaired, hattached⟩
  · intro h
    obtain ⟨t, ht⟩ := reconcile_isOk_iff.2 ⟨h.paired, h.attached⟩
    exact ⟨t, ofServices_eq_ok_iff.2 ⟨h.parses, h.slots, ht⟩⟩

/-- They are put together to a topology that says of their services what they say themselves. -/
theorem ofServices_readOff (h : ofServices names = .ok t) : ReadOff (observedServices names) t := by
  obtain ⟨-, hslots, hreconcile⟩ := ofServices_eq_ok_iff.1 h
  exact reconcile_readOff hslots hreconcile

/-- The order in which names are reported has no part in what they are put together to. -/
theorem ofServices_perm (hperm : names'.Perm names) (h : ofServices names = .ok t) :
    ofServices names' = .ok t := by
  obtain ⟨hparses, hslots, hreconcile⟩ := ofServices_eq_ok_iff.1 h
  have hservices : (observedServices names').Perm (observedServices names) := hperm.filterMap _
  refine ofServices_eq_ok_iff.2 ⟨fun name hname => hparses name (hperm.mem_iff.1 hname), ?_, ?_⟩
  · exact (hservices.map _).nodup_iff.2 hslots
  · rw [reconcile_perm hservices hslots, hreconcile]

/-- Names are put together exactly when they are consistent, and then to a topology that says of
their services what they say themselves.  Reported in any other order they are put together to this
topology, or not at all if these are not. -/
theorem ofServices_reads (names : List String) :
    ((∃ t, ofServices names = .ok t) ↔ Consistent names) ∧
      (∀ t, ofServices names = .ok t → ReadOff (observedServices names) t) ∧
      ∀ names' : List String, names'.Perm names →
        (∃ t, ofServices names = .ok t ∧ ofServices names' = .ok t) ∨
          ∃ failure failure', ofServices names = .error failure ∧
            ofServices names' = .error failure' := by
  refine ⟨ofServices_isOk_iff, fun t ht => ofServices_readOff ht, ?_⟩
  intro names' hperm
  cases h : ofServices names with
  | ok t => exact .inl ⟨t, rfl, ofServices_perm hperm h⟩
  | error failure =>
    cases h' : ofServices names' with
    | error failure' => exact .inr ⟨failure, failure', rfl, rfl⟩
    | ok t =>
      -- The order may be undone, so that the names would have been put together as well.
      have hsame := ofServices_perm hperm.symm h'
      rw [h] at hsame
      cases hsame

/-- Names with long roles and padded indices, not in order. -/
def shuffledNames : List String :=
  ["consensus-02-teku-geth", "el-1-besu-nimbus", "vc-2-prysm-geth", "cl-001-nimbus-besu",
    "execution-2-geth-teku"]

/-- Two nodes are read off them, the second one with a sidecar of another type, and off any other
order of them. -/
theorem ofServices_reads_shuffled :
    Consistent shuffledNames ∧
      ∃ t, ofServices shuffledNames = .ok t ∧ ofServices shuffledNames.reverse = .ok t ∧
        t.fingerprints = [⟨1, .besu, .nimbus⟩, ⟨2, .geth, .teku⟩] ∧
        ReadOff (observedServices shuffledNames) t := by
  have hok : ∃ t, ofServices shuffledNames = .ok t ∧
      t.fingerprints = [⟨1, .besu, .nimbus⟩, ⟨2, .geth, .teku⟩] := by
    refine ⟨⟨[⟨1, .ofKind .besu, .ofKind .nimbus, 0⟩,
      ⟨2, .ofKind .geth, (ConsensusClient.ofKind .teku).withSidecar (some .prysm), 0⟩]⟩, ?_, rfl⟩
    decide +kernel
  obtain ⟨t, ht, hfingerprints⟩ := hok
  obtain ⟨hiff, hreadOff, hperm⟩ := ofServices_reads shuffledNames
  refine ⟨hiff.1 ⟨t, ht⟩, t, ht, ?_, hfingerprints, hreadOff t ht⟩
  rcases hperm _ (List.reverse_perm _) with ⟨t', ht', hreverse⟩ | ⟨failure, -, herror, -⟩
  · rw [ht] at ht'
    cases ht'
    exact hreverse
  · rw [ht] at herror
    cases herror

end Topology
end DevnetChaos
