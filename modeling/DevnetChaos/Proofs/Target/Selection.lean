import DevnetChaos.Proofs.Simulation.Cluster
import DevnetChaos.Proofs.Topology.Numbered

/-!
# What targets select

The pods of a declared network say their name, their role and the client that they run, as long as
the declared labels leave these three keys alone.  A target is resolved to a requirement on one of
the three, so it selects the services that it means and no others.

Main definitions:

- `Labels.Unclaimed`, `NetworkConfig.Unclaimed`: labels that leave the three keys alone.
- `Node.ownClient?`: the client that a service of a node runs.
- `TargetDescription.Intends`: the services that a target means.
- `TargetDescription.Unresolvable`: targets that mean nothing that there is.
- `TargetDescription.SelectsIntended`: a target is refused or selects what it means.

Main results:

- `Topology.declared_saysOwn`: the pods of a declared network say what they are.
- `Cluster.isSelected_isIn`: what a requirement on one label selects.
- `TargetDescription.listedServices_cases`: a list of nodes has its services, or a node that is in
  the way.
- `TargetDescription.resolve_selects`: resolution selects exactly the intended pods.
-/

namespace DevnetChaos

/-! ## What pods say of themselves -/

/-- Labels that set none of the three keys that say which service a pod belongs to. -/
structure Labels.Unclaimed (labels : Labels) : Prop where
  serviceId : labels.get? serviceIdLabel = none
  serviceType : labels.get? serviceTypeLabel = none
  clientType : labels.get? clientTypeLabel = none

theorem Labels.unclaimed_empty : Labels.Unclaimed .empty := ⟨rfl, rfl, rfl⟩

theorem Labels.Unclaimed.plain {labels : Labels} (h : labels.Unclaimed) (role : Role) :
    labels.Plain role :=
  ⟨h.serviceId, by simp [h.serviceType]⟩

/-- Filling such labels says the client. -/
theorem Labels.Unclaimed.clientType_withDefaults {labels : Labels} (h : labels.Unclaimed)
    (role : Role) (client : String) :
    (labels.withDefaults role client).get? clientTypeLabel = some client := by
  simp [Labels.withDefaults, TextMap.get?_insertNew, serviceTypeLabel_ne_clientTypeLabel.symm,
    h.clientType]

/-- A group sets none of the three keys in the labels of its services. -/
structure Participant.Unclaimed (p : Participant) : Prop where
  execution : p.executionLabels.Unclaimed
  consensus : p.consensusLabels.Unclaimed
  validator : p.validatorLabels.Unclaimed

/-- No group of a network sets one of the three keys. -/
def NetworkConfig.Unclaimed (config : NetworkConfig) : Prop :=
  ∀ p ∈ config.participants, p.Unclaimed

/-- The client that the service of a node in a role runs.  A sidecar may be of another type than
the beacon node that it runs beside. -/
def Node.ownClient? (n : Node) : Role → Option ClientKind
  | .execution => some (.execution n.execution.kind)
  | .consensus => some (.consensus n.consensus.kind)
  | .validator => n.consensus.validatorKind?.map .consensus

/-- The labels of every service say the client that it runs. -/
def Topology.SaysOwn (t : Topology) : Prop :=
  ∀ n ∈ t.nodes, ∀ role,
    (Cluster.declaredLabels n role).get? clientTypeLabel = (n.ownClient? role).map (·.name)

/-- The sidecar of a filled client is the one that its group describes. -/
theorem Participant.sidecar_of_filled {p : Participant} {d : ClientDefaults} {v : ValidatorClient}
    (h : (p.consensusClient.filled d).validator = some v) :
    v = p.sidecar.backfill d p.consensus := by
  by_cases hflag : p.separateValidator
  · simp only [ConsensusClient.filled, consensusClient, hflag, if_true, Option.getD_some,
      Option.some.injEq] at h
    exact h.symm
  · simp [ConsensusClient.filled, consensusClient, hflag] at h

namespace Topology

variable {d : ClientDefaults} {votes : UInt32} {groups : List Participant}

/-- The labels of a declared node in a role. -/
theorem declared_labels (h : ∀ p ∈ groups, p.Unclaimed) {n : Node}
    (hn : n ∈ declaredNodes d votes 1 groups) (role : Role) :
    (Cluster.declaredLabels n role).Plain role ∧
      (Cluster.declaredLabels n role).get? clientTypeLabel = (n.ownClient? role).map (·.name) := by
  obtain ⟨p, hp, hnode⟩ := exists_group_of_mem_declaredNodes d votes hn
  obtain ⟨hexecution, hconsensus, hvalidator⟩ := h p hp
  rw [hnode]
  cases role with
  | execution =>
    exact ⟨(hexecution.plain .execution).withDefaults _, hexecution.clientType_withDefaults _ _⟩
  | consensus =>
    exact ⟨(hconsensus.plain .consensus).withDefaults _, hconsensus.clientType_withDefaults _ _⟩
  | validator =>
    cases hsidecar : (p.consensusClient.filled d).validator with
    | none =>
      simp only [Cluster.declaredLabels, Node.ownClient?, ConsensusClient.validatorKind?, hsidecar]
      exact ⟨Labels.plain_empty .validator, rfl⟩
    | some v =>
      simp only [Cluster.declaredLabels, Node.ownClient?, ConsensusClient.validatorKind?, hsidecar]
      rw [Participant.sidecar_of_filled hsidecar]
      exact ⟨(hvalidator.plain .validator).withDefaults _, hvalidator.clientType_withDefaults _ _⟩

/-- Groups that leave the labels alone declare a topology that does. -/
theorem declared_plain (h : ∀ p ∈ groups, p.Unclaimed) :
    Topology.Plain ⟨declaredNodes d votes 1 groups⟩ :=
  fun _ hn role => (declared_labels h hn role).1

/-- The pods of a declared network say what they are. -/
theorem declared_saysOwn (h : ∀ p ∈ groups, p.Unclaimed) :
    Topology.SaysOwn ⟨declaredNodes d votes 1 groups⟩ :=
  fun _ hn role => (declared_labels h hn role).2

end Topology

/-! ## What a requirement selects -/

/-- A pod is there and its labels satisfy a selector. -/
def Cluster.IsSelected (c : Cluster) (s : TargetSelector) (name : String) : Prop :=
  ∃ pod, c.pod? name = some pod ∧ s.accepts pod.labels = true

/-- A list of wanted values selects the pods that have one of them. -/
theorem TargetSelector.accepts_isIn {description key : String} {values : List String}
    {labels : Labels} :
    (TargetSelector.mk description [⟨key, .isIn, values⟩]).accepts labels = true ↔
      ∃ value ∈ values, labels.get? key = some value := by
  simp only [accepts, acceptsAll, Requirement.accepts, List.isEmpty_cons, List.all_cons,
    List.all_nil, Bool.not_false, Bool.true_and, Bool.and_true]
  cases labels.get? key <;> simp

namespace Cluster

variable {t : Topology} {description key name : String} {values : List String}

/-- A requirement on a label of which all values are known selects the services with one of the
listed values. -/
theorem isSelected_isIn (ht : t.Distinct) (value : Node → Role → String → Option String)
    (hvalue : ∀ n ∈ t.nodes, ∀ role name pod, t.servicePod? n role = some (name, pod) →
      pod.labels.get? key = value n role name) :
    (empty.addTopology t).IsSelected ⟨description, [⟨key, .isIn, values⟩]⟩ name ↔
      ∃ n ∈ t.nodes, ∃ role, t.serviceName? n role = some name ∧
        ∃ v ∈ values, value n role name = some v := by
  constructor
  · rintro ⟨info, hinfo, haccepts⟩
    obtain ⟨pod, hget, rfl⟩ := Option.map_eq_some_iff.1 hinfo
    obtain ⟨v, hv, hlabel⟩ := TargetSelector.accepts_isIn.1 haccepts
    obtain ⟨n, hn, role, hentry⟩ := Topology.mem_podEntries.1 ((get?_addTopology ht).1 hget)
    have hown := (hvalue n hn role name pod hentry).symm.trans hlabel
    obtain ⟨_, hservice, hpod⟩ := Option.map_eq_some_iff.1 hentry
    cases hpod
    exact ⟨n, hn, role, hservice, v, hv, hown⟩
  · rintro ⟨n, hn, role, hservice, v, hv, hown⟩
    have hentry : t.servicePod? n role = some (name, _) :=
      Option.map_eq_some_iff.2 ⟨_, hservice, rfl⟩
    have hget := (get?_addTopology ht).2 (Topology.mem_podEntries.2 ⟨n, hn, role, hentry⟩)
    have hlabel := (hvalue n hn role name _ hentry).trans hown
    exact ⟨_, Option.map_eq_some_iff.2 ⟨_, hget, rfl⟩,
      TargetSelector.accepts_isIn.2 ⟨v, hv, hlabel⟩⟩

/-- A pod says of itself which client it runs. -/
theorem clientType_of_servicePod (hown : t.SaysOwn) {n : Node} (hn : n ∈ t.nodes) {role : Role}
    {pod : SimulatedPod} (hentry : t.servicePod? n role = some (name, pod)) :
    pod.labels.get? clientTypeLabel = (n.ownClient? role).map (·.name) := by
  obtain ⟨_, _, hpod⟩ := Option.map_eq_some_iff.1 hentry
  cases hpod
  simp only [TextMap.get?_insertNew, serviceIdLabel_ne_clientTypeLabel.symm,
    serviceTypeLabel_ne_clientTypeLabel.symm, if_false]
  exact hown n hn role

end Cluster

/-! ## What targets mean -/

namespace TargetDescription

/-- The roles whose services on a node are in a scope: all of them, that of an execution client, or
those of a consensus client and its sidecar. -/
inductive InScope : TargetScope → Role → Prop
  | wholeNode (role : Role) : InScope .wholeNode role
  | execution (kind : ExecutionKind) : InScope (.client (.execution kind)) .execution
  | consensus (kind : ConsensusKind) : InScope (.client (.consensus kind)) .consensus
  | validator (kind : ConsensusKind) : InScope (.client (.consensus kind)) .validator

/-- Whether a target means the service of a node in a role. -/
def Intends (n : Node) (role : Role) : TargetDescription → Prop
  | .role r => role = r
  | .clientKind kind => n.ownClient? role = some kind
  | .nodes indices scope => n.index ∈ indices ∧ InScope scope role

/-- Targets that mean nothing that there is: they name no node, a node that is not there, or a node
that does not run the client in scope. -/
inductive Unresolvable (t : Topology) : TargetDescription → Prop
  | noNodes (scope : TargetScope) : Unresolvable t (.nodes [] scope)
  | missing {indices : List Nat} {scope : TargetScope} {index : Nat} (listed : index ∈ indices)
      (missing : ∀ n ∈ t.nodes, n.index ≠ index) : Unresolvable t (.nodes indices scope)
  | otherClient {indices : List Nat} {kind : ClientKind} {n : Node} (mem : n ∈ t.nodes)
      (listed : n.index ∈ indices) (other : n.runs kind = false) :
      Unresolvable t (.nodes indices (.client kind))

/-- A target is refused exactly if it means nothing that there is.  Otherwise, in a cluster with the
pods of a topology, its selector selects pods of services only, and of these exactly the pods of the
services that it means. -/
structure SelectsIntended (target : TargetDescription) (t : Topology) : Prop where
  refused_iff : (∃ failure, target.resolve t = .error failure) ↔ target.Unresolvable t
  isService : ∀ s, target.resolve t = .ok s → ∀ name,
    (Cluster.empty.addTopology t).IsSelected s name → name ∈ t.allNames
  selected_iff : ∀ s, target.resolve t = .ok s → ∀ n ∈ t.nodes, ∀ role name,
    t.serviceName? n role = some name →
      ((Cluster.empty.addTopology t).IsSelected s name ↔ target.Intends n role)

/-- It is enough to know the selected names, since no two services have one name. -/
theorem SelectsIntended.of_names {target : TargetDescription} {t : Topology} (ht : t.Distinct)
    (hrefused : (∃ failure, target.resolve t = .error failure) ↔ target.Unresolvable t)
    (hnames : ∀ s, target.resolve t = .ok s → ∀ name,
      (Cluster.empty.addTopology t).IsSelected s name ↔
        ∃ n ∈ t.nodes, ∃ role, t.serviceName? n role = some name ∧ target.Intends n role) :
    target.SelectsIntended t where
  refused_iff := hrefused
  isService := by
    intro s hs name hselected
    obtain ⟨n, hn, role, hservice, -⟩ := (hnames s hs name).1 hselected
    exact Topology.mem_allNames.2 ⟨n, hn, role, hservice⟩
  selected_iff := by
    intro s hs n hn role name hservice
    rw [hnames s hs name]
    -- The name is that of this service alone, so what is meant under it is this service.
    constructor
    · rintro ⟨m, hm, role', hservice', hmeant⟩
      obtain ⟨rfl, rfl⟩ := ht.service_unique hn hm hservice hservice'
      exact hmeant
    · exact fun hmeant => ⟨n, hn, role, hservice, hmeant⟩

/-- The roles of a scope are those that it speaks of. -/
theorem mem_scopeRoles {scope : TargetScope} {role : Role} :
    role ∈ scopeRoles scope ↔ InScope scope role := by
  constructor
  · intro h
    cases scope with
    | wholeNode => exact .wholeNode role
    | client kind =>
      cases kind with
      | execution kind =>
        obtain rfl := List.mem_singleton.1 h
        exact .execution kind
      | consensus kind =>
        rcases List.mem_pair.1 h with rfl | rfl
        · exact .consensus kind
        · exact .validator kind
  · rintro (_ | _ | _ | _)
    · exact role.mem_all
    · exact List.mem_singleton.2 rfl
    · exact List.mem_pair.2 (.inl rfl)
    · exact List.mem_pair.2 (.inr rfl)

/-! ## Lists of nodes -/

section Nodes

variable {t : Topology} {scope : TargetScope}

/-- A listed index has a node that the scope fits, or its services cannot be listed. -/
theorem nodeServices_cases (ht : t.Distinct) (scope : TargetScope) (index : Nat) :
    (∃ n ∈ t.nodes, n.index = index ∧ scopeFits n scope = true) ∨
      (∃ failure, nodeServices t scope index = .error failure) ∧
        ∀ n ∈ t.nodes, n.index = index → scopeFits n scope = false := by
  cases hfound : t.node? index with
  | none =>
    refine .inr ⟨⟨_, by rw [nodeServices, hfound]⟩, fun n hn hindex => ?_⟩
    rw [← hindex, ht.node?_eq_some hn] at hfound
    cases hfound
  | some n =>
    have hn : n ∈ t.nodes := List.mem_of_find?_eq_some hfound
    have hindex : n.index = index := by simpa using List.find?_some hfound
    cases hfits : scopeFits n scope with
    | true => exact .inl ⟨n, hn, hindex, hfits⟩
    | false =>
      refine .inr ⟨⟨_, by simp only [nodeServices, hfound, hfits]; rfl⟩, fun m hm hm' => ?_⟩
      rw [← hm', ht.node?_eq_some hm] at hfound
      rwa [Option.some.inj hfound]

/-- A list of nodes has its services, or a node that is in the way. -/
theorem listedServices_cases (ht : t.Distinct) (scope : TargetScope) (indices : List Nat) :
    (∃ nodes : List Node, nodes.map (·.index) = indices ∧
        ∀ n ∈ nodes, n ∈ t.nodes ∧ scopeFits n scope = true) ∨
      (∃ failure, listedServices t scope indices = .error failure) ∧
        ∃ index ∈ indices, ∀ n ∈ t.nodes, n.index = index → scopeFits n scope = false := by
  induction indices with
  | nil => exact .inl ⟨[], rfl, fun _ hn => nomatch hn⟩
  | cons index rest ih =>
    rcases nodeServices_cases ht scope index with
      ⟨n, hn, rfl, hfits⟩ | ⟨⟨failure, hfails⟩, hnone⟩
    · rcases ih with ⟨nodes, rfl, hnodes⟩ | ⟨⟨failure, hfails⟩, later, hlater, hnone⟩
      · exact .inl ⟨n :: nodes, rfl, List.forall_mem_cons.2 ⟨⟨hn, hfits⟩, hnodes⟩⟩
      · refine .inr ⟨⟨failure, ?_⟩, later, List.mem_cons_of_mem _ hlater, hnone⟩
        rw [listedServices, nodeServices_eq_ok ht hn hfits, hfails]
        rfl
    · refine .inr ⟨⟨failure, ?_⟩, index, List.mem_cons_self, hnone⟩
      rw [listedServices, hfails]
      rfl

/-- A node that is in the way is not there or does not run the client in scope. -/
theorem unresolvable_of_unfit {indices : List Nat} {index : Nat} (hlisted : index ∈ indices)
    (hnone : ∀ n ∈ t.nodes, n.index = index → scopeFits n scope = false) :
    Unresolvable t (.nodes indices scope) := by
  by_cases hthere : ∃ n ∈ t.nodes, n.index = index
  · obtain ⟨n, hn, rfl⟩ := hthere
    have hunfit := hnone n hn rfl
    cases scope with
    | wholeNode => cases hunfit
    | client kind => exact .otherClient hn hlisted hunfit
  · exact .missing hlisted fun n hn hindex => hthere ⟨n, hn, hindex⟩

/-- Nodes that the scope fits are not in the way. -/
theorem not_unresolvable (ht : t.Distinct) {nodes : List Node}
    (hnodes : ∀ n ∈ nodes, n ∈ t.nodes ∧ scopeFits n scope = true) (hsome : nodes ≠ []) :
    ¬ Unresolvable t (.nodes (nodes.map (·.index)) scope) := by
  intro h
  generalize hindices : nodes.map (·.index) = indices at h
  cases h with
  | noNodes => exact hsome (List.map_eq_nil_iff.1 hindices)
  | missing hlisted hmissing =>
    obtain ⟨n, hn, rfl⟩ := List.mem_map.1 (hindices ▸ hlisted)
    exact hmissing n (hnodes n hn).1 rfl
  | @otherClient _ kind m hm hlisted hother =>
    obtain ⟨n, hn, hindex⟩ := List.mem_map.1 (hindices ▸ hlisted)
    obtain ⟨hmem, hfits⟩ := hnodes n hn
    have hsame : n = m := List.inj_on_of_nodup_map ht hmem hm hindex
    rw [hsame, scopeFits, hother] at hfits
    cases hfits

/-- The names that a list of nodes contributes are those of its services in scope. -/
theorem mem_listed (ht : t.Distinct) {nodes : List Node} (hnodes : ∀ n ∈ nodes, n ∈ t.nodes)
    (scope : TargetScope) (name : String) :
    name ∈ (nodes.flatMap (·.servicesIn (scopeRoles scope))).map (·.render t.size) ↔
      ∃ n ∈ t.nodes, ∃ role, t.serviceName? n role = some name ∧
        Intends n role (.nodes (nodes.map (·.index)) scope) := by
  rw [List.map_flatMap, List.mem_flatMap]
  constructor
  · rintro ⟨n, hn, hname⟩
    rw [← Topology.filterMap_serviceName?, List.mem_filterMap] at hname
    obtain ⟨role, hrole, hservice⟩ := hname
    exact ⟨n, hnodes n hn, role, hservice, List.mem_map_of_mem hn, mem_scopeRoles.1 hrole⟩
  · rintro ⟨n, hn, role, hservice, hlisted, hrole⟩
    obtain ⟨m, hm, hindex⟩ := List.mem_map.1 hlisted
    obtain rfl : m = n := List.inj_on_of_nodup_map ht (hnodes m hm) hn hindex
    refine ⟨m, hm, ?_⟩
    rw [← Topology.filterMap_serviceName?]
    exact List.mem_filterMap.2 ⟨role, mem_scopeRoles.2 hrole, hservice⟩

/-- A list of nodes selects the services in scope on the nodes that it lists. -/
theorem nodes_selectsIntended (ht : t.Distinct) (hplain : t.Plain) (indices : List Nat)
    (scope : TargetScope) : SelectsIntended (.nodes indices scope) t := by
  by_cases hsome : indices = []
  · subst hsome
    exact .of_names ht ⟨fun _ => .noNodes scope, fun _ => ⟨_, rfl⟩⟩ fun _ hs => nomatch hs
  rcases listedServices_cases ht scope indices with
    ⟨nodes, rfl, hnodes⟩ | ⟨⟨failure, hfails⟩, index, hlisted, hnone⟩
  · replace hsome : nodes ≠ [] := fun h => hsome (List.map_eq_nil_iff.2 h)
    have hresolve := resolve_nodes ht hnodes hsome
    refine .of_names ht ⟨?_, fun h => absurd h (not_unresolvable ht hnodes hsome)⟩
      fun s hs name => ?_
    · rintro ⟨failure, hfails⟩
      rw [hresolve] at hfails
      cases hfails
    · obtain rfl := Except.ok.inj (hresolve.symm.trans hs)
      have hmem := mem_listed ht (fun n hn => (hnodes n hn).1) scope name
      refine (Cluster.isSelected_isIn ht (fun _ _ name => some name)
        fun n hn role name pod hentry => (Cluster.labels_of_servicePod hplain hn hentry).1).trans
          ⟨?_, fun hmeant => ?_⟩
      · rintro ⟨n, hn, role, -, v, hv, hname⟩
        cases hname
        exact hmem.1 hv
      · have hname := hmem.2 hmeant
        obtain ⟨n, hn, role, hservice, -⟩ := hmeant
        exact ⟨n, hn, role, hservice, name, hname, rfl⟩
  · have hlist : indices.isEmpty = false := List.isEmpty_eq_false_iff.2 hsome
    have hresolve : (TargetDescription.nodes indices scope).resolve t = .error failure := by
      rw [resolve, requirement, hlist, hfails]
      rfl
    refine .of_names ht ⟨fun _ => unresolvable_of_unfit hlisted hnone, fun _ => ⟨failure, hresolve⟩⟩
      fun s hs => ?_
    rw [hresolve] at hs
    cases hs

end Nodes

/-! ## Roles and clients -/

section Labels

variable {t : Topology}

/-- A role selects its services. -/
theorem role_selectsIntended (ht : t.Distinct) (hplain : t.Plain) (r : Role) :
    SelectsIntended (.role r) t := by
  refine .of_names ht ⟨fun ⟨_, h⟩ => (nomatch h), fun h => nomatch h⟩ fun s hs name => ?_
  obtain rfl := Except.ok.inj hs
  refine (Cluster.isSelected_isIn ht (fun _ role _ => some role.serviceType)
    fun n hn role name pod hentry => (Cluster.labels_of_servicePod hplain hn hentry).2).trans ?_
  constructor
  · rintro ⟨n, hn, role, hservice, v, hv, hrole⟩
    rw [List.mem_singleton.1 hv] at hrole
    exact ⟨n, hn, role, hservice, Role.eq_of_serviceType_eq (Option.some.inj hrole)⟩
  · rintro ⟨n, hn, role, hservice, rfl⟩
    exact ⟨n, hn, role, hservice, _, List.mem_singleton_self _, rfl⟩

/-- A client selects the services that run it. -/
theorem clientKind_selectsIntended (ht : t.Distinct) (hown : t.SaysOwn) (kind : ClientKind) :
    SelectsIntended (.clientKind kind) t := by
  refine .of_names ht ⟨fun ⟨_, h⟩ => (nomatch h), fun h => nomatch h⟩ fun s hs name => ?_
  obtain rfl := Except.ok.inj hs
  refine (Cluster.isSelected_isIn ht (fun n role _ => (n.ownClient? role).map (·.name))
    fun n hn role name pod hentry => Cluster.clientType_of_servicePod hown hn hentry).trans ?_
  constructor
  · rintro ⟨n, hn, role, hservice, v, hv, hclient⟩
    rw [List.mem_singleton.1 hv] at hclient
    obtain ⟨kind', hkind, hname⟩ := Option.map_eq_some_iff.1 hclient
    rw [ClientKind.eq_of_name_eq hname] at hkind
    exact ⟨n, hn, role, hservice, hkind⟩
  · rintro ⟨n, hn, role, hservice, hclient⟩
    exact ⟨n, hn, role, hservice, _, List.mem_singleton_self _, congrArg _ hclient⟩

end Labels

/-! ## Declared networks -/

/-- In a cluster with the pods of a declared network whose labels leave the three keys alone, every
target is refused or selects exactly the pods of the services that it means. -/
theorem resolve_selects (d : ClientDefaults) {config : NetworkConfig} (h : config.Unclaimed) :
    ∃ t, Topology.ofNetwork d config = .ok t ∧
      ∀ target : TargetDescription, target.SelectsIntended t := by
  have hnumbered := Topology.declared_numbered d config.params.keysPerNode config.participants
  have hdistinct := hnumbered.distinct
  have hplain : Topology.Plain ⟨Topology.declaredNodes d config.params.keysPerNode 1 _⟩ :=
    Topology.declared_plain h
  refine ⟨_, Topology.ofNetwork_eq d config, fun target => ?_⟩
  cases target with
  | role r => exact role_selectsIntended hdistinct hplain r
  | clientKind kind => exact clientKind_selectsIntended hdistinct (Topology.declared_saysOwn h) kind
  | nodes indices scope => exact nodes_selectsIntended hdistinct hplain indices scope

/-- A teku beacon node with a lighthouse sidecar. -/
def mixedSidecar : NetworkConfig :=
  { NetworkConfig.empty with
    participants :=
      [{ Participant.ofKinds .geth .teku with
          separateValidator := true
          validator := some .lighthouse },
        Participant.ofKinds .besu .lighthouse] }

/-- A search for lighthouse finds the sidecar of the first node and the beacon node of the second
one. -/
theorem resolve_selects_mixedSidecar :
    mixedSidecar.Unclaimed ∧ ∃ t s, Topology.ofNetwork .standard mixedSidecar = .ok t ∧
      (clientKind (.consensus .lighthouse)).resolve t = .ok s ∧
      (Cluster.empty.addTopology t).IsSelected s "vc-1-lighthouse-geth" ∧
      (Cluster.empty.addTopology t).IsSelected s "cl-2-lighthouse-besu" := by
  have hunclaimed : mixedSidecar.Unclaimed := by
    intro p hp
    rcases List.mem_pair.1 hp with rfl | rfl
    · exact ⟨Labels.unclaimed_empty, Labels.unclaimed_empty, Labels.unclaimed_empty⟩
    · exact ⟨Labels.unclaimed_empty, Labels.unclaimed_empty, Labels.unclaimed_empty⟩
  obtain ⟨t, ht, hselects⟩ := resolve_selects .standard hunclaimed
  have hfound := (hselects (.clientKind (.consensus .lighthouse))).selected_iff _ rfl
  obtain rfl := Except.ok.inj ht
  refine ⟨hunclaimed, _, _, rfl, rfl, ?_, ?_⟩
  · exact (hfound _ List.mem_cons_self .validator _ rfl).2 rfl
  · exact (hfound _ (List.mem_cons_of_mem _ List.mem_cons_self) .consensus _ rfl).2 rfl

end TargetDescription
end DevnetChaos
