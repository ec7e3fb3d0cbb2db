import DevnetChaos.Proofs.Results
import DevnetChaos.Proofs.ServiceName.Rendering
import DevnetChaos.Target
import Mathlib.Data.List.Nodup

/-!
# Resolution of targets

Nodes with different indices have no service name in common, so a list of nodes resolves to the
names of their services, each once.

Main definitions:

- `Node.servicesIn`: the services of a node in some roles.
- `Topology.Distinct`: different nodes have different indices.
- `Topology.allNames`: the names of all services.

Main results:

- `Topology.Distinct.node?_eq_some`: a node is found by its index.
- `Node.nodup_services`: the services of different nodes and roles are different.
- `Topology.nodup_names`: so are their names.
- `Topology.Distinct.service_unique`: a name is that of one service.
- `TargetDescription.resolve_nodes`: what a list of nodes resolves to.
-/

namespace DevnetChaos

/-! ## Services of nodes -/

namespace Node

/-- The services of a node in the given roles. -/
def servicesIn (n : Node) (roles : List Role) : List ServiceName := roles.filterMap n.service?

/-- A service belongs to its node and its role. -/
theorem service?_eq_some {n : Node} {role : Role} {s : ServiceName}
    (h : n.service? role = some s) : s.role = role ∧ s.index = n.index := by
  cases role with
  | execution => cases h; exact ⟨rfl, rfl⟩
  | consensus => cases h; exact ⟨rfl, rfl⟩
  | validator =>
    obtain ⟨kind, _, rfl⟩ := Option.map_eq_some_iff.1 h
    exact ⟨rfl, rfl⟩

theorem mem_servicesIn {n : Node} {roles : List Role} {s : ServiceName} :
    s ∈ n.servicesIn roles ↔ ∃ role ∈ roles, n.service? role = some s :=
  List.mem_filterMap

/-- All services of a node have its index. -/
theorem index_of_mem_servicesIn {n : Node} {roles : List Role} {s : ServiceName}
    (h : s ∈ n.servicesIn roles) : s.index = n.index := by
  obtain ⟨role, _, hs⟩ := mem_servicesIn.1 h
  exact (service?_eq_some hs).2

/-- The services of a node in different roles are different. -/
theorem nodup_servicesIn (n : Node) {roles : List Role} (hroles : roles.Nodup) :
    (n.servicesIn roles).Nodup := by
  refine hroles.filterMap fun r r' s hr hr' => ?_
  rw [← (service?_eq_some hr).1, ← (service?_eq_some hr').1]

/-- The services of different nodes and roles are different. -/
theorem nodup_services {nodes : List Node} {roles : List Role}
    (hindices : (nodes.map (·.index)).Nodup) (hroles : roles.Nodup) :
    (nodes.flatMap (·.servicesIn roles)).Nodup := by
  refine List.nodup_flatMap.2 ⟨fun n _ => n.nodup_servicesIn hroles, ?_⟩
  refine (List.pairwise_map.1 hindices).imp fun hne s hs hs' => hne ?_
  rw [← index_of_mem_servicesIn hs, ← index_of_mem_servicesIn hs']

end Node

namespace Topology

/-! ## Looking nodes up -/

/-- Different nodes have different indices. -/
def Distinct (t : Topology) : Prop := (t.nodes.map (·.index)).Nodup

/-- Indices that increase are different. -/
theorem distinct_of_sorted {t : Topology} (h : t.nodes.Pairwise fun a b => a.index < b.index) :
    t.Distinct :=
  List.pairwise_map.2 (h.imp Nat.ne_of_lt)

/-- Of nodes with different indices each one is found by its own. -/
theorem find?_index {nodes : List Node} {n : Node} (hindices : (nodes.map (·.index)).Nodup)
    (hn : n ∈ nodes) : (nodes.find? fun m => m.index == n.index) = some n := by
  induction nodes with
  | nil => simp at hn
  | cons m rest ih =>
    simp only [List.map_cons, List.nodup_cons] at hindices
    rcases List.mem_cons.1 hn with rfl | hlater
    · simp
    · have hne : m.index ≠ n.index := fun h => hindices.1 (h ▸ List.mem_map_of_mem hlater)
      rw [List.find?_cons_of_neg (by simpa using hne), ih hindices.2 hlater]

/-- A node is found by its index. -/
theorem Distinct.node?_eq_some {t : Topology} (h : t.Distinct) {n : Node} (hn : n ∈ t.nodes) :
    t.node? n.index = some n :=
  find?_index h hn

/-! ## Names -/

/-- The names of the services of a node, for some roles. -/
theorem filterMap_serviceName? (t : Topology) (n : Node) (roles : List Role) :
    roles.filterMap (t.serviceName? n) = (n.servicesIn roles).map (·.render t.size) := by
  rw [Node.servicesIn, List.map_filterMap]
  rfl

/-- The names of the services of different nodes and roles are different. -/
theorem nodup_names (size : Nat) {nodes : List Node} {roles : List Role}
    (hindices : (nodes.map (·.index)).Nodup) (hroles : roles.Nodup) :
    ((nodes.flatMap (·.servicesIn roles)).map (·.render size)).Nodup :=
  (Node.nodup_services hindices hroles).map fun _ _ h => ServiceName.eq_of_render_eq h

/-- The names of all services of all nodes, by node and then by role. -/
def allNames (t : Topology) : List String := t.nodes.flatMap t.serviceNames

/-- The names of all services, node by node. -/
theorem allNames_eq (t : Topology) :
    t.allNames = (t.nodes.flatMap (·.servicesIn Role.all)).map (·.render t.size) := by
  rw [allNames, List.map_flatMap]
  exact congrArg (fun f => t.nodes.flatMap f) (funext fun n => t.filterMap_serviceName? n Role.all)

/-- No two services of different nodes or roles have one name. -/
theorem Distinct.nodup_allNames {t : Topology} (h : t.Distinct) : t.allNames.Nodup := by
  rw [allNames_eq]
  exact nodup_names t.size h (by decide)

/-- A name is listed if it is that of a service of some node. -/
theorem mem_allNames {t : Topology} {name : String} :
    name ∈ t.allNames ↔ ∃ n ∈ t.nodes, ∃ role, t.serviceName? n role = some name := by
  simp [allNames, serviceNames, Role.mem_all]

/-- A name is that of one service. -/
theorem Distinct.service_unique {t : Topology} (h : t.Distinct) {n m : Node} {role role' : Role}
    {name : String} (hn : n ∈ t.nodes) (hm : m ∈ t.nodes)
    (hservice : t.serviceName? n role = some name)
    (hservice' : t.serviceName? m role' = some name) :
    n = m ∧ role = role' := by
  obtain ⟨s, hs, hname⟩ := Option.map_eq_some_iff.1 hservice
  obtain ⟨s', hs', hname'⟩ := Option.map_eq_some_iff.1 hservice'
  obtain rfl := ServiceName.eq_of_render_eq (hname.trans hname'.symm)
  obtain ⟨hrole, hindex⟩ := Node.service?_eq_some hs
  obtain ⟨hrole', hindex'⟩ := Node.service?_eq_some hs'
  exact ⟨List.inj_on_of_nodup_map h hn hm (hindex.symm.trans hindex'), hrole.symm.trans hrole'⟩

end Topology

namespace TargetDescription

/-! ## Resolution -/

/-- No role occurs twice in a scope. -/
theorem nodup_scopeRoles (scope : TargetScope) : (scopeRoles scope).Nodup := by
  cases scope with
  | wholeNode => decide
  | client kind => cases kind <;> simp [scopeRoles]

/-- The services of a node that a scope fits are those of the roles in the scope. -/
theorem nodeServices_eq_ok {t : Topology} (ht : t.Distinct) {scope : TargetScope} {n : Node}
    (hn : n ∈ t.nodes) (hfits : scopeFits n scope = true) :
    nodeServices t scope n.index =
      .ok ((n.servicesIn (scopeRoles scope)).map (·.render t.size)) := by
  rw [nodeServices, ht.node?_eq_some hn, ← Topology.filterMap_serviceName?]
  simp [hfits]

/-- Listed nodes that the scope fits contribute their services one after the other. -/
theorem listedServices_eq_ok {t : Topology} (ht : t.Distinct) {scope : TargetScope}
    {nodes : List Node} (hnodes : ∀ n ∈ nodes, n ∈ t.nodes ∧ scopeFits n scope = true) :
    listedServices t scope (nodes.map (·.index)) =
      .ok ((nodes.flatMap (·.servicesIn (scopeRoles scope))).map (·.render t.size)) := by
  induction nodes with
  | nil => rfl
  | cons n rest ih =>
    obtain ⟨hn, hfits⟩ := hnodes n List.mem_cons_self
    have hrest := ih fun m hm => hnodes m (List.mem_cons_of_mem n hm)
    rw [List.map_cons, listedServices, nodeServices_eq_ok ht hn hfits, hrest, List.flatMap_cons,
      List.map_append]
    rfl

/-- A list of nodes resolves to a selector that names their services. -/
theorem resolve_nodes {t : Topology} (ht : t.Distinct) {scope : TargetScope} {nodes : List Node}
    (hnodes : ∀ n ∈ nodes, n ∈ t.nodes ∧ scopeFits n scope = true) (hsome : nodes ≠ []) :
    (TargetDescription.nodes (nodes.map (·.index)) scope).resolve t =
      .ok ⟨(TargetDescription.nodes (nodes.map (·.index)) scope).display,
        [.serviceIds ((nodes.flatMap (·.servicesIn (scopeRoles scope))).map
          (·.render t.size))]⟩ := by
  have hlist : (nodes.map (·.index)).isEmpty = false := by simpa using hsome
  rw [resolve, requirement, hlist, listedServices_eq_ok ht hnodes]
  rfl

end TargetDescription
end DevnetChaos
