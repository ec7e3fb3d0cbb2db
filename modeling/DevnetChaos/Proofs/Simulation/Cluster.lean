import DevnetChaos.Proofs.Target.Resolution
import DevnetChaos.Proofs.TextMap
import DevnetChaos.Simulation.Cluster

/-!
# The pods of a topology

The cluster of a built network has one running pod for each service of each node, under its name
and with labels that say its name and its role.

Main definitions:

- `Topology.podEntries`: the pods of a topology with their names.
- `Labels.Plain`: labels that do not speak for another service.

Main results:

- `Cluster.mem_labelled`: which pods a listing by label holds.
- `Cluster.removeAll_eq_empty`: what is left when all pods are taken out.
- `Cluster.addTopology_eq`: adding a topology inserts its pods.
- `Cluster.labelled_serviceId`: a name labels one pod.
- `Cluster.mem_labelled_serviceType`: which pods have the label of a role.
-/

namespace DevnetChaos

/-! ## Pods of services -/

namespace Topology

/-- The pod of the service of a node in a role, with its name. -/
def servicePod? (t : Topology) (n : Node) (role : Role) : Option (String × SimulatedPod) :=
  (t.serviceName? n role).map fun name =>
    (name, ⟨((Cluster.declaredLabels n role).insertNew serviceTypeLabel role.serviceType).insertNew
      serviceIdLabel name, .running⟩)

/-- The pods of all services, with their names. -/
def podEntries (t : Topology) : List (String × SimulatedPod) :=
  t.nodes.flatMap fun n => Role.all.filterMap (t.servicePod? n)

/-- The pods of a topology have the names of its services. -/
theorem podEntries_names (t : Topology) : t.podEntries.map Prod.fst = t.allNames := by
  have hnode : ∀ n, (Role.all.filterMap (t.servicePod? n)).map Prod.fst = t.serviceNames n := by
    intro n
    rw [List.map_filterMap, serviceNames]
    refine congrArg (fun f => Role.all.filterMap f) (funext fun role => ?_)
    simp [servicePod?, Function.comp_def]
  simp only [podEntries, allNames, List.map_flatMap, hnode]

/-- The pods of a topology are those of the services of its nodes. -/
theorem mem_podEntries {t : Topology} {name : String} {pod : SimulatedPod} :
    (name, pod) ∈ t.podEntries ↔
      ∃ n ∈ t.nodes, ∃ role, t.servicePod? n role = some (name, pod) := by
  simp [podEntries, Role.mem_all]

end Topology

/-! ## Plain labels -/

/-- Labels of a service in a role that do not speak for another service: they name no service, and
no other role. -/
structure Labels.Plain (labels : Labels) (role : Role) : Prop where
  serviceId : labels.get? serviceIdLabel = none
  serviceType : ∀ value ∈ labels.get? serviceTypeLabel, value = role.serviceType

/-- Every service of every node has plain labels. -/
def Topology.Plain (t : Topology) : Prop :=
  ∀ n ∈ t.nodes, ∀ role, (Cluster.declaredLabels n role).Plain role

theorem serviceIdLabel_ne_serviceTypeLabel : serviceIdLabel ≠ serviceTypeLabel := by decide

theorem serviceIdLabel_ne_clientTypeLabel : serviceIdLabel ≠ clientTypeLabel := by decide

theorem serviceTypeLabel_ne_clientTypeLabel : serviceTypeLabel ≠ clientTypeLabel := by decide

theorem Labels.plain_empty (role : Role) : Labels.Plain .empty role :=
  ⟨rfl, by simp⟩

/-- Filled labels are plain if they were before. -/
theorem Labels.Plain.withDefaults {labels : Labels} {role : Role} (h : labels.Plain role)
    (client : String) : (labels.withDefaults role client).Plain role := by
  constructor
  · simp [Labels.withDefaults, TextMap.get?_insertNew, serviceIdLabel_ne_serviceTypeLabel,
      serviceIdLabel_ne_clientTypeLabel, h.serviceId]
  · intro value hvalue
    simp only [Labels.withDefaults, TextMap.get?_insertNew, if_true,
      serviceTypeLabel_ne_clientTypeLabel, if_false, Option.mem_some_iff] at hvalue
    cases hset : labels.get? serviceTypeLabel with
    | none => simpa [hset] using hvalue.symm
    | some old =>
      have hold := h.serviceType old (Option.mem_def.2 hset)
      simpa [hset, hold] using hvalue.symm

namespace Cluster

/-! ## Listings -/

/-- A listing by label holds the pods with that value at that label. -/
theorem mem_labelled {c : Cluster} {key value name : String} :
    name ∈ c.labelled key value ↔
      ∃ pod, c.pods.get? name = some pod ∧ pod.labels.get? key = some value := by
  simp only [labelled, TextMap.toList, List.mem_map, List.mem_filter, beq_iff_eq,
    TextMap.get?_eq_some_iff]
  constructor
  · rintro ⟨⟨n, pod⟩, ⟨hmem, hlabel⟩, rfl⟩
    exact ⟨pod, hmem, hlabel⟩
  · rintro ⟨pod, hmem, hlabel⟩
    exact ⟨(name, pod), ⟨hmem, hlabel⟩, rfl⟩

/-- A listing by label holds the pods that are found with that value at that label. -/
theorem mem_labelled_iff_pod? {c : Cluster} {key value name : String} :
    name ∈ c.labelled key value ↔
      ∃ pod, c.pod? name = some pod ∧ pod.labels.get? key = some value := by
  rw [mem_labelled, pod?]
  cases c.pods.get? name <;> simp

/-- A listing by label holds no pod twice. -/
theorem nodup_labelled (c : Cluster) (key value : String) : (c.labelled key value).Nodup :=
  c.pods.nodup_keys.sublist (List.filter_sublist.map _)

/-! ## Taking pods out -/

/-- A name is listed if it has a pod. -/
theorem mem_names {c : Cluster} {name : String} :
    name ∈ c.names ↔ ∃ pod, c.pods.get? name = some pod :=
  TextMap.mem_keys

/-- A cluster without names has no pods. -/
theorem eq_empty_of_names {c : Cluster} (h : c.names = []) : c = empty := by
  obtain ⟨⟨entries, sorted⟩⟩ := c
  obtain rfl : entries = [] := List.map_eq_nil_iff.1 h
  rfl

/-- Taking a pod out leaves all others. -/
theorem mem_names_remove {c : Cluster} {name other : String} :
    other ∈ (c.remove name).names ↔ other ∈ c.names ∧ other ≠ name := by
  simp only [mem_names, remove, TextMap.get?_erase]
  by_cases heq : other = name <;> simp [heq]

/-- Taking pods out leaves all others. -/
theorem mem_names_removeAll {c : Cluster} {names : List String} {name : String} :
    name ∈ (c.removeAll names).names ↔ name ∈ c.names ∧ name ∉ names := by
  induction names generalizing c with
  | nil => simp [removeAll]
  | cons first rest ih =>
    change name ∈ ((c.remove first).removeAll rest).names ↔ _
    rw [ih, mem_names_remove, List.mem_cons, not_or, and_assoc]

/-- Nothing is left of a cluster all of whose pods are taken out. -/
theorem removeAll_eq_empty {c : Cluster} {names : List String} (h : c.names ⊆ names) :
    c.removeAll names = empty :=
  eq_empty_of_names (List.eq_nil_iff_forall_not_mem.2 fun _ hname =>
    (mem_names_removeAll.1 hname).2 (h (mem_names_removeAll.1 hname).1))

/-! ## Adding a topology -/

/-- Adding a service adds its pod, if the node has that service. -/
theorem addService_eq (t : Topology) (n : Node) (c : Cluster) (role : Role) :
    addService t n c role = ⟨c.pods.insertAll (t.servicePod? n role).toList⟩ := by
  unfold addService Topology.servicePod?
  cases t.serviceName? n role <;> rfl

/-- Adding the services of some roles adds the pods that the node has for them. -/
theorem foldl_addService_eq (t : Topology) (n : Node) (c : Cluster) (roles : List Role) :
    roles.foldl (addService t n) c = ⟨c.pods.insertAll (roles.filterMap (t.servicePod? n))⟩ := by
  induction roles generalizing c with
  | nil => rfl
  | cons role rest ih =>
    have hsplit : (role :: rest).filterMap (t.servicePod? n) =
        (t.servicePod? n role).toList ++ rest.filterMap (t.servicePod? n) := by
      cases h : t.servicePod? n role <;> simp [h]
    rw [List.foldl_cons, ih, addService_eq, hsplit, TextMap.insertAll_append]

/-- Adding a topology inserts its pods one after the other. -/
theorem addTopology_eq (c : Cluster) (t : Topology) :
    c.addTopology t = ⟨c.pods.insertAll t.podEntries⟩ := by
  have hnodes : ∀ (nodes : List Node) (c : Cluster),
      nodes.foldl (fun c n => Role.all.foldl (addService t n) c) c =
        ⟨c.pods.insertAll (nodes.flatMap fun n => Role.all.filterMap (t.servicePod? n))⟩ := by
    intro nodes
    induction nodes with
    | nil => intro c; rfl
    | cons n rest ih =>
      intro c
      rw [List.foldl_cons, foldl_addService_eq, ih, List.flatMap_cons, TextMap.insertAll_append]
  exact hnodes t.nodes c

section Built

variable {t : Topology} {name : String}

/-- In a new cluster exactly the pods of the topology are found. -/
theorem get?_addTopology (ht : t.Distinct) {pod : SimulatedPod} :
    (empty.addTopology t).pods.get? name = some pod ↔ (name, pod) ∈ t.podEntries := by
  have hkeys : (t.podEntries.map Prod.fst).Nodup := by
    rw [Topology.podEntries_names]
    exact ht.nodup_allNames
  rw [addTopology_eq, TextMap.get?_insertAll _ _ hkeys]
  simp only [empty, TextMap.get?_empty, Option.or_none]
  exact TextMap.lookup_eq_some_iff hkeys

/-- The pods of a new cluster are the services of the topology. -/
theorem mem_names_addTopology (ht : t.Distinct) :
    name ∈ (empty.addTopology t).names ↔ name ∈ t.allNames := by
  rw [mem_names, ← Topology.podEntries_names, List.mem_map]
  constructor
  · rintro ⟨pod, hget⟩
    exact ⟨(name, pod), (get?_addTopology ht).1 hget, rfl⟩
  · rintro ⟨⟨_, pod⟩, hmem, rfl⟩
    exact ⟨pod, (get?_addTopology ht).2 hmem⟩

/-- An empty cluster to which a topology is added has the pods of its services, each one once. -/
theorem names_addTopology_perm (ht : t.Distinct) :
    (empty.addTopology t).names.Perm t.allNames :=
  (List.perm_ext_iff_of_nodup (TextMap.nodup_keys _) ht.nodup_allNames).2 fun _ =>
    mem_names_addTopology ht

/-- Each service of a topology has a pod. -/
theorem exists_pod (ht : t.Distinct) (hname : name ∈ t.allNames) :
    ∃ pod, (name, pod) ∈ t.podEntries ∧ (empty.addTopology t).pods.get? name = some pod := by
  rw [← Topology.podEntries_names] at hname
  obtain ⟨⟨_, pod⟩, hmem, rfl⟩ := List.mem_map.1 hname
  exact ⟨pod, hmem, (get?_addTopology ht).2 hmem⟩

/-- Every pod of a new cluster is running. -/
theorem pod?_addTopology (ht : t.Distinct) (hname : name ∈ t.allNames) :
    ∃ labels, (empty.addTopology t).pod? name = some ⟨name, labels, .running⟩ := by
  obtain ⟨pod, hmem, hget⟩ := exists_pod ht hname
  obtain ⟨n, _, role, hentry⟩ := Topology.mem_podEntries.1 hmem
  obtain ⟨_, _, hpod⟩ := Option.map_eq_some_iff.1 hentry
  have hphase : pod.phase = .running := by
    cases hpod
    rfl
  refine ⟨pod.labels, ?_⟩
  rw [pod?, hget, Option.map_some, hphase]

/-- The labels of the pod of a service say its name and its role. -/
theorem labels_of_servicePod (hplain : t.Plain) {n : Node} (hn : n ∈ t.nodes) {role : Role}
    {pod : SimulatedPod} (hentry : t.servicePod? n role = some (name, pod)) :
    pod.labels.get? serviceIdLabel = some name ∧
      pod.labels.get? serviceTypeLabel = some role.serviceType := by
  obtain ⟨_, _, hpod⟩ := Option.map_eq_some_iff.1 hentry
  cases hpod
  have hdeclared := hplain n hn role
  constructor
  · simp [TextMap.get?_insertNew, serviceIdLabel_ne_serviceTypeLabel, hdeclared.serviceId]
  · simp only [TextMap.get?_insertNew, if_true, serviceIdLabel_ne_serviceTypeLabel.symm, if_false]
    cases hset : (declaredLabels n role).get? serviceTypeLabel with
    | none => rfl
    | some old =>
      exact congrArg some (hdeclared.serviceType old (Option.mem_def.2 hset))

/-- The name of a service labels its own pod and no other. -/
theorem labelled_serviceId (ht : t.Distinct) (hplain : t.Plain) (hname : name ∈ t.allNames) :
    (empty.addTopology t).labelled serviceIdLabel name = [name] := by
  refine List.perm_singleton.1 ((List.perm_ext_iff_of_nodup (nodup_labelled ..)
    (List.nodup_singleton name)).2 fun other => ?_)
  rw [mem_labelled, List.mem_singleton]
  constructor
  · rintro ⟨pod, hget, hlabel⟩
    obtain ⟨n, hn, role, hentry⟩ := Topology.mem_podEntries.1 ((get?_addTopology ht).1 hget)
    rw [(labels_of_servicePod hplain hn hentry).1] at hlabel
    exact Option.some.inj hlabel
  · rintro rfl
    obtain ⟨pod, hmem, hget⟩ := exists_pod ht hname
    obtain ⟨n, hn, role, hentry⟩ := Topology.mem_podEntries.1 hmem
    exact ⟨pod, hget, (labels_of_servicePod hplain hn hentry).1⟩

/-- The label of a role is that of its services. -/
theorem mem_labelled_serviceType (ht : t.Distinct) (hplain : t.Plain) {role : Role} :
    name ∈ (empty.addTopology t).labelled serviceTypeLabel role.serviceType ↔
      ∃ n ∈ t.nodes, t.serviceName? n role = some name := by
  rw [mem_labelled]
  constructor
  · rintro ⟨pod, hget, hlabel⟩
    obtain ⟨n, hn, r, hentry⟩ := Topology.mem_podEntries.1 ((get?_addTopology ht).1 hget)
    rw [(labels_of_servicePod hplain hn hentry).2, Option.some.injEq] at hlabel
    obtain ⟨_, hservice, hpod⟩ := Option.map_eq_some_iff.1 hentry
    cases hpod
    exact ⟨n, hn, Role.eq_of_serviceType_eq hlabel ▸ hservice⟩
  · rintro ⟨n, hn, hservice⟩
    have hentry : t.servicePod? n role = some (name, _) :=
      Option.map_eq_some_iff.2 ⟨_, hservice, rfl⟩
    exact ⟨_, (get?_addTopology ht).2 (Topology.mem_podEntries.2 ⟨n, hn, role, hentry⟩),
      (labels_of_servicePod hplain hn hentry).2⟩

end Built
end Cluster
end DevnetChaos
