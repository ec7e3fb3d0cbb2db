import DevnetChaos.Proofs.Planner.Suite
import DevnetChaos.Proofs.Run.Verdicts

/-!
# Tests on the devnet they were made for

A test that aims at services of a devnet by name finds exactly these as its pods under test, and
its checks come to every pod of the devnet that is not meant to die, once.

Main definitions:

- `SuiteTest.doomedPods`: the pods that are meant to die.
- `SuiteTest.targets`, `SuiteTest.verdicts`: the pods under test and the verdicts on such a devnet.
- `SuiteTest.AimsAt`: the faults of a test name services of a topology, none of them twice.
- `Topology.cluster`: the cluster of a devnet.

Main results:

- `SuiteTest.AimsAt.targets_names`: the pods under test.
- `SuiteTest.AimsAt.verdicts_healthy`, `SuiteTest.AimsAt.mem_verdicts`: the verdicts.
-/

namespace DevnetChaos

/-- The cluster of a newly built devnet. -/
def Topology.cluster (t : Topology) : Cluster := Cluster.empty.addTopology t

namespace SuiteTest

/-- The pods that the faults of a test are meant to kill. -/
def doomedPods (test : SuiteTest) : List String :=
  test.faults.flatMap fun fault =>
    if fault.expectsDeath then fault.selector.flatMap (·.values) else []

/-- The pods under test of a test on the devnet of a topology. -/
def targets (test : SuiteTest) (t : Topology) : List PodUnderTest :=
  (t.cluster.sightings test.faults).foldl t.cluster.sight []

/-- The verdicts of a test on the devnet of a topology. -/
def verdicts (test : SuiteTest) (t : Topology) : List PodVerdict :=
  (t.cluster.checks (test.targets t)).foldl t.cluster.check []

/-- The faults of a test name services of a topology, and none of them twice. -/
structure AimsAt (test : SuiteTest) (t : Topology) : Prop where
  selectors : ∀ fault ∈ test.faults, ∃ ids, fault.selector = [.serviceIds ids]
  named : ∀ name ∈ test.namedPods, name ∈ t.allNames
  once : test.namedPods.Nodup

/-- Every pod that a fault of a test names is one that the test names. -/
theorem mem_namedPods_of_fault {test : SuiteTest} {fault : Fault} (hfault : fault ∈ test.faults)
    {name : String} (hname : name ∈ fault.selector.flatMap (·.values)) :
    name ∈ test.namedPods :=
  List.mem_flatMap.2 ⟨fault, hfault, hname⟩

/-- Only pods that are named are meant to die. -/
theorem mem_namedPods_of_doomed {test : SuiteTest} {name : String}
    (h : name ∈ test.doomedPods) : name ∈ test.namedPods := by
  obtain ⟨fault, hfault, hname⟩ := List.mem_flatMap.1 h
  split at hname
  · exact mem_namedPods_of_fault hfault hname
  · simp at hname

namespace AimsAt

variable {test : SuiteTest} {t : Topology}

/-! ## Pods under test -/

/-- A fault hits the pods that it names. -/
theorem hits_eq (h : test.AimsAt t) (ht : t.Distinct) (hplain : t.Plain) {fault : Fault}
    (hfault : fault ∈ test.faults) :
    t.cluster.hits fault = fault.selector.flatMap (·.values) := by
  obtain ⟨ids, hids⟩ := h.selectors fault hfault
  have hnamed : ∀ id ∈ ids, id ∈ t.allNames := fun id hid =>
    h.named id (mem_namedPods_of_fault hfault (by simpa [hids, Requirement.serviceIds] using hid))
  have hfound : ∀ xs : List String, (∀ id ∈ xs, id ∈ t.allNames) →
      xs.flatMap (t.cluster.labelled serviceIdLabel) = xs := by
    intro xs
    induction xs with
    | nil => exact fun _ => rfl
    | cons id rest ih =>
      intro hxs
      have hid : t.cluster.labelled serviceIdLabel id = [id] :=
        Cluster.labelled_serviceId ht hplain (hxs id List.mem_cons_self)
      rw [List.flatMap_cons, hid, ih fun x hx => hxs x (List.mem_cons_of_mem id hx)]
      rfl
  rw [Cluster.hits, hids]
  simp [Requirement.serviceIds, hfound ids hnamed]

/-- The pods that the faults of a test select are those that they name. -/
theorem sightings_eq (h : test.AimsAt t) (ht : t.Distinct) (hplain : t.Plain) :
    t.cluster.sightings test.faults = test.faults.flatMap fun fault =>
      (fault.selector.flatMap (·.values)).map (·, fault.expectsDeath) := by
  unfold Cluster.sightings
  refine List.flatMap_congr fun fault hfault => ?_
  rw [h.hits_eq ht hplain hfault]

/-- The pods are sighted in the order in which they are named. -/
theorem sightings_names (h : test.AimsAt t) (ht : t.Distinct) (hplain : t.Plain) :
    (t.cluster.sightings test.faults).map Prod.fst = test.namedPods := by
  rw [h.sightings_eq ht hplain, List.map_flatMap, namedPods]
  refine List.flatMap_congr fun fault _ => ?_
  simp [Function.comp_def]

/-- A pod is sighted as one that is to die exactly if it is doomed. -/
theorem mem_sightings_true (h : test.AimsAt t) (ht : t.Distinct) (hplain : t.Plain)
    {name : String} :
    (name, true) ∈ t.cluster.sightings test.faults ↔ name ∈ test.doomedPods := by
  rw [h.sightings_eq ht hplain, doomedPods, List.mem_flatMap, List.mem_flatMap]
  refine exists_congr fun fault => and_congr_right fun _ => ?_
  cases hdeath : fault.expectsDeath <;> simp

/-- The pods under test are those that the test names, each with what is expected of it. -/
theorem targets_eq (h : test.AimsAt t) (ht : t.Distinct) (hplain : t.Plain) :
    test.targets t =
      test.namedPods.map (t.cluster.underTest (t.cluster.sightings test.faults)) := by
  have hexist : ∀ e ∈ t.cluster.sightings test.faults, ∃ pod, t.cluster.pod? e.1 = some pod := by
    intro e he
    have hname : e.1 ∈ test.namedPods := by
      rw [← h.sightings_names ht hplain]
      exact List.mem_map_of_mem he
    obtain ⟨labels, hpod⟩ := Cluster.pod?_addTopology ht (h.named e.1 hname)
    exact ⟨_, hpod⟩
  rw [targets, Cluster.foldl_sight hexist, h.sightings_names ht hplain, eraseDups_of_nodup h.once]

/-- The pods under test are the pods that the test names, in order. -/
theorem targets_names (h : test.AimsAt t) (ht : t.Distinct) (hplain : t.Plain) :
    (test.targets t).map (·.name) = test.namedPods := by
  rw [h.targets_eq ht hplain, List.map_map]
  exact List.map_id _

/-- The pods under test that should survive are those that are named and not doomed. -/
theorem survives_iff (h : test.AimsAt t) (ht : t.Distinct) (hplain : t.Plain) {name : String} :
    (∃ p ∈ test.targets t, p.name = name ∧ p.expectDeath = false) ↔
      name ∈ test.namedPods ∧ name ∉ test.doomedPods := by
  rw [h.targets_eq ht hplain, ← h.mem_sightings_true ht hplain]
  constructor
  · rintro ⟨p, hp, rfl, hlives⟩
    obtain ⟨n, hn, rfl⟩ := List.mem_map.1 hp
    exact ⟨hn, by simpa [Cluster.underTest] using hlives⟩
  · rintro ⟨hn, hlives⟩
    exact ⟨_, List.mem_map_of_mem hn, rfl, by simpa [Cluster.underTest] using hlives⟩

/-! ## Verdicts -/

/-- The pods that are looked at are those of the devnet that are not doomed. -/
theorem checked_iff (h : test.AimsAt t) (ht : t.Distinct) (hplain : t.Plain) {name : String} :
    t.cluster.Checked (test.targets t) name ↔ name ∈ t.allNames ∧ name ∉ test.doomedPods := by
  have hother : (∀ p ∈ test.targets t, p.name ≠ name) ↔ name ∉ test.namedPods := by
    rw [← h.targets_names ht hplain, List.mem_map]
    push Not
    rfl
  have hservice (role : Role) : (∃ pod, t.cluster.pod? name = some pod ∧
      pod.labels.get? serviceTypeLabel = some role.serviceType) ↔
        ∃ n ∈ t.nodes, t.serviceName? n role = some name := by
    rw [← Cluster.mem_labelled_iff_pod?]
    exact Cluster.mem_labelled_serviceType ht hplain
  rw [Cluster.Checked, h.survives_iff ht hplain, hother]
  constructor
  · rintro (⟨hn, hlives⟩ | ⟨hunnamed, pod, hpod, serviceType, hdimension, hlabel⟩)
    · exact ⟨h.named name hn, hlives⟩
    · obtain ⟨role, hrole, rfl⟩ := List.mem_map.1 hdimension
      obtain ⟨n, hn, hname⟩ := (hservice role).1 ⟨pod, hpod, hlabel⟩
      refine ⟨List.mem_flatMap.2 ⟨n, hn, List.mem_filterMap.2 ⟨role, hrole, hname⟩⟩, ?_⟩
      exact fun hdoomed => hunnamed (mem_namedPods_of_doomed hdoomed)
  · rintro ⟨hn, hlives⟩
    by_cases hnamed : name ∈ test.namedPods
    · exact .inl ⟨hnamed, hlives⟩
    · obtain ⟨n, hn, hname⟩ := List.mem_flatMap.1 hn
      obtain ⟨role, hrole, hname⟩ := List.mem_filterMap.1 hname
      obtain ⟨pod, hpod, hlabel⟩ := (hservice role).2 ⟨n, hn, hname⟩
      exact .inr ⟨hnamed, pod, hpod, role.serviceType, List.mem_map_of_mem hrole, hlabel⟩

/-- There is one verdict on each pod of the devnet that is not doomed, and no other. -/
theorem mem_verdicts (h : test.AimsAt t) (ht : t.Distinct) (hplain : t.Plain) {name : String} :
    name ∈ (test.verdicts t).map (·.pod) ↔ name ∈ t.allNames ∧ name ∉ test.doomedPods := by
  rw [List.mem_map, ← h.checked_iff ht hplain]
  exact (Cluster.covers_checks _ _).covered name

/-- Every verdict is that the pod is healthy. -/
theorem verdicts_healthy (h : test.AimsAt t) (ht : t.Distinct) (hplain : t.Plain) :
    ∀ v ∈ test.verdicts t, v.healthy = true := by
  intro v hv
  obtain ⟨hn, -⟩ := (h.mem_verdicts ht hplain).1 (List.mem_map_of_mem hv)
  obtain ⟨labels, hpod⟩ := Cluster.pod?_addTopology ht hn
  exact ((Cluster.covers_checks _ _).healthy v hv).2 ⟨_, hpod, rfl⟩

end AimsAt

/-- No pod has two verdicts. -/
theorem nodup_verdicts (test : SuiteTest) (t : Topology) :
    ((test.verdicts t).map (·.pod)).Nodup :=
  (Cluster.covers_checks _ _).once

end SuiteTest
end DevnetChaos
