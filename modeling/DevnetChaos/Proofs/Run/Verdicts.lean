import DevnetChaos.Proofs.Run.Health
import DevnetChaos.Proofs.Simulation.Cluster

/-!
# Verdicts on pods

Health checks give one verdict on every pod under test that should have survived and on every
bystander, and none on any other pod.

Main definitions:

- `Cluster.Checked`, `Cluster.Runs`: the pods that are looked at, and the pods that are well.
- `Covers`: verdicts on exactly the pods that are looked at.

Main results:

- `Cluster.mem_checks_true`, `Cluster.mem_checks_false`: targets and bystanders among the checks.
- `Cluster.covers_checks`, `runChecks_covers`: what the checks find.
-/

namespace DevnetChaos

variable {c : Cluster} {pods : List PodUnderTest} {verdicts : List PodVerdict}

/-! ## Pods that are looked at -/

namespace Cluster

/-- The pods that are looked at: those under test that are not expected to die, also those that are
gone, and those that are not under test and have one of the service types. -/
def Checked (c : Cluster) (pods : List PodUnderTest) (name : String) : Prop :=
  (∃ p ∈ pods, p.name = name ∧ p.expectDeath = false) ∨
    (∀ p ∈ pods, p.name ≠ name) ∧ ∃ pod, c.pod? name = some pod ∧
      ∃ serviceType ∈ healthDimensions, pod.labels.get? serviceTypeLabel = some serviceType

/-- A pod exists and is running. -/
def Runs (c : Cluster) (name : String) : Prop :=
  ∃ pod, c.pod? name = some pod ∧ pod.phase = .running

end Cluster

/-- One verdict on every pod that is looked at, and none on any other. -/
structure Covers (c : Cluster) (pods : List PodUnderTest) (verdicts : List PodVerdict) : Prop where
  once : (verdicts.map (·.pod)).Nodup
  covered : ∀ name, (∃ v ∈ verdicts, v.pod = name) ↔ c.Checked pods name
  healthy : ∀ v ∈ verdicts, v.healthy = true ↔ c.Runs v.pod
  underTest : ∀ v ∈ verdicts, v.underTest = true ↔ ∃ p ∈ pods, p.name = v.pod

/-- All verdicts are good when all pods that are looked at are running. -/
theorem Covers.all_healthy_iff (h : Covers c pods verdicts) :
    verdicts.all (·.healthy) = true ↔ ∀ name, c.Checked pods name → c.Runs name := by
  rw [List.all_eq_true]
  constructor
  · intro hall name hchecked
    obtain ⟨v, hv, rfl⟩ := (h.covered name).2 hchecked
    exact (h.healthy v hv).1 (hall v hv)
  · intro hruns v hv
    exact (h.healthy v hv).2 (hruns v.pod ((h.covered v.pod).1 ⟨v, hv, rfl⟩))

/-! ## The checks -/

/-- The survivors are the pods under test that are not expected to die. -/
theorem mem_survivors {name : String} :
    name ∈ survivors pods ↔ ∃ p ∈ pods, p.name = name ∧ p.expectDeath = false := by
  simp only [survivors, List.mem_map, List.mem_filter, Bool.not_eq_true']
  constructor
  · rintro ⟨p, ⟨hp, halive⟩, hname⟩
    exact ⟨p, hp, hname, halive⟩
  · rintro ⟨p, hp, hname, halive⟩
    exact ⟨p, ⟨hp, halive⟩, hname⟩

theorem survivors_ofServiceType_subset (serviceType : String) (pods : List PodUnderTest) :
    survivors (ofServiceType serviceType pods) ⊆ survivors pods := by
  intro name hname
  obtain ⟨p, hp, hcond⟩ := mem_survivors.1 hname
  exact mem_survivors.2 ⟨p, List.mem_of_mem_filter hp, hcond⟩

namespace PodVerdict

/-- A pod is healthy exactly when it runs. -/
theorem ofPod_healthy_iff (c : Cluster) (name : String) (underTest : Bool) :
    (ofPod name underTest (c.pod? name)).healthy = true ↔ c.Runs name := by
  unfold Cluster.Runs ofPod
  cases c.pod? name with
  | none => simp
  | some pod => by_cases h : pod.phase = .running <;> simp [h]

@[simp] theorem ofPod_underTest (name : String) (underTest : Bool) (pod : Option PodInfo) :
    (ofPod name underTest pod).underTest = underTest := by
  unfold ofPod
  split
  · split <;> rfl
  · rfl

end PodVerdict

namespace Cluster

/-- Survivors are checked as pods under test. -/
theorem mem_checks_true {name : String} :
    (name, true) ∈ c.checks pods ↔ name ∈ survivors pods := by
  simp only [checks, List.mem_append, List.mem_flatMap, List.mem_map, Prod.mk.injEq, and_true,
    exists_eq_right, Bool.false_eq_true, and_false, exists_false, or_false, or_iff_right_iff_imp]
  rintro ⟨serviceType, -, hname⟩
  exact survivors_ofServiceType_subset serviceType pods hname

/-- Pods of the service types that are not under test are checked as bystanders. -/
theorem mem_checks_false {name : String} :
    (name, false) ∈ c.checks pods ↔ (∀ p ∈ pods, p.name ≠ name) ∧
      ∃ pod, c.pod? name = some pod ∧
        ∃ serviceType ∈ healthDimensions, pod.labels.get? serviceTypeLabel = some serviceType := by
  simp only [checks, List.mem_append, List.mem_flatMap, List.mem_map, Prod.mk.injEq, and_true,
    exists_eq_right, Bool.true_eq_false, and_false, exists_false, or_false, false_or,
    List.mem_filter, mem_labelled_iff_pod?, Bool.not_eq_true', List.any_eq_false, beq_iff_eq]
  constructor
  · rintro ⟨serviceType, hdimension, ⟨pod, hpod, hlabel⟩, hother⟩
    exact ⟨hother, pod, hpod, serviceType, hdimension, hlabel⟩
  · rintro ⟨hother, pod, hpod, serviceType, hdimension, hlabel⟩
    exact ⟨serviceType, hdimension, ⟨pod, hpod, hlabel⟩, hother⟩

/-- The checks give a verdict on every pod that is looked at. -/
theorem covers_checks (c : Cluster) (pods : List PodUnderTest) :
    Covers c pods ((c.checks pods).foldl c.check []) := by
  have hmem (name : String) : name ∈ (c.checks pods).map Prod.fst ↔ c.Checked pods name := by
    simp only [List.mem_map, Prod.exists, exists_and_right, exists_eq_right, Bool.exists_bool,
      mem_checks_false, mem_checks_true, mem_survivors, Checked]
    exact Or.comm
  -- A verdict says that its pod is under test as the first check of the pod does.
  have hverdict : ∀ v ∈ (c.checks pods).foldl c.check [], ∃ name flag,
      (name, flag) ∈ c.checks pods ∧ v = .ofPod name flag (c.pod? name) := by
    rw [foldl_check]
    intro v hv
    obtain ⟨name, hname, rfl⟩ := List.mem_map.1 hv
    cases hflag : (c.checks pods).lookup name with
    | none =>
      obtain ⟨check, hcheck, rfl⟩ := List.mem_map.1 (List.mem_eraseDups.1 hname)
      simpa using List.lookup_eq_none_iff.1 hflag check hcheck
    | some flag =>
      obtain ⟨before, after, hsplit, -⟩ := List.lookup_eq_some_iff.1 hflag
      exact ⟨name, flag, by simp [hsplit], rfl⟩
  constructor
  · rw [foldl_check_pods]
    exact nodup_eraseDups _
  · intro name
    rw [← hmem, ← List.mem_eraseDups, ← foldl_check_pods, List.mem_map]
  · intro v hv
    obtain ⟨name, flag, -, rfl⟩ := hverdict v hv
    rw [PodVerdict.ofPod_healthy_iff, ofPod_pod]
  · intro v hv
    obtain ⟨name, flag, hcheck, rfl⟩ := hverdict v hv
    rw [PodVerdict.ofPod_underTest, ofPod_pod]
    cases flag with
    | true =>
      obtain ⟨p, hp, hname, -⟩ := mem_survivors.1 (mem_checks_true.1 hcheck)
      exact iff_of_true rfl ⟨p, hp, hname⟩
    | false =>
      have hother := (mem_checks_false.1 hcheck).1
      refine iff_of_false (by simp) ?_
      rintro ⟨p, hp, hname⟩
      exact hother p hp hname

end Cluster

/-- The checks come to an end and give a verdict on every pod that is looked at. -/
theorem runChecks_covers {σ : Type} {env : Environment σ} {s : σ}
    (hreads : ReadsCluster env s c) (pods : List PodUnderTest) :
    ∃ verdicts, (runChecks pods).execute env s = (.done verdicts, s) ∧ Covers c pods verdicts :=
  ⟨_, runChecks_execute hreads pods, c.covers_checks pods⟩

end DevnetChaos
