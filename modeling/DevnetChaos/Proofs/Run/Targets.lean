import DevnetChaos.Proofs.Run.Health
import DevnetChaos.Proofs.Simulation.Cluster
import DevnetChaos.Proofs.Simulation.Steady

/-!
# The pods under test and the pods that are hit

The fault platform hits the pods that satisfy every requirement of a selector.  The pods under test
are found one requirement at a time, so they are those that satisfy at least one.  The two agree on
selectors with a single requirement, which is all that plans ever use, and otherwise only on
clusters where no pod satisfies some requirements of a selector and not the others.

Main definitions:

- `acceptsSome`: the reading of a selector by which pods are found.
- `ListsHits`: pods under test are those that faults hit, by some reading of their selectors.

Main results:

- `podsUnderTest_listsHits`: the pods under test, by the reading `acceptsSome`.
- `podsUnderTest_exact_iff`: when they are the pods that are really hit.
- `podsUnderTest_not_exact`: a cluster where they are not.
-/

namespace DevnetChaos

open Simulation

variable {c : Cluster} {faults : List Fault}

/-! ## Readings of selectors -/

/-- Whether labels satisfy one of the requirements that are lists of wanted values. -/
def acceptsSome (requirements : List Requirement) (labels : Labels) : Bool :=
  requirements.any fun r => r.operator = .isIn && r.accepts labels

/-- A selector that is not empty and consists of lists of wanted values. -/
def Listing (requirements : List Requirement) : Prop :=
  requirements ≠ [] ∧ ∀ r ∈ requirements, r.operator = .isIn

theorem acceptsSome_of_acceptsAll {requirements : List Requirement} {labels : Labels}
    (hlisting : Listing requirements) (h : acceptsAll requirements labels = true) :
    acceptsSome requirements labels = true := by
  obtain ⟨r, rest, rfl⟩ := List.exists_cons_of_ne_nil hlisting.1
  have hin := hlisting.2 r List.mem_cons_self
  simp only [acceptsAll, List.all_cons, Bool.and_eq_true] at h
  simp [acceptsSome, hin, h.2.1]

/-- A single list of wanted values is read in one way. -/
theorem acceptsSome_singleton {r : Requirement} (hin : r.operator = .isIn) (labels : Labels) :
    acceptsSome [r] labels = acceptsAll [r] labels := by
  simp [acceptsSome, acceptsAll, hin]

/-- One of the faults selects a pod with these labels. -/
def Hit (selects : List Requirement → Labels → Bool) (faults : List Fault)
    (labels : Labels) : Prop :=
  ∃ fault ∈ faults, selects fault.selector labels = true

/-- Every pod of a cluster that faults select is listed once, and no other pod is.  The listed pods
that are expected to die are those that a fault selects whose pods are. -/
structure ListsHits (c : Cluster) (selects : List Requirement → Labels → Bool) (faults : List Fault)
    (pods : List PodUnderTest) : Prop where
  once : (pods.map (·.name)).Nodup
  listed : ∀ name labels, (∃ p ∈ pods, p.name = name ∧ p.labels = labels) ↔
    (∃ pod, c.pod? name = some pod ∧ pod.labels = labels) ∧ Hit selects faults labels
  deaths : ∀ p ∈ pods,
    p.expectDeath = true ↔ Hit selects (faults.filter (·.expectsDeath)) p.labels

/-- Two readings of selectors list the same pods if and only if they agree on the pods of the
cluster. -/
theorem ListsHits.iff_agree {selects reads : List Requirement → Labels → Bool}
    {pods : List PodUnderTest} (h : ListsHits c selects faults pods) :
    ListsHits c reads faults pods ↔ ∀ name pod, c.pod? name = some pod →
      (Hit selects faults pod.labels ↔ Hit reads faults pod.labels) ∧
        (Hit selects (faults.filter (·.expectsDeath)) pod.labels ↔
          Hit reads (faults.filter (·.expectsDeath)) pod.labels) := by
  constructor
  · intro h' name pod hpod
    have hhit : Hit selects faults pod.labels ↔ Hit reads faults pod.labels := by
      have hexists : ∃ pod', c.pod? name = some pod' ∧ pod'.labels = pod.labels := ⟨pod, hpod, rfl⟩
      rw [← and_iff_right hexists (b := Hit selects faults pod.labels), ← h.listed,
        h'.listed, and_iff_right hexists]
    refine ⟨hhit, ?_⟩
    by_cases hsome : Hit selects faults pod.labels
    · obtain ⟨p, hp, -, hlabels⟩ := (h.listed name pod.labels).2 ⟨⟨pod, hpod, rfl⟩, hsome⟩
      rw [← hlabels, ← h.deaths p hp, ← h'.deaths p hp]
    · -- A pod that is not hit at all is not killed either.
      have hkilled {s : List Requirement → Labels → Bool} :
          Hit s (faults.filter (·.expectsDeath)) pod.labels → Hit s faults pod.labels :=
        fun ⟨fault, hfault, hselects⟩ => ⟨fault, (List.mem_filter.1 hfault).1, hselects⟩
      exact iff_of_false (fun hk => hsome (hkilled hk)) (fun hk => hsome (hhit.2 (hkilled hk)))
  · intro hagree
    refine ⟨h.once, fun name labels => (h.listed name labels).trans (and_congr_right ?_), ?_⟩
    · rintro ⟨pod, hpod, rfl⟩
      exact (hagree name pod hpod).1
    · intro p hp
      obtain ⟨⟨pod, hpod, hlabels⟩, -⟩ := (h.listed p.name p.labels).1 ⟨p, hp, rfl, rfl⟩
      rw [h.deaths p hp, ← hlabels]
      exact (hagree p.name pod hpod).2

/-! ## What is found -/

namespace Cluster

/-- A fault hits the pods that satisfy one of its requirements. -/
theorem mem_hits {fault : Fault} {name : String} :
    name ∈ c.hits fault ↔
      ∃ pod, c.pod? name = some pod ∧ acceptsSome fault.selector pod.labels = true := by
  have hrequirement (r : Requirement) : (name ∈ if r.operator = .isIn then
      r.values.flatMap (c.labelled r.key) else []) ↔
        ∃ pod, c.pod? name = some pod ∧ r.operator = .isIn ∧ r.accepts pod.labels = true := by
    by_cases hin : r.operator = .isIn
    · rw [if_pos hin, List.mem_flatMap]
      simp only [mem_labelled_iff_pod?, Requirement.accepts, hin, true_and]
      constructor
      · rintro ⟨value, hvalue, pod, hpod, hlabel⟩
        exact ⟨pod, hpod, by simp [hlabel, hvalue]⟩
      · rintro ⟨pod, hpod, haccepts⟩
        cases hlabel : pod.labels.get? r.key with
        | none => simp [hlabel] at haccepts
        | some value => exact ⟨value, by simpa [hlabel] using haccepts, pod, hpod, hlabel⟩
    · simp [hin]
  simp only [hits, List.mem_flatMap, hrequirement, acceptsSome, List.any_eq_true, Bool.and_eq_true,
    decide_eq_true_eq]
  constructor
  · rintro ⟨r, hr, pod, hpod, haccepts⟩
    exact ⟨pod, hpod, r, hr, haccepts⟩
  · rintro ⟨pod, hpod, r, hr, haccepts⟩
    exact ⟨r, hr, pod, hpod, haccepts⟩

theorem mem_sightings {name : String} {dies : Bool} :
    (name, dies) ∈ c.sightings faults ↔
      ∃ fault ∈ faults, name ∈ c.hits fault ∧ fault.expectsDeath = dies := by
  simp [sightings]

/-- The pods that are found are those that satisfy a requirement of a fault. -/
theorem listsHits_sightings :
    ListsHits c acceptsSome faults
      (((c.sightings faults).map Prod.fst).eraseDups.map (c.underTest (c.sightings faults))) := by
  have hname (name : String) : name ∈ ((c.sightings faults).map Prod.fst).eraseDups ↔
      ∃ pod, c.pod? name = some pod ∧ Hit acceptsSome faults pod.labels := by
    simp only [List.mem_eraseDups, List.mem_map, Prod.exists, exists_and_right, exists_eq_right,
      mem_sightings, mem_hits, Hit]
    constructor
    · rintro ⟨_, fault, hfault, ⟨pod, hpod, haccepts⟩, -⟩
      exact ⟨pod, hpod, fault, hfault, haccepts⟩
    · rintro ⟨pod, hpod, fault, hfault, haccepts⟩
      exact ⟨fault.expectsDeath, fault, hfault, ⟨pod, hpod, haccepts⟩, rfl⟩
  constructor
  · rw [List.map_map]
    simpa [Function.comp_def, underTest] using nodup_eraseDups ((c.sightings faults).map Prod.fst)
  · intro name labels
    simp only [List.mem_map, hname]
    constructor
    · rintro ⟨_, ⟨_, ⟨pod, hpod, hhit⟩, rfl⟩, rfl, rfl⟩
      simp only [underTest, labelsOf, hpod, Option.map_some, Option.getD_some]
      exact ⟨⟨pod, rfl, rfl⟩, hhit⟩
    · rintro ⟨⟨pod, hpod, rfl⟩, hhit⟩
      exact ⟨_, ⟨name, ⟨pod, hpod, hhit⟩, rfl⟩, rfl, by simp [underTest, labelsOf, hpod]⟩
  · intro p hp
    obtain ⟨name, hmem, rfl⟩ := List.mem_map.1 hp
    obtain ⟨pod, hpod, -⟩ := (hname name).1 hmem
    simp only [underTest, labelsOf, hpod, Option.map_some, Option.getD_some, List.contains_iff_mem,
      mem_sightings, mem_hits, Hit, List.mem_filter]
    constructor
    · rintro ⟨fault, hfault, ⟨_, ⟨⟩, haccepts⟩, hdies⟩
      exact ⟨fault, ⟨hfault, hdies⟩, haccepts⟩
    · rintro ⟨fault, ⟨hfault, hdies⟩, haccepts⟩
      exact ⟨fault, hfault, ⟨pod, rfl, haccepts⟩, hdies⟩

end Cluster

section Reading

variable {σ : Type} {env : Environment σ} {s : σ}

/-- While a cluster stays as it is, the pods under test are those that satisfy one of the lists of
wanted values of a fault. -/
theorem podsUnderTest_listsHits (hreads : ReadsCluster env s c) (faults : List Fault) :
    ∃ pods, (podsUnderTest faults).execute env s = (.done pods, s) ∧
      ListsHits c acceptsSome faults pods := by
  have hexist : ∀ e ∈ c.sightings faults, ∃ pod, c.pod? e.1 = some pod := by
    rintro ⟨name, dies⟩ he
    obtain ⟨fault, -, hhit, -⟩ := Cluster.mem_sightings.1 he
    obtain ⟨pod, hpod, -⟩ := Cluster.mem_hits.1 hhit
    exact ⟨pod, hpod⟩
  refine ⟨_, podsUnderTest_execute hreads faults, ?_⟩
  rw [Cluster.foldl_sight hexist]
  exact Cluster.listsHits_sightings

/-- The pods under test are those that satisfy one requirement of a fault.  They are the pods that
are really hit if and only if every such pod satisfies all requirements of some fault, and so for
the faults that kill. -/
theorem podsUnderTest_exact_iff (hreads : ReadsCluster env s c)
    (hlisting : ∀ fault ∈ faults, Listing fault.selector) :
    ∃ pods, (podsUnderTest faults).execute env s = (.done pods, s) ∧
      ListsHits c acceptsSome faults pods ∧
      (ListsHits c acceptsAll faults pods ↔ ∀ name pod, c.pod? name = some pod →
        (Hit acceptsSome faults pod.labels → Hit acceptsAll faults pod.labels) ∧
          (Hit acceptsSome (faults.filter (·.expectsDeath)) pod.labels →
            Hit acceptsAll (faults.filter (·.expectsDeath)) pod.labels)) := by
  obtain ⟨pods, hrun, hlists⟩ := podsUnderTest_listsHits hreads faults
  refine ⟨pods, hrun, hlists, hlists.iff_agree.trans ?_⟩
  have hweaken {chosen : List Fault} (hchosen : ∀ fault ∈ chosen, fault ∈ faults)
      {labels : Labels} : Hit acceptsAll chosen labels → Hit acceptsSome chosen labels :=
    fun ⟨fault, hfault, h⟩ =>
      ⟨fault, hfault, acceptsSome_of_acceptsAll (hlisting fault (hchosen fault hfault)) h⟩
  refine forall_congr' fun name => forall_congr' fun pod => imp_congr_right fun _ => and_congr ?_ ?_
  · exact ⟨Iff.mp, fun h => ⟨h, hweaken fun _ => id⟩⟩
  · exact ⟨Iff.mp, fun h => ⟨h, hweaken fun _ hfault => (List.mem_filter.1 hfault).1⟩⟩

/-- Faults with one list of wanted values each hit the pods under test. -/
theorem podsUnderTest_exact (hreads : ReadsCluster env s c)
    (hsingle : ∀ fault ∈ faults, ∃ r : Requirement, fault.selector = [r] ∧ r.operator = .isIn) :
    ∃ pods, (podsUnderTest faults).execute env s = (.done pods, s) ∧
      ListsHits c acceptsAll faults pods := by
  obtain ⟨pods, hrun, hlists⟩ := podsUnderTest_listsHits hreads faults
  have hsame {chosen : List Fault} (hchosen : ∀ fault ∈ chosen, fault ∈ faults) (labels : Labels) :
      Hit acceptsSome chosen labels ↔ Hit acceptsAll chosen labels := by
    refine exists_congr fun fault => and_congr_right fun hfault => ?_
    obtain ⟨r, hselector, hin⟩ := hsingle fault (hchosen fault hfault)
    rw [hselector, acceptsSome_singleton hin]
  refine ⟨pods, hrun, hlists.iff_agree.2 fun name pod _ => ⟨hsame (fun _ => id) _, hsame ?_ _⟩⟩
  exact fun _ hfault => (List.mem_filter.1 hfault).1

end Reading

/-! ## Where they differ -/

/-- Two pods of one network, in different zones. -/
def Sample.zones : Cluster :=
  (Cluster.empty.addPod "a" (.ofList [("network", "main"), ("zone", "east")]) .running).addPod "b"
    (.ofList [("network", "main"), ("zone", "west")]) .running

/-- A restart of the pods of a network in one zone. -/
def Sample.zoneRestart : Fault :=
  .podRestart [⟨"network", .isIn, ["main"]⟩, ⟨"zone", .isIn, ["east"]⟩]

/-- The second pod is in another zone. -/
theorem podsUnderTest_exact_iff_zones :
    (∀ fault ∈ [Sample.zoneRestart], Listing fault.selector) ∧
    ∃ pods, (podsUnderTest [Sample.zoneRestart]).execute (World.respond ⟨0, false⟩)
        (World.holding Sample.zones .completes []) =
          (.done pods, World.holding Sample.zones .completes []) ∧
      ListsHits Sample.zones acceptsSome [Sample.zoneRestart] pods ∧
      (ListsHits Sample.zones acceptsAll [Sample.zoneRestart] pods ↔
        ∀ name pod, Sample.zones.pod? name = some pod →
          (Hit acceptsSome [Sample.zoneRestart] pod.labels →
            Hit acceptsAll [Sample.zoneRestart] pod.labels) ∧
          (Hit acceptsSome ([Sample.zoneRestart].filter (·.expectsDeath)) pod.labels →
            Hit acceptsAll ([Sample.zoneRestart].filter (·.expectsDeath)) pod.labels)) := by
  have hlisting : ∀ fault ∈ [Sample.zoneRestart], Listing fault.selector := by
    simp [Listing, Sample.zoneRestart, Fault.selector]
  exact ⟨hlisting, podsUnderTest_exact_iff (World.steady_holding _ _ _).readsCluster hlisting⟩

/-- The pods under test are not always the pods that are really hit: the restart leaves the second
pod alone, which is listed all the same and excused from the health checks. -/
theorem podsUnderTest_not_exact :
    ¬ ∀ (c : Cluster) (faults : List Fault), (∀ fault ∈ faults, Listing fault.selector) →
      ∃ pods, (podsUnderTest faults).execute (World.respond ⟨0, false⟩)
          (World.holding c .completes []) = (.done pods, World.holding c .completes []) ∧
        ListsHits c acceptsAll faults pods := by
  intro h
  obtain ⟨pods, hrun, hlists⟩ := h Sample.zones [Sample.zoneRestart]
    (by simp [Listing, Sample.zoneRestart, Fault.selector])
  obtain ⟨pods', hrun', hlists'⟩ := podsUnderTest_listsHits
    (World.steady_holding Sample.zones .completes []).readsCluster [Sample.zoneRestart]
  obtain rfl : pods = pods' := by
    have hsame := hrun.symm.trans hrun'
    simpa using hsame
  obtain ⟨pod, hpod, hsome, hnone⟩ : ∃ pod, Sample.zones.pod? "b" = some pod ∧
      acceptsSome Sample.zoneRestart.selector pod.labels = true ∧
      acceptsAll Sample.zoneRestart.selector pod.labels = false :=
    ⟨_, rfl, by decide +kernel, by decide +kernel⟩
  obtain ⟨_, hfault, hall⟩ := (hlists'.iff_agree.1 hlists "b" pod hpod).1.1
    ⟨_, List.mem_singleton_self _, hsome⟩
  rw [List.mem_singleton.1 hfault, hnone] at hall
  cases hall

end DevnetChaos
