import DevnetChaos.Proofs.Run.Success
import DevnetChaos.Run.Health
import DevnetChaos.Simulation.Cluster
import Mathlib.Data.List.Induction
import Mathlib.Data.List.Nodup

/-!
# Pods under test and verdicts in closed form

While a cluster stays as it is, finding the pods under test and checking pods only reads it.  What
comes out is said here without a run: the pods in the order in which they are first seen, each
once.

Main definitions:

- `ReadsCluster`: an environment that answers questions about pods from a cluster.
- `Cluster.sightings`: the pods that faults hit, in the order in which they are found.
- `Cluster.checks`: the pods that are checked, in order.

Main results:

- `Cluster.foldl_sight`, `Cluster.foldl_check`: each pod comes once, in the order of first sight.
- `podsUnderTest_execute`: the pods under test.
- `runChecks_execute`: the verdicts.
-/

namespace DevnetChaos

/-- An environment that answers questions about pods from a cluster and stays in its state. -/
structure ReadsCluster {σ : Type} (env : Environment σ) (s : σ) (c : Cluster) : Prop where
  labelled : ∀ key value, env (.podsLabelled key value) s = (some (.ok (c.labelled key value)), s)
  pod : ∀ name, env (.pod name) s = (some (.ok (c.pod? name)), s)

/-! ## First occurrences -/

/-- One more element is a first occurrence or it is not. -/
theorem eraseDups_concat {α : Type} [BEq α] [LawfulBEq α] (xs : List α) (x : α) :
    (xs ++ [x]).eraseDups = if xs.contains x then xs.eraseDups else xs.eraseDups ++ [x] := by
  rw [List.eraseDups_append]
  by_cases hx : x ∈ xs
  · simp [List.removeAll, hx]
  · simp [List.removeAll, hx, List.eraseDups_cons]

/-- First occurrences are different elements. -/
theorem nodup_eraseDups {α : Type} [BEq α] [LawfulBEq α] (xs : List α) : xs.eraseDups.Nodup := by
  induction xs using List.reverseRecOn with
  | nil => exact List.nodup_nil
  | append_singleton xs x ih =>
    rw [eraseDups_concat]
    split
    · exact ih
    · next hnew =>
      refine List.nodup_append.2 ⟨ih, List.nodup_singleton x, ?_⟩
      rintro y hy z hz rfl
      rw [List.mem_singleton.1 hz] at hy
      exact hnew (List.contains_iff_mem.2 (List.mem_eraseDups.1 hy))

/-- Different elements are all first occurrences. -/
theorem eraseDups_of_nodup {α : Type} [BEq α] [LawfulBEq α] {xs : List α} (h : xs.Nodup) :
    xs.eraseDups = xs := by
  induction xs using List.reverseRecOn with
  | nil => rfl
  | append_singleton xs x ih =>
    obtain ⟨hxs, _, hne⟩ := List.nodup_append.1 h
    have hnew : xs.contains x = false := by
      simpa using fun hx => hne x hx x List.mem_cons_self rfl
    rw [eraseDups_concat, hnew, ih hxs]
    rfl

/-- A name that occurs again is not listed again. -/
theorem eraseDups_names_concat (events : List (String × Bool)) (name : String) (flag : Bool) :
    ((events ++ [(name, flag)]).map Prod.fst).eraseDups =
      if (events.map Prod.fst).contains name then (events.map Prod.fst).eraseDups
      else (events.map Prod.fst).eraseDups ++ [name] := by
  rw [List.map_append, List.map_singleton, eraseDups_concat]

/-- What is found in a list stays found when more comes after it. -/
theorem lookup_append_of_mem {events : List (String × Bool)} {name : String}
    (h : name ∈ events.map Prod.fst) (later : List (String × Bool)) :
    (events ++ later).lookup name = events.lookup name := by
  rw [List.lookup_append]
  cases hfound : events.lookup name with
  | some _ => rfl
  | none =>
    rw [List.lookup_eq_none_iff] at hfound
    obtain ⟨p, hp, rfl⟩ := List.mem_map.1 h
    simpa using hfound p hp

/-- A name that does not occur has no flag. -/
theorem lookup_eq_none_of_notMem {events : List (String × Bool)} {name : String}
    (h : name ∉ events.map Prod.fst) : events.lookup name = none := by
  rw [List.lookup_eq_none_iff]
  intro p hp
  have hne : name ≠ p.1 := by
    rintro rfl
    exact h (List.mem_map_of_mem hp)
  simpa using hne

namespace Cluster

variable (c : Cluster)

/-! ## Pods under test -/

/-- The labels of a pod, if it exists. -/
def labelsOf (name : String) : Labels := ((c.pod? name).map (·.labels)).getD .empty

/-- The pods that a fault hits.  Only a list of wanted values names pods. -/
def hits (fault : Fault) : List String :=
  fault.selector.flatMap fun r =>
    if r.operator = .isIn then r.values.flatMap (c.labelled r.key) else []

/-- The pods that faults hit, in the order in which they are found, and whether they are meant to
die each time. -/
def sightings (faults : List Fault) : List (String × Bool) :=
  faults.flatMap fun fault => (c.hits fault).map (·, fault.expectsDeath)

/-- Takes down that a pod is hit. -/
def sight (found : List PodUnderTest) (e : String × Bool) : List PodUnderTest :=
  if found.any fun p => p.name == e.1 then markDeath e.1 e.2 found
  else
    match c.pod? e.1 with
    | none => found
    | some pod => found ++ [⟨e.1, pod.labels, e.2⟩]

/-- A pod under test after some sightings. -/
def underTest (events : List (String × Bool)) (name : String) : PodUnderTest :=
  ⟨name, c.labelsOf name, events.contains (name, true)⟩

variable {c}

/-- One more sighting of a pod that was seen before. -/
theorem markDeath_underTest (events : List (String × Bool)) (e : String × Bool)
    (names : List String) :
    markDeath e.1 e.2 (names.map (c.underTest events)) =
      names.map (c.underTest (events ++ [e])) := by
  rw [markDeath, List.map_map]
  refine List.map_congr_left fun name _ => ?_
  obtain ⟨seen, dies⟩ := e
  by_cases hname : name = seen
  · subst hname
    cases dies <;> simp [underTest]
  · simp [underTest, hname]

/-- One more sighting of another pod. -/
theorem underTest_concat {events : List (String × Bool)} {e : String × Bool} {name : String}
    (hname : name ≠ e.1) : c.underTest (events ++ [e]) name = c.underTest events name := by
  obtain ⟨seen, dies⟩ := e
  simp only at hname
  simp [underTest, hname]

/-- Pods that exist are listed in the order in which they are first seen, and are meant to die if
one sighting says so. -/
theorem foldl_sight {events : List (String × Bool)}
    (hexist : ∀ e ∈ events, ∃ pod, c.pod? e.1 = some pod) :
    events.foldl c.sight [] = (events.map Prod.fst).eraseDups.map (c.underTest events) := by
  induction events using List.reverseRecOn with
  | nil => rfl
  | append_singleton events e ih =>
    have hbefore := ih fun e' he' => hexist e' (List.mem_append_left _ he')
    obtain ⟨pod, hpod⟩ := hexist e (List.mem_append_right _ List.mem_cons_self)
    obtain ⟨name, dies⟩ := e
    have hseen : ((events.map Prod.fst).eraseDups.map (c.underTest events)).any
        (fun p => p.name == name) = (events.map Prod.fst).contains name := by
      rw [Bool.eq_iff_iff]
      simp [underTest, List.any_eq_true, List.mem_eraseDups]
    rw [List.foldl_append, hbefore, eraseDups_names_concat, List.foldl_cons, List.foldl_nil, sight,
      hseen]
    split
    · exact markDeath_underTest events (name, dies) _
    · next hnew =>
      have hmem : name ∉ (events.map Prod.fst).eraseDups := by
        rw [List.mem_eraseDups]
        simpa using hnew
      have hfirst : events.contains (name, true) = false := by
        simp only [List.contains_eq_mem, decide_eq_false_iff_not]
        intro hevent
        exact hmem (List.mem_eraseDups.2 (List.mem_map.2 ⟨_, hevent, rfl⟩))
      have hsame : (events.map Prod.fst).eraseDups.map (c.underTest (events ++ [(name, dies)])) =
          (events.map Prod.fst).eraseDups.map (c.underTest events) := by
        refine List.map_congr_left fun other hother => underTest_concat ?_
        rintro rfl
        exact hmem hother
      rw [List.map_append, hsame]
      simp only [hpod, List.map_cons, List.map_nil]
      refine congrArg (fun p => _ ++ [p]) ?_
      cases dies <;> simp_all [underTest, labelsOf]

/-! ## Verdicts -/

variable (c)

/-- Takes down the verdict on a pod that has none. -/
def check (verdicts : Verdicts) (e : String × Bool) : Verdicts :=
  if verdicts.covers e.1 then verdicts else verdicts ++ [.ofPod e.1 e.2 (c.pod? e.1)]

/-- The pods that are checked, in order, and whether they are checked as pods under test. -/
def checks (pods : List PodUnderTest) : List (String × Bool) :=
  (healthDimensions.flatMap fun serviceType =>
    (survivors (ofServiceType serviceType pods)).map (·, true) ++
      ((c.labelled serviceTypeLabel serviceType).filter
        fun name => !pods.any fun p => p.name == name).map (·, false)) ++
    (survivors pods).map (·, true)

variable {c}

@[simp] theorem ofPod_pod (name : String) (underTest : Bool) (pod : Option PodInfo) :
    (PodVerdict.ofPod name underTest pod).pod = name := by
  unfold PodVerdict.ofPod
  split
  · split <;> rfl
  · rfl

/-- Every pod has one verdict, as it was first checked. -/
theorem foldl_check (events : List (String × Bool)) :
    events.foldl c.check [] = (events.map Prod.fst).eraseDups.map
      fun name => .ofPod name ((events.lookup name).getD false) (c.pod? name) := by
  induction events using List.reverseRecOn with
  | nil => rfl
  | append_singleton events e ih =>
    obtain ⟨name, flag⟩ := e
    have hcovered : Verdicts.covers ((events.map Prod.fst).eraseDups.map
        fun name => .ofPod name ((events.lookup name).getD false) (c.pod? name)) name =
          (events.map Prod.fst).contains name := by
      rw [Bool.eq_iff_iff]
      simp [Verdicts.covers, List.any_eq_true, List.mem_eraseDups]
    have hsame : (events.map Prod.fst).eraseDups.map (fun other => PodVerdict.ofPod other
        (((events ++ [(name, flag)]).lookup other).getD false) (c.pod? other)) =
          (events.map Prod.fst).eraseDups.map fun other => PodVerdict.ofPod other
            ((events.lookup other).getD false) (c.pod? other) := by
      refine List.map_congr_left fun other hother => ?_
      rw [lookup_append_of_mem (List.mem_eraseDups.1 hother)]
    rw [List.foldl_append, ih, eraseDups_names_concat, List.foldl_cons, List.foldl_nil, check,
      hcovered]
    split
    · exact hsame.symm
    · next hnew =>
      have hnone : events.lookup name = none :=
        lookup_eq_none_of_notMem fun hmem => hnew (List.contains_iff_mem.2 hmem)
      rw [List.map_append, hsame]
      simp [List.lookup_append, hnone]

/-- No two verdicts are about one pod. -/
theorem foldl_check_pods (events : List (String × Bool)) :
    (events.foldl c.check []).map (·.pod) = (events.map Prod.fst).eraseDups := by
  rw [foldl_check, List.map_map]
  simp [Function.comp_def]

end Cluster

/-! ## The runs -/

section Reading

variable {σ : Type} {env : Environment σ} {s : σ} {c : Cluster}

namespace ReadsCluster

/-- A question for a pod is answered from the cluster and changes nothing. -/
theorem execute_pod? {α : Type} (h : ReadsCluster env s c) (name : String)
    (f : Option PodInfo → Run α) :
    (Run.pod? name >>= f).execute env s = (f (c.pod? name)).execute env s := by
  have hpod : (Run.pod? name).execute env s = (.done (c.pod? name), s) :=
    Run.execute_call (h.pod name)
  rw [Run.execute_bind, hpod]

/-- A question for labelled pods is answered from the cluster and changes nothing. -/
theorem execute_podsLabelled {α : Type} (h : ReadsCluster env s c) (key value : String)
    (f : List String → Run α) :
    (Run.podsLabelled key value >>= f).execute env s =
      (f (c.labelled key value)).execute env s := by
  have hlabelled : (Run.podsLabelled key value).execute env s =
      (.done (c.labelled key value), s) := Run.execute_call (h.labelled key value)
  rw [Run.execute_bind, hlabelled]

/-- Adding pods by name is taking down sightings. -/
theorem execute_addPods (h : ReadsCluster env s c) (dies : Bool) (found : List PodUnderTest)
    (names : List String) :
    (addPods dies found names).execute env s =
      (.done ((names.map (·, dies)).foldl c.sight found), s) := by
  induction names generalizing found with
  | nil => rfl
  | cons name rest ih =>
    rw [addPods, List.map_cons, List.foldl_cons, Cluster.sight]
    split
    · exact ih _
    · rw [h.execute_pod?]
      cases c.pod? name with
      | none => exact ih _
      | some pod => exact ih _

/-- The values of a label are looked up one after another. -/
theorem execute_addLabelled (h : ReadsCluster env s c) (dies : Bool) (key : String)
    (found : List PodUnderTest) (values : List String) :
    (addLabelled dies key found values).execute env s =
      (.done (((values.flatMap (c.labelled key)).map (·, dies)).foldl c.sight found), s) := by
  induction values generalizing found with
  | nil => rfl
  | cons value rest ih =>
    rw [addLabelled, h.execute_podsLabelled, Run.execute_bind, h.execute_addPods]
    simp only
    rw [ih, List.flatMap_cons, List.map_append, List.foldl_append]

/-- Of the requirements, those that are lists of wanted values are looked up. -/
theorem execute_addRequired (h : ReadsCluster env s c) (dies : Bool) (found : List PodUnderTest)
    (requirements : List Requirement) :
    (addRequired dies found requirements).execute env s =
      (.done (((requirements.flatMap fun r =>
        if r.operator = .isIn then r.values.flatMap (c.labelled r.key) else []).map
          (·, dies)).foldl c.sight found), s) := by
  induction requirements generalizing found with
  | nil => rfl
  | cons r rest ih =>
    rw [addRequired, List.flatMap_cons, List.map_append, List.foldl_append]
    split
    · rw [Run.execute_bind, h.execute_addLabelled]
      exact ih _
    · exact ih _

/-- All pods that the faults select are seen, in the order of the faults. -/
theorem execute_addTargets (h : ReadsCluster env s c) (found : List PodUnderTest)
    (faults : List Fault) :
    (addTargets found faults).execute env s =
      (.done ((c.sightings faults).foldl c.sight found), s) := by
  induction faults generalizing found with
  | nil => rfl
  | cons fault rest ih =>
    rw [addTargets, Run.execute_bind, h.execute_addRequired, Cluster.sightings, List.flatMap_cons,
      List.foldl_append]
    exact ih _

/-- Checking pods is taking down verdicts. -/
theorem execute_checkPods (h : ReadsCluster env s c) (underTest : Bool) (verdicts : Verdicts)
    (names : List String) :
    (checkPods underTest verdicts names).execute env s =
      (.done ((names.map (·, underTest)).foldl c.check verdicts), s) := by
  induction names generalizing verdicts with
  | nil => rfl
  | cons name rest ih =>
    rw [checkPods, List.map_cons, List.foldl_cons, Cluster.check]
    split
    · exact ih _
    · rw [h.execute_pod?]
      exact ih _

/-- Of each service type the survivors under test are checked first, and then all others. -/
theorem execute_checkServiceTypes (h : ReadsCluster env s c) (pods : List PodUnderTest)
    (verdicts : Verdicts) (serviceTypes : List String) :
    (checkServiceTypes pods verdicts serviceTypes).execute env s =
      (.done ((serviceTypes.flatMap fun serviceType =>
        (survivors (ofServiceType serviceType pods)).map (·, true) ++
          ((c.labelled serviceTypeLabel serviceType).filter
            fun name => !pods.any fun p => p.name == name).map (·, false)).foldl
              c.check verdicts), s) := by
  induction serviceTypes generalizing verdicts with
  | nil => rfl
  | cons serviceType rest ih =>
    rw [checkServiceTypes, Run.execute_bind, h.execute_checkPods]
    simp only
    rw [h.execute_podsLabelled, Run.execute_bind, h.execute_checkPods]
    simp only
    rw [ih, List.flatMap_cons, List.foldl_append, List.foldl_append]

end ReadsCluster

/-- The pods under test are taken down one sighting after the other. -/
theorem podsUnderTest_execute (h : ReadsCluster env s c) (faults : List Fault) :
    (podsUnderTest faults).execute env s = (.done ((c.sightings faults).foldl c.sight []), s) :=
  h.execute_addTargets [] faults

/-- The verdicts are taken down one check after the other. -/
theorem runChecks_execute (h : ReadsCluster env s c) (pods : List PodUnderTest) :
    (runChecks pods).execute env s = (.done ((c.checks pods).foldl c.check []), s) := by
  rw [runChecks, Run.execute_bind, h.execute_checkServiceTypes]
  simp only
  rw [h.execute_checkPods, Cluster.checks, List.foldl_append]

end Reading
end DevnetChaos
