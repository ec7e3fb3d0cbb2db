import DevnetChaos.Proofs.Simulation.PlannedSuite
import DevnetChaos.Proofs.Simulation.Preparation
import DevnetChaos.Proofs.Simulation.TestRun
import DevnetChaos.Run.ExperimentRun

/-!
# Planned suites in fresh deployments

The experiment of a plan is started in a deployment in which nothing has happened yet and every
fault completes.  The devnet is built, all tests are run to their end, each finds the pods that it
names, and every pod that was not meant to die is found healthy.

Main definitions:

- `World.fresh`: a deployment with scripts for its fault platform.
- `SuiteTest.PassedOn`: what the artifact of a test says about its devnet.

Main results:

- `ExperimentService.start_calm`: an experiment on a devnet that its tests leave healthy.
- `PlannerConfig.start_planned`: the experiment of a plan.
-/

namespace DevnetChaos

open Run Simulation

/-! ## Scripts with a common bound -/

theorem SubmissionScript.Harmless.mono {n m : Nat} {script : SubmissionScript}
    (h : script.Harmless n) (hle : n ≤ m) : script.Harmless m :=
  ⟨h.accepted, h.podPhase, h.completes.mono hle⟩

/-- Scripts that complete do so within a common number of questions. -/
theorem exists_harmless_bound {scripts : List SubmissionScript}
    (h : ∀ script ∈ scripts, ∃ n, script.Harmless n) :
    ∃ n, ∀ script ∈ scripts, script.Harmless n := by
  induction scripts with
  | nil => exact ⟨0, by simp⟩
  | cons script rest ih =>
    obtain ⟨n, hn⟩ := h script List.mem_cons_self
    obtain ⟨m, hm⟩ := ih fun s hs => h s (List.mem_cons_of_mem script hs)
    refine ⟨max n m, ?_⟩
    intro s hs
    rcases List.mem_cons.1 hs with rfl | hs
    · exact hn.mono (Nat.le_max_left n m)
    · exact (hm s hs).mono (Nat.le_max_right n m)

/-! ## Fresh deployments -/

/-- A deployment in which nothing has happened yet, with scripts for its fault platform. -/
def Simulation.World.fresh (d : ClientDefaults) (defaultScript : SubmissionScript)
    (scripts : List SubmissionScript) : World :=
  { World.empty d true with faults := { FaultEngine.empty with defaultScript, scripts } }

/-- A fresh deployment is steady, with an empty cluster. -/
theorem Simulation.World.fresh_steady (d : ClientDefaults) (defaultScript : SubmissionScript)
    (scripts : List SubmissionScript) :
    (World.fresh d defaultScript scripts).Steady .empty (.empty d)
      { FaultEngine.empty with defaultScript, scripts } :=
  ⟨rfl, rfl, rfl, rfl, rfl, rfl, rfl, rfl⟩

/-! ## Experiments -/

variable {h : EnclaveHost} {n : Nat} {w : World} {caller : Caller} {t : Topology}

/-- An experiment on a devnet that its tests leave healthy is run to its end. -/
theorem ExperimentService.start_calm {s : ExperimentService} {declared : Topology}
    (hvalid : s.experiment.validate = .ok ())
    (hdeclared : Topology.ofNetwork s.defaults s.experiment.network = .ok declared)
    (hbuild : s.enclaveSettings.buildLimit = none)
    (hlimit : s.suiteSettings.completionLimit = none) (hpatience : n < s.suiteSettings.patience)
    (hhost : h.Fresh s.experiment.enclave)
    (ht : Topology.ofNetwork h.defaults s.experiment.network = .ok t)
    (hhealth : ∀ test ∈ s.experiment.tests, test.health.enabled = true)
    (hhealthy : ∀ test ∈ s.experiment.tests, ∀ v ∈ test.verdicts t, v.healthy = true)
    (hw : w.Calm .empty h n []) :
    Succeeds (World.respond caller) s.start w fun report w' =>
      report = ⟨s.experiment.tests.length, s.experiment.tests.map (·.artifactOn t), false⟩ ∧
        w'.cluster = t.cluster := by
  let settings := { s.enclaveSettings with enclave := s.experiment.enclave }
  let m : EnclaveManager := ⟨settings, s.experiment.network, declared⟩
  have hmanager : s.manager = .ok m := bind_eq_ok.2 ⟨declared, hdeclared, rfl⟩
  obtain ⟨e, hw, he, _⟩ := hw
  have hchecked : Succeeds (World.respond caller) (Run.ofExcept s.experiment.validate) w
      fun _ w' => w' = w := Succeeds.ofExcept hvalid rfl
  have hmade : Succeeds (World.respond caller) (Run.ofExcept s.manager) w
      fun a w' => a = m ∧ w' = w := Succeeds.ofExcept hmanager ⟨rfl, rfl⟩
  refine hchecked.bind ?_
  rintro _ w rfl
  refine hmade.bind ?_
  rintro _ w ⟨rfl, rfl⟩
  have hprepared := @EnclaveManager.prepare_steady _ _ _ _ caller m t hbuild hhost ht hw
    s.experiment.startNewDevnet
  refine hprepared.bind ?_
  rintro _ w₁ ⟨_, h₁, hw₁⟩
  refine hw₁.sleepUnlessZero _ _ fun w₂ hw₂ => ?_
  refine (runSuite_calm hlimit hpatience hhealth hhealthy (hw₂.calm he)).mono ?_
  rintro report w₃ ⟨hreport, _, hw₃, _⟩
  exact ⟨hreport, hw₃.cluster⟩

/-! ## Plans -/

/-- What the artifact of a test says on the devnet of a topology: the test has passed, its pods are
those that it names, and there is one verdict on each pod that is not meant to die, which is that
the pod is healthy. -/
structure SuiteTest.PassedOn (test : SuiteTest) (t : Topology) (a : Artifact) : Prop where
  name : a.test = test.name
  passed : a.passed = true
  pods : a.podsUnderTest.map (·.name) = test.namedPods
  podsOnce : (a.podsUnderTest.map (·.name)).Nodup
  healthy : ∀ v ∈ a.verdicts, v.healthy = true
  verdictsOnce : (a.verdicts.map (·.pod)).Nodup
  verdicts : ∀ name, name ∈ a.verdicts.map (·.pod) ↔
    name ∈ t.allNames ∧ name ∉ test.doomedPods

/-- A test that aims at services of a devnet passes on it. -/
theorem SuiteTest.AimsAt.passedOn {test : SuiteTest} (h : test.AimsAt t) (ht : t.Distinct)
    (hplain : t.Plain) : test.PassedOn t (test.artifactOn t) where
  name := rfl
  passed := rfl
  pods := h.targets_names ht hplain
  podsOnce := by
    have hnames : ((test.artifactOn t).podsUnderTest.map (·.name)) = test.namedPods :=
      h.targets_names ht hplain
    rw [hnames]
    exact h.once
  healthy := h.verdicts_healthy ht hplain
  verdictsOnce := test.nodup_verdicts t
  verdicts := fun _ => h.mem_verdicts ht hplain

namespace PlannerConfig

variable {d : ClientDefaults} {c : PlannerConfig} {source : Random.Source} {p : Plan}

/-- The network that an experiment of a plan asks for is the planned one to every builder. -/
theorem ofNetwork_experiment (h : c.plan d source = .ok p) (enclave : String)
    (d' : ClientDefaults) :
    Topology.ofNetwork d' (p.experiment enclave).network = .ok p.topology := by
  have hnetwork : (p.experiment enclave).network = .generated p.topology.participants c.params :=
    plan_network h
  rw [hnetwork]
  exact (plan_numbered h).ofNetwork_generated d'

/-- The experiment of a plan runs to its end in every fresh deployment whose fault scripts all
complete, whatever the defaults, the settings and the caller are, if faults are looked at often
enough. -/
theorem start_planned (hplan : c.plan d source = .ok p) (d' : ClientDefaults)
    {defaultScript : SubmissionScript} {scripts : List SubmissionScript}
    (hcomplete : ∀ script ∈ defaultScript :: scripts, ∃ n, script.Harmless n) :
    ∃ enough, ∀ (caller : Caller) (enclave : String) (service : ExperimentService),
      service.experiment = p.experiment enclave →
      service.enclaveSettings.buildLimit = none →
      service.suiteSettings.completionLimit = none →
      enough ≤ service.suiteSettings.patience →
      ∃ report w', (World.fresh d' defaultScript scripts).carryOut caller service.start =
          (.done report, w') ∧
        report.passed = true ∧ report.executed = p.tests.length ∧ report.stoppedEarly = false ∧
        (∀ name, name ∈ w'.cluster.names ↔ name ∈ p.topology.allNames) ∧
        List.Forall₂ (fun test a => test.PassedOn p.topology a) p.tests report.artifacts := by
  obtain ⟨n, hharmless⟩ := exists_harmless_bound hcomplete
  refine ⟨n + 1, ?_⟩
  intro caller enclave service hservice hbuild hlimit hpatience
  have hdistinct := plan_distinct hplan
  have hplain := plan_plain hplan
  have haims := plan_tests hplan
  have hhealthy : ∀ test ∈ p.tests, ∀ v ∈ test.verdicts p.topology, v.healthy = true :=
    fun test htest => (haims test htest).2.verdicts_healthy hdistinct hplain
  have htests : service.experiment.tests = p.tests := by
    rw [hservice]
    rfl
  have hvalid : service.experiment.validate = .ok () := by
    rw [hservice]
    exact plan_validate hplan enclave
  have hrebuilt : ∀ d'', Topology.ofNetwork d'' service.experiment.network = .ok p.topology := by
    rw [hservice]
    exact ofNetwork_experiment hplan enclave
  have hcalm : (World.fresh d' defaultScript scripts).Calm .empty (.empty d') n [] :=
    (World.fresh_steady d' defaultScript scripts).calm ⟨rfl, hharmless⟩
  have hstart : Succeeds (World.respond caller) service.start
      (World.fresh d' defaultScript scripts) fun report w' =>
        report = ⟨p.tests.length, p.tests.map (·.artifactOn p.topology), false⟩ ∧
          w'.cluster = p.topology.cluster := by
    rw [← htests] at haims hhealthy ⊢
    exact ExperimentService.start_calm hvalid (hrebuilt service.defaults) hbuild hlimit hpatience
      (EnclaveHost.fresh_empty d' _) (hrebuilt d') (fun test htest => (haims test htest).1)
      hhealthy hcalm
  obtain ⟨_, w', hrun, rfl, hcluster⟩ := hstart
  refine ⟨_, w', hrun, ?_, List.length_map .., rfl, ?_, ?_⟩
  · simp [SuiteReport.passed, SuiteTest.artifactOn]
  · intro name
    rw [hcluster]
    exact Cluster.mem_names_addTopology hdistinct
  · rw [List.forall₂_map_right_iff, List.forall₂_same]
    exact fun test htest => (haims test htest).2.passedOn hdistinct hplain

/-- The plan of the sample document is carried out on a fresh deployment. -/
theorem start_planned_sample :
    ∃ p patience, sample.plan .standard (.ofSeed 0) = .ok p ∧
      ∃ report w', (World.fresh .standard (.pendingFor 3) [.completes, .pendingFor 1]).carryOut
          ⟨0, true⟩ (ExperimentService.start ⟨p.experiment "chaos", .standard,
            .standard EnclaveSettings.standardName, .standard patience⟩) = (.done report, w') ∧
        report.passed = true ∧ report.executed = p.tests.length ∧ report.stoppedEarly = false ∧
        (∀ name, name ∈ w'.cluster.names ↔ name ∈ p.topology.allNames) ∧
        List.Forall₂ (fun test a => test.PassedOn p.topology a) p.tests report.artifacts := by
  have hok : (sample.plan .standard (.ofSeed 0)).isOk = true := by decide +kernel
  obtain ⟨p, hplan⟩ := exists_eq_ok_of_isOk hok
  have hpending : ∀ polls, (SubmissionScript.pendingFor polls).Harmless polls := fun polls =>
    ⟨rfl, rfl, completesWithin_pendingFor polls⟩
  have hcomplete : ∀ script ∈ [.pendingFor 3, SubmissionScript.completes, .pendingFor 1],
      ∃ n, script.Harmless n := by
    intro script hscript
    simp only [List.mem_cons, List.not_mem_nil, or_false] at hscript
    rcases hscript with rfl | rfl | rfl
    · exact ⟨3, hpending 3⟩
    · exact ⟨0, hpending 0⟩
    · exact ⟨1, hpending 1⟩
  obtain ⟨enough, hstart⟩ := start_planned hplan .standard hcomplete
  exact ⟨p, enough, hplan, hstart ⟨0, true⟩ "chaos" _ rfl rfl rfl (Nat.le_refl enough)⟩

end PlannerConfig
end DevnetChaos
