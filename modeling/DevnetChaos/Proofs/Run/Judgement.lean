import DevnetChaos.Proofs.Run.Calls
import DevnetChaos.Proofs.Run.Verdicts
import DevnetChaos.Proofs.Simulation.Steady
import DevnetChaos.Sample

/-!
# Judging tests

A test that reaches its health checks passes when all pods that these look at are running.  A test
without health checks passes once it is over.

Main definitions:

- `SuiteTest.approach`: a test up to its health checks.

Main results:

- `TestRun.conclude_execute`: the checks and the verdict.
- `SuiteTest.run_of_approach`, `SuiteTest.run_gives_unchecked`: tests with and without checks.
- `verdicts_cover`: the verdicts, and what becomes of a test.
-/

namespace DevnetChaos

open Run Simulation

variable {c : Cluster} {pods : List PodUnderTest}

/-! ## Where a test is -/

namespace TestRun

/-- A test that is to be in a state is in it. -/
theorem enter_gives (next : TestState) (r : TestRun) :
    (r.enter next).Gives fun r' => r' = { r with state := next } := by
  rw [enter]
  split
  · next hsame => subst hsame; exact Gives.pure rfl
  · split
    · exact (Gives.any _).bind fun _ _ => Gives.pure rfl
    · exact Gives.fail

/-- To wait for faults does not change which test it is. -/
theorem settle_gives (settings : SuiteSettings) (r : TestRun) :
    (r.settle settings).Gives fun r' => r'.test = r.test :=
  (Gives.any _).bind fun _ _ => Gives.pure rfl

/-- A step does not change which test it is. -/
theorem take_gives (settings : SuiteSettings) (step : PlanStep) (r : TestRun) :
    (r.take settings step).Gives fun r' => r'.test = r.test := by
  refine (enter_gives (stateOf step) r).bind ?_
  rintro _ rfl
  refine (Gives.any _).bind fun _ _ => ?_
  cases step with
  | injectFault => exact (Gives.any _).bind fun _ _ => Gives.pure rfl
  | awaitFaults => exact settle_gives settings { r with state := .waiting }
  | awaitDuration => exact (Gives.any _).bind fun _ _ => Gives.pure rfl

/-- Steps leave the test as it is. -/
theorem takeAll_gives (settings : SuiteSettings) (steps : List PlanStep) (r : TestRun) :
    (takeAll settings steps r).Gives fun r' => r'.test = r.test := by
  induction steps generalizing r with
  | nil => exact Gives.pure rfl
  | cons step rest ih =>
    refine (take_gives settings step r).bind fun r' hr' => ?_
    rw [← hr']
    exact ih r'

/-- The wait at the end does not change which test it is. -/
theorem finishWaiting_gives (settings : SuiteSettings) (r : TestRun) :
    (r.finishWaiting settings).Gives fun r' => r'.test = r.test := by
  rw [finishWaiting]
  split
  · exact Gives.pure rfl
  · refine (enter_gives .waiting r).bind ?_
    rintro _ rfl
    exact settle_gives settings { r with state := .waiting }

/-- The pods are checked in the state of the checks. -/
theorem prepare_gives (settings : SuiteSettings) (r : TestRun) :
    (r.prepare settings).Gives fun r' => r'.state = .healthChecking := by
  refine (enter_gives .healthChecking r).bind ?_
  rintro _ rfl
  dsimp only
  split
  · exact (Gives.any _).bind fun _ _ => Gives.pure rfl
  · exact Gives.pure rfl

end TestRun

/-! ## The verdict -/

section Reading

variable {σ : Type} {env : Environment σ} {s : σ}

namespace TestRun

variable {r : TestRun}

/-- A test that is at its health checks passes when all pods that are looked at are running. -/
theorem conclude_execute (hreads : ReadsCluster env s c)
    (hnotes : ∀ entry, ∃ s', env (.note entry) s = (some (), s'))
    (hstate : r.state = .healthChecking) (pods : List PodUnderTest) :
    ∃ a s', (r.conclude pods).execute env s = (.done a, s') ∧ a.podsUnderTest = pods ∧
      Covers c pods a.verdicts ∧
      (a.passed = true ↔ ∀ name, c.Checked pods name → c.Runs name) := by
  obtain ⟨verdicts, hchecks, hcovers⟩ := runChecks_covers hreads pods
  have henter : r.enter (verdictState verdicts) = (do
      Run.note (.testState r.test.name r.state (verdictState verdicts))
      return { r with state := verdictState verdicts }) := by
    rw [enter, hstate, verdictState]
    split <;> rfl
  obtain ⟨s', hnote⟩ := hnotes (.testState r.test.name r.state (verdictState verdicts))
  refine ⟨({ r with state := verdictState verdicts } : TestRun).artifact verdicts pods, s', ?_, rfl,
    hcovers, ?_⟩
  · rw [conclude, execute_bind_of_done hchecks, henter, Run.note, Run.call_bind, Run.call_bind,
      execute_call hnote]
    rfl
  · rw [← hcovers.all_healthy_iff, artifact, decide_eq_true_iff, verdictState]
    split <;> simp_all

end TestRun

namespace SuiteTest

variable {settings : SuiteSettings} {test : SuiteTest}

/-- A test up to its health checks: the pods under test, and where the test is. -/
def approach (settings : SuiteSettings) (test : SuiteTest) :
    Run (List PodUnderTest × TestRun) := do
  let pods ← podsUnderTest test.faults
  let r ← TestRun.takeAll settings test.steps (.start test)
  let r ← r.finishWaiting settings
  let r ← r.prepare settings
  return (pods, r)

/-- A test that reaches its checks goes on with them. -/
theorem run_of_approach {r : TestRun} {s₀ : σ} (henabled : test.health.enabled = true)
    (hreach : (test.approach settings).execute env s₀ = (.done (pods, r), s)) :
    (test.run settings).execute env s₀ = (r.conclude pods).execute env s ∧
      r.state = .healthChecking := by
  obtain ⟨pods', s₁, hpods, hreach⟩ := execute_bind_done hreach
  obtain ⟨r₁, s₂, htake, hreach⟩ := execute_bind_done hreach
  obtain ⟨r₂, s₃, hfinish, hreach⟩ := execute_bind_done hreach
  obtain ⟨r₃, s₄, hprepare, hreach⟩ := execute_bind_done hreach
  cases hreach
  have hsame : r₂.test = test :=
    ((TestRun.finishWaiting_gives settings r₁).execute hfinish).trans
      ((TestRun.takeAll_gives settings test.steps _).execute htake)
  refine ⟨?_, (TestRun.prepare_gives settings r₂).execute hprepare⟩
  rw [run, execute_bind_of_done hpods, execute_bind_of_done htake, execute_bind_of_done hfinish,
    TestRun.judge_of_enabled (by rw [hsame, henabled]), execute_bind_of_done hprepare]

/-- A test without health checks passes whatever its pods do. -/
theorem run_gives_unchecked (settings : SuiteSettings) (hdisabled : test.health.enabled = false) :
    (test.run settings).Gives fun a => a.passed = true ∧ a.verdicts = [] := by
  refine (Gives.any _).bind fun pods _ => ?_
  refine (TestRun.takeAll_gives settings test.steps _).bind fun r hr => ?_
  refine (TestRun.finishWaiting_gives settings r).bind fun r' hr' => ?_
  have hsame : r'.test = test := hr'.trans hr
  rw [TestRun.judge_of_not_enabled (by rw [hsame, hdisabled])]
  refine (TestRun.enter_gives .passed r').bind ?_
  rintro _ rfl
  exact Gives.pure ⟨by simp [TestRun.artifact], rfl⟩

end SuiteTest

/-- While questions about pods are answered from a cluster, checks give one verdict on every pod
that is looked at, and a test that reaches its checks comes to an end and passes when all these pods
are running.  A test without checks that comes to an end has passed without any verdict. -/
theorem verdicts_cover (env : Environment σ) :
    (∀ c s, ReadsCluster env s c →
      (∀ pods, ∃ verdicts, (runChecks pods).execute env s = (.done verdicts, s) ∧
        Covers c pods verdicts) ∧
      ∀ settings test s₀ pods r, test.health.enabled = true →
        (∀ entry, ∃ s', env (.note entry) s = (some (), s')) →
        (SuiteTest.approach settings test).execute env s₀ = (.done (pods, r), s) →
        ∃ a s', (test.run settings).execute env s₀ = (.done a, s') ∧ a.podsUnderTest = pods ∧
          Covers c pods a.verdicts ∧
          (a.passed = true ↔ ∀ name, c.Checked pods name → c.Runs name)) ∧
    ∀ settings test s₀ a s', test.health.enabled = false →
      (SuiteTest.run settings test).execute env s₀ = (.done a, s') →
      a.passed = true ∧ a.verdicts = [] := by
  refine ⟨fun c s hreads => ⟨runChecks_covers hreads, ?_⟩, ?_⟩
  · intro settings test s₀ pods r henabled hnotes hreach
    obtain ⟨hrun, hstate⟩ := SuiteTest.run_of_approach henabled hreach
    rw [hrun]
    exact TestRun.conclude_execute hreads hnotes hstate pods
  · intro settings test s₀ a s' hdisabled hrun
    exact (SuiteTest.run_gives_unchecked settings hdisabled).execute hrun

end Reading

/-- Two pods of execution clients, of which the second has failed. -/
def Sample.halfDown : Cluster :=
  (Cluster.empty.addPod "a" (.ofList [(serviceTypeLabel, Role.execution.serviceType)])
    .running).addPod "b" (.ofList [(serviceTypeLabel, Role.execution.serviceType)]) .failed

/-- A deployment that holds them, in which faults are pending for one question. -/
def Sample.halfDownWorld : World := World.holding Sample.halfDown (.pendingFor 1) []

/-- A restart of the first of them. -/
def Sample.restart (health : HealthConfig) : SuiteTest :=
  Sample.test "restart" [Sample.podRestart ["a"]] health

/-- The restart is judged by the second pod, unless no checks are asked for. -/
theorem verdicts_cover_halfDown :
    (∃ verdicts, (runChecks []).execute (World.respond ⟨0, false⟩) Sample.halfDownWorld =
        (.done verdicts, Sample.halfDownWorld) ∧ Covers Sample.halfDown [] verdicts) ∧
    (∃ a s', ((Sample.restart (.on none)).run (.standard 5)).execute
        (World.respond ⟨0, false⟩) Sample.halfDownWorld = (.done a, s') ∧
      Covers Sample.halfDown a.podsUnderTest a.verdicts ∧
      (a.passed = true ↔
        ∀ name, Sample.halfDown.Checked a.podsUnderTest name → Sample.halfDown.Runs name)) ∧
    ∃ a s', ((Sample.restart .off).run (.standard 5)).execute
        (World.respond ⟨0, false⟩) Sample.halfDownWorld = (.done a, s') ∧
      a.passed = true ∧ a.verdicts = [] := by
  obtain ⟨hreading, hunchecked⟩ := verdicts_cover (World.respond ⟨0, false⟩)
  have hsteady := World.steady_holding Sample.halfDown (.pendingFor 1) []
  refine ⟨(hreading _ _ hsteady.readsCluster).1 [], ?_, ?_⟩
  · obtain ⟨pods, r, s, hreach, hsteady'⟩ : ∃ pods r s,
        ((Sample.restart (.on none)).approach (.standard 5)).execute
          (World.respond ⟨0, false⟩) Sample.halfDownWorld = (.done (pods, r), s) ∧
          s.Steady Sample.halfDown s.host s.faults :=
      ⟨_, _, _, rfl, ⟨rfl, rfl, rfl, rfl, rfl, rfl, rfl, rfl⟩⟩
    obtain ⟨a, s', hrun, rfl, hcovers, hpassed⟩ :=
      (hreading _ s hsteady'.readsCluster).2 _ _ _ _ _ rfl (fun _ => ⟨_, rfl⟩) hreach
    exact ⟨a, s', hrun, hcovers, hpassed⟩
  · obtain ⟨a, s', hrun⟩ : ∃ a s',
        ((Sample.restart .off).run (.standard 5)).execute
          (World.respond ⟨0, false⟩) Sample.halfDownWorld = (.done a, s') := ⟨_, _, rfl⟩
    exact ⟨a, s', hrun, hunchecked _ _ _ _ _ rfl hrun⟩

end DevnetChaos
