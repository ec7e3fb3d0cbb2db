import DevnetChaos.Proofs.Run.Endings
import DevnetChaos.Proofs.Simulation.Coverage
import DevnetChaos.Proofs.Simulation.Steady
import DevnetChaos.Run.SuiteRun

/-!
# Tests in a steady world

In a steady world whose fault platform lets every fault complete, every test goes through all of
its steps, whatever these are, and comes to a verdict.  The only bound that matters is how often
faults are looked at: more often than the longest script is pending.

Main definitions:

- `World.Calm`: a steady world in which submitted faults are to complete.
- `TestRun.UnderWay`: a test between two of its steps.
- `SuiteTest.artifactOn`: the artifact of a test that passes on a devnet.

Main results:

- `awaitFaults_calm`: the wait for faults ends.
- `TestRun.take_underWay`, `TestRun.takeAll_underWay`: a step, and all steps.
- `SuiteTest.run_calm`, `runSuite_calm`: a test, and a suite.
-/

namespace DevnetChaos

open Run Simulation

variable {c : Cluster} {h : EnclaveHost} {e : FaultEngine} {n : Nat} {w : World} {caller : Caller}
variable {settings : SuiteSettings}

namespace Simulation

/-- A steady world in which every fault submitted from now on completes within `n` questions, and
so do some faults that were submitted. -/
structure World.Calm (c : Cluster) (h : EnclaveHost) (n : Nat) (faults : List OutstandingFault)
    (w : World) : Prop where
  engine : ∃ e : FaultEngine, w.Steady c h e ∧ e.Calm n ∧ e.Awaits n faults

theorem World.Steady.calm (hw : w.Steady c h e) (he : e.Calm n) : w.Calm c h n [] :=
  ⟨e, hw, he, e.awaits_nil n⟩

end Simulation

/-! ## Waiting for faults -/

/-- One look at faults: those that are left have come nearer to their completion. -/
theorem pollFaults_calm {k : Nat} {faults : List OutstandingFault} (hw : w.Steady c h e)
    (he : e.Calm n) (hawaits : e.Awaits k faults) :
    Succeeds (World.respond caller) (pollFaults faults) w fun left w' =>
      ∃ e' : FaultEngine, w'.Steady c h e' ∧ e'.Calm n ∧ e'.submissions = e.submissions ∧
        left.Sublist faults ∧
        (∀ text, text ∉ faults.map (·.handle.text) →
          e'.running.get? text = e.running.get? text) ∧
        ∀ f ∈ left, ∃ j, k = j + 1 ∧ e'.CompletesIn j f.handle := by
  induction faults generalizing w e with
  | nil => exact Succeeds.pure ⟨e, hw, he, rfl, List.Sublist.refl [], fun _ _ => rfl, by simp⟩
  | cons f rest ih =>
    obtain ⟨answer, e₁, hstatus, he₁, hsubmissions, hothers, hanswer⟩ :=
      FaultEngine.status_calm he (hawaits.completes f List.mem_cons_self)
    obtain ⟨hfresh, hdistinct⟩ := List.nodup_cons.1 hawaits.distinct
    -- The question about `f` leaves the other faults as far from completion as they were.
    have hrest : e₁.Awaits k rest := by
      refine hawaits.sublist (List.sublist_cons_self f rest) hsubmissions fun g hg => ?_
      have hne : g.handle.text ≠ f.handle.text := fun heq =>
        hfresh (List.mem_map.2 ⟨g, hg, heq⟩)
      exact (hawaits.completes g (List.mem_cons_of_mem f hg)).of_get?_eq (hothers _ hne)
    refine (hw.faultStatus hstatus).bind ?_
    rintro _ w₁ ⟨rfl, hw₁⟩
    rcases hanswer with rfl | ⟨rfl, j, hj, hlater⟩
    · refine (ih hw₁ he₁ hrest).mono ?_
      rintro left w₂ ⟨e₂, hw₂, he₂, hsub₂, hleft, hothers₂, hcompletes⟩
      refine ⟨e₂, hw₂, he₂, hsub₂.trans hsubmissions, hleft.cons f, ?_, hcompletes⟩
      intro text htext
      rw [List.map_cons, List.mem_cons, not_or] at htext
      exact (hothers₂ text htext.2).trans (hothers text htext.1)
    · refine (ih hw₁ he₁ hrest).bind ?_
      rintro left w₂ ⟨e₂, hw₂, he₂, hsub₂, hleft, hothers₂, hcompletes⟩
      refine Succeeds.pure ⟨e₂, hw₂, he₂, hsub₂.trans hsubmissions, hleft.cons_cons f, ?_, ?_⟩
      · intro text htext
        rw [List.map_cons, List.mem_cons, not_or] at htext
        exact (hothers₂ text htext.2).trans (hothers text htext.1)
      · intro g hg
        rcases List.mem_cons.1 hg with rfl | hg
        · exact ⟨j, hj, hlater.of_get?_eq (hothers₂ _ hfresh)⟩
        · exact hcompletes g hg

/-- Faults are looked at once more than they are pending. -/
theorem awaitRounds_calm {k patience : Nat} {faults : List OutstandingFault} (started : Nat)
    (hlimit : settings.completionLimit = none) (hpatience : k < patience) (hw : w.Steady c h e)
    (he : e.Calm n) (hawaits : e.Awaits k faults) :
    Succeeds (World.respond caller) (awaitRounds settings started patience faults) w
      fun _ w' => w'.Calm c h n [] := by
  induction patience generalizing k faults w e with
  | zero => omega
  | succ patience ih =>
    cases faults with
    | nil => exact Succeeds.pure (hw.calm he)
    | cons f rest =>
      rw [awaitRounds]
      refine (pollFaults_calm hw he hawaits).bind ?_
      rintro left w₁ ⟨e₁, hw₁, he₁, hsubmissions, hleft, _, hcompletes⟩
      split
      · exact Succeeds.pure (hw₁.calm he₁)
      · next hsome =>
        obtain ⟨g, hg⟩ := List.exists_mem_of_ne_nil left (by simpa using hsome)
        obtain ⟨k, rfl, _⟩ := hcompletes g hg
        have hawaits₁ : e₁.Awaits k left := by
          refine hawaits.sublist hleft hsubmissions fun f' hf' => ?_
          obtain ⟨j, hj, hlater⟩ := hcompletes f' hf'
          obtain rfl : k = j := by omega
          exact hlater
        have hcheck : checkLimit settings started left.length = pure () := by
          rw [checkLimit, hlimit]
        rw [hcheck, Run.pure_bind]
        refine (hw₁.sleep settings.pollPause _).bind fun _ w₂ hw₂ => ?_
        exact ih (by omega) hw₂ he₁ hawaits₁

/-- The wait for faults ends. -/
theorem awaitFaults_calm {faults : List OutstandingFault}
    (hlimit : settings.completionLimit = none) (hpatience : n < settings.patience)
    (hw : w.Calm c h n faults) :
    Succeeds (World.respond caller) (awaitFaults settings faults) w
      fun _ w' => w'.Calm c h n [] := by
  obtain ⟨e, hw, he, hawaits⟩ := hw
  refine hw.now.bind fun started w₁ hw₁ => ?_
  exact awaitRounds_calm started hlimit hpatience hw₁ he hawaits

/-! ## Steps -/

namespace TestRun

/-- A test that is in the middle of its steps in a calm world. -/
structure UnderWay (c : Cluster) (h : EnclaveHost) (n : Nat) (test : SuiteTest) (r : TestRun)
    (w : World) : Prop where
  test : r.test = test
  state : r.state.takesSteps = true
  calm : w.Calm c h n r.outstanding

variable {test : SuiteTest} {r : TestRun}

/-- A state is entered if it may be. -/
theorem enter_calm {next : TestState} {faults : List OutstandingFault} (hw : w.Calm c h n faults)
    (hallows : r.state = next ∨ r.state.allows next = true) :
    Succeeds (World.respond caller) (r.enter next) w
      fun r' w' => r' = { r with state := next } ∧ w'.Calm c h n faults := by
  rw [enter]
  split
  · next hsame =>
    subst hsame
    exact Succeeds.pure ⟨rfl, hw⟩
  · next hother =>
    obtain ⟨e, hw, he, hawaits⟩ := hw
    rw [if_pos (hallows.resolve_left hother)]
    refine (hw.note _).bind fun _ w₁ hw₁ => ?_
    exact Succeeds.pure ⟨rfl, ⟨e, hw₁, he, hawaits⟩⟩

/-- A fault that is accepted completes in time, and the test goes on. -/
theorem inject_calm (fault : Fault) (hw : w.Calm c h n r.outstanding) :
    Succeeds (World.respond caller) (r.inject fault) w fun r' w' =>
      r'.test = r.test ∧ r'.state = r.state ∧ w'.Calm c h n r'.outstanding := by
  obtain ⟨e, hw, he, hawaits⟩ := hw
  obtain ⟨handle, e', hsubmit, he', hawaits'⟩ := FaultEngine.submit_calm he fault hawaits
  refine (hw.submitFault hsubmit).bind ?_
  rintro _ w₁ ⟨rfl, hw₁⟩
  exact Succeeds.pure ⟨rfl, rfl, ⟨e', hw₁, he', hawaits'⟩⟩

/-- All faults complete before patience ends. -/
theorem settle_calm (hlimit : settings.completionLimit = none)
    (hpatience : n < settings.patience) (hw : w.Calm c h n r.outstanding) :
    Succeeds (World.respond caller) (r.settle settings) w
      fun r' w' => r' = { r with outstanding := [] } ∧ w'.Calm c h n [] := by
  refine (awaitFaults_calm hlimit hpatience hw).bind fun _ w₁ hw₁ => ?_
  exact Succeeds.pure ⟨rfl, hw₁⟩

/-- What a step says can be done. -/
theorem carryOut_calm (hlimit : settings.completionLimit = none)
    (hpatience : n < settings.patience) (step : PlanStep) (hw : w.Calm c h n r.outstanding) :
    Succeeds (World.respond caller) (r.carryOut settings step) w fun r' w' =>
      r'.test = r.test ∧ r'.state = r.state ∧ w'.Calm c h n r'.outstanding := by
  cases step with
  | injectFault description fault => exact inject_calm fault hw
  | awaitFaults description =>
    refine (settle_calm hlimit hpatience hw).mono ?_
    rintro _ w₁ ⟨rfl, hw₁⟩
    exact ⟨rfl, rfl, hw₁⟩
  | awaitDuration description duration =>
    obtain ⟨e, hw, he, hawaits⟩ := hw
    refine (hw.sleep duration description).bind fun _ w₁ hw₁ => ?_
    exact Succeeds.pure ⟨rfl, rfl, ⟨e, hw₁, he, hawaits⟩⟩

/-- A step leaves the test in the middle of its steps. -/
theorem take_underWay (hlimit : settings.completionLimit = none)
    (hpatience : n < settings.patience) (step : PlanStep) (hr : r.UnderWay c h n test w) :
    Succeeds (World.respond caller) (r.take settings step) w
      fun r' w' => r'.UnderWay c h n test w' := by
  have hallows := TestState.allows_stateOf hr.state step
  have hsteps := takesSteps_stateOf step
  refine (enter_calm hr.calm hallows).bind ?_
  rintro _ w₁ ⟨rfl, e, hw₁, he, hawaits⟩
  refine (hw₁.note _).bind fun _ w₂ hw₂ => ?_
  have hw₂ : w₂.Calm c h n ({ r with state := stateOf step } : TestRun).outstanding :=
    ⟨e, hw₂, he, hawaits⟩
  refine (carryOut_calm hlimit hpatience step hw₂).mono ?_
  rintro r' w₃ ⟨htest, hstate, hw₃⟩
  exact ⟨htest.trans hr.test, by rw [hstate]; exact hsteps, hw₃⟩

/-- All steps of a test can be taken. -/
theorem takeAll_underWay (hlimit : settings.completionLimit = none)
    (hpatience : n < settings.patience) (steps : List PlanStep) (hr : r.UnderWay c h n test w) :
    Succeeds (World.respond caller) (takeAll settings steps r) w
      fun r' w' => r'.UnderWay c h n test w' := by
  induction steps generalizing r w with
  | nil => exact Succeeds.pure hr
  | cons step rest ih =>
    exact (take_underWay hlimit hpatience step hr).bind fun _ _ hr' => ih hr'

/-- A test that has taken its steps comes to wait for no fault. -/
theorem finishWaiting_underWay (hlimit : settings.completionLimit = none)
    (hpatience : n < settings.patience) (hr : r.UnderWay c h n test w) :
    Succeeds (World.respond caller) (r.finishWaiting settings) w
      fun r' w' => r' = ⟨test, .waiting, []⟩ ∧ w'.Calm c h n [] := by
  obtain ⟨test, state, outstanding⟩ := r
  obtain ⟨rfl, hstate, hw⟩ := hr
  rw [finishWaiting]
  split
  · next hdone =>
    obtain ⟨rfl, rfl⟩ := hdone
    exact Succeeds.pure ⟨rfl, hw⟩
  · have hallows : state = .waiting ∨ state.allows .waiting = true :=
      TestState.allows_waiting hstate
    refine (enter_calm hw hallows).bind ?_
    rintro _ w₁ ⟨rfl, hw₁⟩
    have hw₁ : w₁.Calm c h n (⟨test, .waiting, outstanding⟩ : TestRun).outstanding := hw₁
    refine (settle_calm hlimit hpatience hw₁).mono ?_
    rintro _ w₂ ⟨rfl, hw₂⟩
    exact ⟨rfl, hw₂⟩

/-! ## Verdicts -/

/-- A test whose pods all turn out healthy passes. -/
theorem judge_calm {verdicts : List PodVerdict} {pods : List PodUnderTest}
    (hhealth : test.health.enabled = true)
    (hverdicts : (c.checks pods).foldl c.check [] = verdicts)
    (hhealthy : ∀ v ∈ verdicts, v.healthy = true) (hw : w.Calm c h n []) :
    Succeeds (World.respond caller) (judge settings pods ⟨test, .waiting, []⟩) w
      fun a w' => a = ⟨test.name, true, verdicts, pods⟩ ∧ w'.Calm c h n [] := by
  have hpassed : verdictState verdicts = .passed := if_pos (List.all_eq_true.2 hhealthy)
  rw [judge, if_pos hhealth]
  refine (enter_calm hw (.inr rfl)).bind ?_
  rintro _ w₁ ⟨rfl, e, hw₁, he, hawaits⟩
  refine hw₁.sleepUnlessZero _ _ fun w₂ hw₂ => ?_
  have hchecks : Succeeds (World.respond caller) (runChecks pods) w₂
      fun a w' => a = verdicts ∧ w' = w₂ :=
    ⟨_, _, runChecks_execute hw₂.readsCluster pods, hverdicts, rfl⟩
  refine hchecks.bind ?_
  rintro _ w₂ ⟨rfl, rfl⟩
  rw [hpassed]
  refine (enter_calm ⟨e, hw₂, he, hawaits⟩ (.inr rfl)).bind ?_
  rintro _ w₃ ⟨rfl, hw₃⟩
  exact Succeeds.pure ⟨rfl, hw₃⟩

end TestRun

/-! ## Tests and suites -/

/-- The artifact of a test that passes on the devnet of a topology. -/
def SuiteTest.artifactOn (test : SuiteTest) (t : Topology) : Artifact :=
  ⟨test.name, true, test.verdicts t, test.targets t⟩

variable {t : Topology}

/-- A test under which every pod of a devnet stays healthy passes on it, whatever its steps are. -/
theorem SuiteTest.run_calm {test : SuiteTest} (hlimit : settings.completionLimit = none)
    (hpatience : n < settings.patience) (hhealth : test.health.enabled = true)
    (hhealthy : ∀ v ∈ test.verdicts t, v.healthy = true) (hw : w.Calm t.cluster h n []) :
    Succeeds (World.respond caller) (test.run settings) w
      fun a w' => a = test.artifactOn t ∧ w'.Calm t.cluster h n [] := by
  obtain ⟨e, hw, he, hawaits⟩ := hw
  have htargets : Succeeds (World.respond caller) (podsUnderTest test.faults) w
      fun a w' => a = test.targets t ∧ w' = w :=
    ⟨_, _, podsUnderTest_execute hw.readsCluster test.faults, rfl, rfl⟩
  refine htargets.bind ?_
  rintro _ w ⟨rfl, rfl⟩
  have hstart : (TestRun.start test).UnderWay t.cluster h n test w :=
    ⟨rfl, rfl, ⟨e, hw, he, hawaits⟩⟩
  refine (TestRun.takeAll_underWay hlimit hpatience test.steps hstart).bind fun r w₁ hr => ?_
  refine (TestRun.finishWaiting_underWay hlimit hpatience hr).bind ?_
  rintro _ w₂ ⟨rfl, hw₂⟩
  exact TestRun.judge_calm hhealth rfl hhealthy hw₂

/-- Tests under which every pod of a devnet stays healthy pass one after the other. -/
theorem runTests_calm {tests : List SuiteTest} (artifacts : List Artifact)
    (hlimit : settings.completionLimit = none) (hpatience : n < settings.patience)
    (hhealth : ∀ test ∈ tests, test.health.enabled = true)
    (hhealthy : ∀ test ∈ tests, ∀ v ∈ test.verdicts t, v.healthy = true)
    (hw : w.Calm t.cluster h n []) :
    Succeeds (World.respond caller) (runTests settings artifacts tests) w fun p w' =>
      p = ⟨artifacts ++ tests.map (·.artifactOn t), .complete⟩ ∧ w'.Calm t.cluster h n [] := by
  induction tests generalizing artifacts w with
  | nil => exact Succeeds.pure ⟨by rw [List.map_nil, List.append_nil], hw⟩
  | cons test rest ih =>
    have htest : Succeeds (World.respond caller) (test.run settings) w
        fun a w' => a = test.artifactOn t ∧ w'.Calm t.cluster h n [] :=
      SuiteTest.run_calm hlimit hpatience (hhealth test List.mem_cons_self)
        (hhealthy test List.mem_cons_self) hw
    refine htest.attempt.bind ?_
    rintro _ w₁ ⟨_, rfl, rfl, hw₁⟩
    refine (ih (artifacts ++ [test.artifactOn t])
      (fun x hx => hhealth x (List.mem_cons_of_mem _ hx))
      (fun x hx => hhealthy x (List.mem_cons_of_mem _ hx)) hw₁).mono ?_
    rintro p w₂ ⟨rfl, hw₂⟩
    refine ⟨?_, hw₂⟩
    rw [List.map_cons, List.append_assoc, List.singleton_append]

/-- A suite under which every pod of a devnet stays healthy runs to its end. -/
theorem runSuite_calm {tests : List SuiteTest} (hlimit : settings.completionLimit = none)
    (hpatience : n < settings.patience) (hhealth : ∀ test ∈ tests, test.health.enabled = true)
    (hhealthy : ∀ test ∈ tests, ∀ v ∈ test.verdicts t, v.healthy = true)
    (hw : w.Calm t.cluster h n []) :
    Succeeds (World.respond caller) (runSuite settings tests) w fun report w' =>
      report = ⟨tests.length, tests.map (·.artifactOn t), false⟩ ∧ w'.Calm t.cluster h n [] := by
  refine (runTests_calm [] hlimit hpatience hhealth hhealthy hw).bind ?_
  rintro _ w₁ ⟨rfl, e, hw₁, he, -⟩
  refine (hw₁.persist _).bind fun _ w₂ hw₂ => ?_
  exact Succeeds.pure ⟨rfl, hw₂.calm he⟩

end DevnetChaos
