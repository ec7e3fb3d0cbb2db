import DevnetChaos.Proofs.Run.Calls
import DevnetChaos.Proofs.Simulation.Steady
import DevnetChaos.Run.SuiteRun
import DevnetChaos.Sample

/-!
# The course of a suite

A suite executes its tests in order until one does not pass, and hands over the artifacts of the
executed tests once, whether the suite was gone through, stopped by a failed test, or cut short by
a test that could not be run to its end.

Main definitions:

- `persists`: what was handed over.
- `RanInOrder`: tests that were run to a verdict one after another.
- `SuiteStop`: how the tests of a suite stopped.
- `SuiteCourse`: the exchanges and the outcome of a suite.

Main results:

- `runTests_stop`: how tests stop on every path.
- `runSuite_course`: the course of a suite on every path.
-/

namespace DevnetChaos

open Run Simulation

variable {settings : SuiteSettings} {tests : List SuiteTest} {exchanges : List Exchange}

/-! ## What is handed over -/

/-- The artifacts that a call hands over. -/
def Call.artifacts? : Call → Option (List Artifact)
  | .persist artifacts => some artifacts
  | _ => none

/-- The artifacts that were handed over, time after time. -/
def persists (exchanges : List Exchange) : List (List Artifact) :=
  exchanges.filterMap fun x => x.call.artifacts?

@[simp] theorem persists_append (first later : List Exchange) :
    persists (first ++ later) = persists first ++ persists later :=
  List.filterMap_append

/-- No test hands over artifacts. -/
theorem SuiteTest.persists_eq_nil {test : SuiteTest} {outcome : Outcome Artifact}
    (hpath : Path (test.run settings) exchanges outcome) : persists exchanges = [] := by
  refine List.filterMap_eq_nil_iff.2 fun x hx => ?_
  have hcall := (test.run_only settings).path hpath x hx
  generalize x.call = c at hcall
  cases c with
  | persist => rcases hcall with h | h <;> cases h
  | _ => rfl

/-! ## Executed tests -/

/-- Tests that were run one after another, each to an artifact. -/
inductive RanInOrder (settings : SuiteSettings) :
    List SuiteTest → List Artifact → List Exchange → Prop
  | nil : RanInOrder settings [] [] []
  | cons {test : SuiteTest} {tests : List SuiteTest} {artifact : Artifact}
      {artifacts : List Artifact} {own later : List Exchange} :
      Path (test.run settings) own (.done artifact) → RanInOrder settings tests artifacts later →
      RanInOrder settings (test :: tests) (artifact :: artifacts) (own ++ later)

namespace RanInOrder

variable {executed : List SuiteTest} {artifacts : List Artifact} {running : List Exchange}

/-- Every executed test has one artifact. -/
theorem length_eq (h : RanInOrder settings executed artifacts running) :
    artifacts.length = executed.length := by
  induction h with
  | nil => rfl
  | cons _ _ ih => simp [ih]

/-- No test hands artifacts over. -/
theorem persists_eq_nil (h : RanInOrder settings executed artifacts running) :
    persists running = [] := by
  induction h with
  | nil => rfl
  | cons hpath _ ih => rw [persists_append, SuiteTest.persists_eq_nil hpath, ih, List.append_nil]

end RanInOrder

/-- All artifacts are those of tests that passed. -/
def AllPassed (artifacts : List Artifact) : Prop := ∀ a ∈ artifacts, a.passed = true

/-- The last artifact, and no other, is that of a test that failed. -/
def OnlyLastFailed (artifacts : List Artifact) : Prop :=
  ∃ earlier last, artifacts = earlier ++ [last] ∧ AllPassed earlier ∧ last.passed = false

theorem OnlyLastFailed.cons {a : Artifact} {artifacts : List Artifact}
    (h : OnlyLastFailed artifacts) (ha : a.passed = true) : OnlyLastFailed (a :: artifacts) := by
  obtain ⟨earlier, last, rfl, hearlier, hlast⟩ := h
  exact ⟨a :: earlier, last, rfl, List.forall_mem_cons.2 ⟨ha, hearlier⟩, hlast⟩

/-! ## How tests stop -/

/-- How the tests of a suite stop after those that were executed: which are left, what a test that
was begun and not finished has exchanged, and the outcome. -/
inductive SuiteStop (settings : SuiteSettings) (before artifacts : List Artifact) :
    List SuiteTest → List Exchange → Outcome SuiteProgress → Prop
  | complete (passed : AllPassed artifacts) :
      SuiteStop settings before artifacts [] [] (.done ⟨before ++ artifacts, .complete⟩)
  | failedTest {rest : List SuiteTest} (failed : OnlyLastFailed artifacts) :
      SuiteStop settings before artifacts rest []
        (.done ⟨before ++ artifacts, .failedTest rest.length⟩)
  | aborted {test : SuiteTest} {later : List SuiteTest} {own : List Exchange} {failure : Failure}
      (passed : AllPassed artifacts) (stopped : Path (test.run settings) own (.failed failure)) :
      SuiteStop settings before artifacts (test :: later) own
        (.done ⟨before ++ artifacts, .aborted failure⟩)
  | left {test : SuiteTest} {later : List SuiteTest} {own : List Exchange}
      (passed : AllPassed artifacts) (stopped : Path (test.run settings) own .abandoned) :
      SuiteStop settings before artifacts (test :: later) own .abandoned

/-- A passed test in front changes nothing about how tests stop. -/
theorem SuiteStop.cons {before artifacts : List Artifact} {a : Artifact} {rest : List SuiteTest}
    {own : List Exchange} {outcome : Outcome SuiteProgress}
    (h : SuiteStop settings (before ++ [a]) artifacts rest own outcome) (ha : a.passed = true) :
    SuiteStop settings before (a :: artifacts) rest own outcome := by
  have hall (hpassed : AllPassed artifacts) : AllPassed (a :: artifacts) :=
    List.forall_mem_cons.2 ⟨ha, hpassed⟩
  cases h with
  | complete passed => rw [List.append_assoc]; exact .complete (hall passed)
  | failedTest failed => rw [List.append_assoc]; exact .failedTest (failed.cons ha)
  | aborted passed stopped => rw [List.append_assoc]; exact .aborted (hall passed) stopped
  | left passed stopped => exact .left (hall passed) stopped

namespace Run

/-- A path of a run that goes on after a failure is a path of the run. -/
theorem path_attempt {α : Type} {r : Run α} {outcome : Outcome (Except Failure α)}
    (h : Path r.attempt exchanges outcome) :
    (∃ a, Path r exchanges (.done a) ∧ outcome = .done (.ok a)) ∨
      (∃ failure, Path r exchanges (.failed failure) ∧ outcome = .done (.error failure)) ∨
      (Path r exchanges .abandoned ∧ outcome = .abandoned) := by
  induction r generalizing exchanges with
  | ended ending =>
    cases ending with
    | done a => cases h; exact .inl ⟨a, .ended _, rfl⟩
    | failed failure => cases h; exact .inr (.inl ⟨failure, .ended _, rfl⟩)
    | abandoned => cases h; exact .inr (.inr ⟨.ended _, rfl⟩)
  | call c next ih =>
    rw [attempt] at h
    cases h with
    | unanswered => exact .inr (.inr ⟨.unanswered, rfl⟩)
    | answered h =>
      rcases ih _ h with ⟨a, h, e⟩ | ⟨failure, h, e⟩ | ⟨h, e⟩
      · exact .inl ⟨a, .answered h, e⟩
      · exact .inr (.inl ⟨failure, .answered h, e⟩)
      · exact .inr (.inr ⟨.answered h, e⟩)

end Run

/-- On every path some first tests are run to a verdict, and then the tests stop in one of the four
ways. -/
theorem runTests_stop {before : List Artifact} {outcome : Outcome SuiteProgress}
    (hpath : Path (runTests settings before tests) exchanges outcome) :
    ∃ executed rest artifacts running own, tests = executed ++ rest ∧
      RanInOrder settings executed artifacts running ∧ exchanges = running ++ own ∧
      SuiteStop settings before artifacts rest own outcome := by
  have hnone : AllPassed [] := by simp [AllPassed]
  induction tests generalizing before exchanges with
  | nil =>
    cases hpath
    refine ⟨[], [], [], [], [], rfl, .nil, rfl, ?_⟩
    have h : SuiteStop settings before [] [] [] (.done ⟨before ++ [], .complete⟩) := .complete hnone
    rwa [List.append_nil] at h
  | cons test rest ih =>
    rw [runTests] at hpath
    rcases path_bind hpath with ⟨failure, h, -⟩ | ⟨h, rfl⟩ | ⟨result, own, later, h, hlater, rfl⟩
    · rcases path_attempt h with ⟨_, _, h⟩ | ⟨_, _, h⟩ | ⟨_, h⟩ <;> cases h
    · rcases path_attempt h with ⟨_, _, h⟩ | ⟨_, _, h⟩ | ⟨hstopped, -⟩
      · cases h
      · cases h
      · exact ⟨[], test :: rest, [], [], exchanges, rfl, .nil, rfl, .left hnone hstopped⟩
    · rcases path_attempt h with ⟨artifact, hown, hdone⟩ | ⟨failure, hstopped, hdone⟩ | ⟨_, hdone⟩
      · cases hdone
        dsimp only at hlater
        split at hlater
        · next hpassed =>
          obtain ⟨executed, rest', artifacts, running, stopping, rfl, hran, rfl, hstop⟩ := ih hlater
          exact ⟨test :: executed, rest', artifact :: artifacts, own ++ running, stopping, rfl,
            .cons hown hran, (List.append_assoc ..).symm, hstop.cons hpassed⟩
        · next hfailed =>
          cases hlater
          refine ⟨[test], rest, [artifact], own, [], rfl, ?_, rfl, .failedTest ?_⟩
          · simpa using RanInOrder.cons hown .nil
          · exact ⟨[], artifact, rfl, hnone, by simpa using hfailed⟩
      · cases hdone
        cases hlater
        refine ⟨[], test :: rest, [], [], own, rfl, .nil, by simp, ?_⟩
        have h : SuiteStop settings before [] (test :: rest) own
            (.done ⟨before ++ [], .aborted failure⟩) := .aborted hnone hstopped
        rwa [List.append_nil] at h
      · cases hdone

/-! ## Whole suites -/

/-- The outcome of a suite after its artifacts were handed over. -/
def afterPersist (report : SuiteReport) : Option (Except Failure Unit) → Outcome SuiteReport
  | some (.ok _) => .done report
  | some (.error failure) => .failed failure
  | none => .abandoned

/-- The exchanges and the outcome of a suite. -/
inductive SuiteCourse (settings : SuiteSettings) (tests : List SuiteTest) :
    List Exchange → Outcome SuiteReport → Prop
  /-- No test ended with a failure.  All tests were executed, or those up to the first that did not
  pass.  Their artifacts are handed over once, at the end. -/
  | judged {executed rest : List SuiteTest} {artifacts : List Artifact} {running : List Exchange}
      {answer : Option (Except Failure Unit)} {stoppedEarly : Bool}
      (split : tests = executed ++ rest)
      (ran : RanInOrder settings executed artifacts running)
      (verdicts : rest = [] ∧ AllPassed artifacts ∨ OnlyLastFailed artifacts)
      (early : stoppedEarly = true ↔ rest ≠ [])
      (passed : SuiteReport.passed ⟨tests.length, artifacts, stoppedEarly⟩ = true ↔
        rest = [] ∧ AllPassed artifacts)
      (once : persists (running ++ [⟨.persist artifacts, answer⟩]) = [artifacts]) :
      SuiteCourse settings tests (running ++ [⟨.persist artifacts, answer⟩])
        (afterPersist ⟨tests.length, artifacts, stoppedEarly⟩ answer)
  /-- A test ended with a failure, after tests that all passed.  Their artifacts are handed over
  once, and whatever comes of that, the failure of the test is the outcome. -/
  | aborted {executed later : List SuiteTest} {test : SuiteTest} {artifacts : List Artifact}
      {running own : List Exchange} {failure : Failure} {answer : Except Failure Unit}
      (split : tests = executed ++ test :: later)
      (ran : RanInOrder settings executed artifacts running) (verdicts : AllPassed artifacts)
      (stopped : Path (test.run settings) own (.failed failure))
      (once : persists (running ++ own ++ [⟨.persist artifacts, some answer⟩]) = [artifacts]) :
      SuiteCourse settings tests (running ++ own ++ [⟨.persist artifacts, some answer⟩])
        (.failed failure)
  /-- The suite was left while artifacts were handed over after the failure of a test. -/
  | leftAborted {executed later : List SuiteTest} {test : SuiteTest} {artifacts : List Artifact}
      {running own : List Exchange} {failure : Failure}
      (split : tests = executed ++ test :: later)
      (ran : RanInOrder settings executed artifacts running) (verdicts : AllPassed artifacts)
      (stopped : Path (test.run settings) own (.failed failure))
      (once : persists (running ++ own ++ [⟨.persist artifacts, none⟩]) = [artifacts]) :
      SuiteCourse settings tests (running ++ own ++ [⟨.persist artifacts, none⟩]) .abandoned
  /-- The suite was left during a test, after tests that all passed. -/
  | left {executed later : List SuiteTest} {test : SuiteTest} {artifacts : List Artifact}
      {running own : List Exchange}
      (split : tests = executed ++ test :: later)
      (ran : RanInOrder settings executed artifacts running) (verdicts : AllPassed artifacts)
      (stopped : Path (test.run settings) own .abandoned)
      (never : persists (running ++ own) = []) :
      SuiteCourse settings tests (running ++ own) .abandoned

/-- A report is about a suite that passed when no test is left and no test failed. -/
theorem SuiteReport.passed_iff {executed rest : List SuiteTest} {artifacts : List Artifact}
    (hlength : artifacts.length = executed.length) (stoppedEarly : Bool) :
    SuiteReport.passed ⟨(executed ++ rest).length, artifacts, stoppedEarly⟩ = true ↔
      rest = [] ∧ AllPassed artifacts := by
  simp [SuiteReport.passed, AllPassed, hlength, and_comm]

/-- Handing over artifacts ends a suite as the answer says. -/
theorem path_persist {artifacts : List Artifact} {report : SuiteReport}
    {outcome : Outcome SuiteReport}
    (hpath : Path (do Run.persist artifacts; return report) exchanges outcome) :
    ∃ answer, exchanges = [⟨.persist artifacts, answer⟩] ∧
      outcome = afterPersist report answer := by
  cases hpath with
  | unanswered => exact ⟨none, rfl, rfl⟩
  | @answered _ _ answer _ _ hrest =>
    cases answer with
    | error failure => cases hrest; exact ⟨some (.error failure), rfl, rfl⟩
    | ok => cases hrest; exact ⟨some (.ok ()), rfl, rfl⟩

/-- After the failure of a test the answer makes no difference. -/
theorem path_persist_attempt {artifacts : List Artifact} {failure : Failure}
    {outcome : Outcome SuiteReport}
    (hpath : Path (do
        let _ ← (Run.persist artifacts).attempt
        Run.fail failure) exchanges outcome) :
    (∃ answer, exchanges = [⟨.persist artifacts, some answer⟩] ∧ outcome = .failed failure) ∨
      exchanges = [⟨.persist artifacts, none⟩] ∧ outcome = .abandoned := by
  cases hpath with
  | unanswered => exact .inr ⟨rfl, rfl⟩
  | @answered _ _ answer _ _ hrest =>
    cases answer <;> cases hrest <;> exact .inl ⟨_, rfl, rfl⟩

/-- A suite whose executed tests all came to a verdict ends by handing over their artifacts. -/
theorem SuiteCourse.of_judged {executed rest : List SuiteTest} {artifacts : List Artifact}
    {running final : List Exchange} {stoppedEarly : Bool} {outcome : Outcome SuiteReport}
    (ran : RanInOrder settings executed artifacts running)
    (verdicts : rest = [] ∧ AllPassed artifacts ∨ OnlyLastFailed artifacts)
    (early : stoppedEarly = true ↔ rest ≠ [])
    (hfinal : Path (do
        Run.persist artifacts
        return (⟨(executed ++ rest).length, artifacts, stoppedEarly⟩ : SuiteReport))
      final outcome) :
    SuiteCourse settings (executed ++ rest) (running ++ final) outcome := by
  obtain ⟨answer, rfl, rfl⟩ := path_persist hfinal
  refine .judged rfl ran verdicts early (SuiteReport.passed_iff ran.length_eq stoppedEarly) ?_
  rw [persists_append, ran.persists_eq_nil]
  rfl

/-- The course of a suite on every path. -/
theorem runSuite_course {outcome : Outcome SuiteReport}
    (hpath : Path (runSuite settings tests) exchanges outcome) :
    SuiteCourse settings tests exchanges outcome := by
  rcases path_bind hpath with ⟨failure, h, -⟩ | ⟨h, rfl⟩ | ⟨progress, _, final, h, hfinal, rfl⟩
  · obtain ⟨_, _, _, _, _, -, -, -, hstop⟩ := runTests_stop h
    cases hstop
  · obtain ⟨executed, rest, artifacts, running, own, rfl, hran, rfl, hstop⟩ := runTests_stop h
    cases hstop with
    | left passed stopped =>
      refine .left rfl hran passed stopped ?_
      rw [persists_append, hran.persists_eq_nil, SuiteTest.persists_eq_nil stopped]
      rfl
  · obtain ⟨executed, rest, artifacts, running, own, rfl, hran, rfl, hstop⟩ := runTests_stop h
    cases hstop with
    | complete passed =>
      rw [List.append_nil running]
      exact .of_judged hran (.inl ⟨rfl, passed⟩) (by simp) hfinal
    | failedTest failed =>
      rw [List.append_nil running]
      exact .of_judged hran (.inr failed) (by simp [List.length_pos_iff]) hfinal
    | aborted passed stopped =>
      have hnone : persists (running ++ own) = [] := by
        rw [persists_append, hran.persists_eq_nil, SuiteTest.persists_eq_nil stopped]
        rfl
      rcases path_persist_attempt hfinal with ⟨answer, rfl, rfl⟩ | ⟨rfl, rfl⟩
      · exact .aborted rfl hran passed stopped (by rw [persists_append, hnone]; rfl)
      · exact .leftAborted rfl hran passed stopped (by rw [persists_append, hnone]; rfl)

/-- Three tests of which the second does not pass, as its fault leaves its pod failed. -/
theorem runSuite_course_failedTest :
    ∃ exchanges outcome, Path (runSuite (.standard 5)
        (["first", "second", "third"].map fun name =>
          Sample.test name [Sample.networkLatency ["a"]] (.on none))) exchanges outcome ∧
      (persists exchanges).map (·.map (·.passed)) = [[true, false]] ∧
      SuiteCourse (.standard 5) (["first", "second", "third"].map fun name =>
        Sample.test name [Sample.networkLatency ["a"]] (.on none)) exchanges outcome := by
  obtain ⟨exchanges, outcome, hpath, hpersists⟩ : ∃ exchanges outcome,
      Path (runSuite (.standard 5) (["first", "second", "third"].map fun name =>
        Sample.test name [Sample.networkLatency ["a"]] (.on none))) exchanges outcome ∧
      (persists exchanges).map (·.map (·.passed)) = [[true, false]] :=
    ⟨_, _, path_trace (World.respond ⟨0, false⟩) _
      (World.holding (Cluster.empty.addPod "a" .empty .running) .completes
        [.completes, { SubmissionScript.completes with podPhase := some .failed }]),
      by decide +kernel⟩
  exact ⟨exchanges, outcome, hpath, hpersists, runSuite_course hpath⟩

end DevnetChaos
