import DevnetChaos.Proofs.Run.Calls
import DevnetChaos.Run.SuiteRun

/-!
# How runs end

A run ends with a failure of its own or with one that it is told by a call.  So whether its failures
have a property is settled by the failures that it raises itself, as long as those it is told have
the property too.  A test and a suite never raise a failure that says that no platform was called.

Main definitions:

- `Run.Ends`: a run ends with failures of one kind, as long as it is told no others, and its values
  have a property.
- `HoldsTestFailures`: a kind of failures with those that a test raises itself.
- `TestState.takesSteps`: the states in which a test takes its steps.
- `Failure.IsLate`: a failure that does not say that no platform was called.

Main results:

- `Run.Ends.path`: what the judgment says about paths.
- `Run.Ends.bind`, `Run.Ends.attempt`: a run in two parts, and a run whose failure is caught.
- `Run.Asks.failsWith`: asking about pods raises no failure at all.
- `SuiteTest.run_ends`, `runSuite_ends`: the failures of a test and of a suite.
-/

namespace DevnetChaos

namespace Run

variable {α β : Type}

/-- How a run ends: as long as every failure that it is told is of the kind `fails`, so is its own,
and its value has the property `gives`. -/
def Ends (fails : Failure → Prop) (gives : α → Prop) : Run α → Prop
  | ended (.done a) => gives a
  | ended (.failed failure) => fails failure
  | ended .abandoned => True
  | call c next => ∀ answer, (∀ failure ∈ (Exchange.mk c (some answer)).failure?, fails failure) →
      (next answer).Ends fails gives

/-- A run that ends with failures of one kind; nothing is claimed about its values. -/
abbrev FailsWith (fails : Failure → Prop) (r : Run α) : Prop := r.Ends fails fun _ => True

namespace Ends

variable {fails : Failure → Prop} {P Q : α → Prop} {r : Run α}

theorem pure {a : α} (h : Q a) : (Pure.pure a : Run α).Ends fails Q := h

/-- A run that fails with one of the failures ends as it should. -/
theorem fail {failure : Failure} (h : fails failure) : (Run.fail failure : Run α).Ends fails Q := h

/-- A computation ends a run with its failure or its value. -/
theorem ofExcept {x : Except Failure α} (hfails : ∀ failure, x = .error failure → fails failure)
    (hgives : ∀ a, x = .ok a → Q a) : (Run.ofExcept x).Ends fails Q := by
  cases x with
  | error failure => exact hfails failure rfl
  | ok a => exact hgives a rfl

/-- After a call, a run need not answer for the failure that it was told. -/
theorem ask {c : Call} {next : c.Answer → Run α}
    (hnext : ∀ answer, (∀ failure ∈ (Exchange.mk c (some answer)).failure?, fails failure) →
      (next answer).Ends fails Q) : (Run.call c next).Ends fails Q :=
  hnext

/-- The property of the values may be replaced by a weaker one. -/
theorem mono (h : r.Ends fails P) (hPQ : ∀ a, P a → Q a) : r.Ends fails Q := by
  induction r with
  | ended outcome =>
    cases outcome with
    | done a => exact hPQ a h
    | failed failure => exact h
    | abandoned => trivial
  | call c next ih => exact fun answer htold => ih answer (h answer htold)

/-- In two parts, a run answers for the failures of both and for the values of the second. -/
theorem bind {f : α → Run β} {R : β → Prop} (h : r.Ends fails P)
    (hf : ∀ a, P a → (f a).Ends fails R) : (r >>= f).Ends fails R := by
  induction r with
  | ended outcome =>
    cases outcome with
    | done a => exact hf a h
    | failed failure => exact h
    | abandoned => trivial
  | call c next ih => exact fun answer htold => ih answer (h answer htold)

/-- A failure that is caught becomes part of the value. -/
theorem attempt (h : r.Ends fails Q) : r.attempt.Ends fails fun
    | .error failure => fails failure
    | .ok a => Q a := by
  induction r with
  | ended outcome =>
    cases outcome with
    | done a => exact h
    | failed failure => exact h
    | abandoned => trivial
  | call c next ih => exact fun answer htold => ih answer (h answer htold)

/-- On a path on which all failures that are told are of one kind, the run ends as it should. -/
theorem path {exchanges : List Exchange} {outcome : Outcome α} (h : r.Ends fails Q)
    (hpath : Path r exchanges outcome)
    (htold : ∀ x ∈ exchanges, ∀ failure ∈ x.failure?, fails failure) :
    (∀ failure, outcome = .failed failure → fails failure) ∧ ∀ a, outcome = .done a → Q a := by
  induction hpath with
  | ended outcome =>
    constructor
    · rintro failure rfl
      exact h
    · rintro a rfl
      exact h
  | answered _ ih =>
    rw [List.forall_mem_cons] at htold
    exact ih (h _ htold.1) htold.2
  | unanswered =>
    constructor
    · intro failure hfailed
      cases hfailed
    · intro a hdone
      cases hdone

end Ends

/-! ## Single calls -/

namespace FailsWith

variable {fails : Failure → Prop}

/-- A run that is a call and ends as it is told to. -/
theorem told {c : Call} {next : c.Answer → Run α} (told : c.Answer → Except Failure α)
    (hnext : ∀ answer, next answer = ofExcept (told answer))
    (htold : ∀ answer failure, told answer = .error failure →
      failure ∈ (Exchange.mk c (some answer)).failure?) : (Run.call c next).FailsWith fails := by
  intro answer hfails
  rw [hnext]
  apply Ends.ofExcept
  · intro failure h
    exact hfails failure (htold answer failure h)
  · intro a _
    trivial

/-- A call that passes on its answer fails only as it is told to; so do those that follow. -/
theorem enclaveExists (enclave : String) : (Run.enclaveExists enclave).FailsWith fails :=
  told id (fun _ => rfl) (by rintro _ failure rfl; rfl)

theorem createEnclave (enclave : String) : (Run.createEnclave enclave).FailsWith fails :=
  told id (fun _ => rfl) (by rintro _ failure rfl; rfl)

theorem destroyEnclave (enclave : String) : (Run.destroyEnclave enclave).FailsWith fails :=
  told id (fun _ => rfl) (by rintro _ failure rfl; rfl)

theorem runningServices (enclave : String) : (Run.runningServices enclave).FailsWith fails :=
  told id (fun _ => rfl) (by rintro _ failure rfl; rfl)

theorem buildNetwork (enclave : String) (network : NetworkConfig) :
    (Run.buildNetwork enclave network).FailsWith fails :=
  told id (fun _ => rfl) (by rintro _ failure rfl; rfl)

theorem submitFault (fault : Fault) : (Run.submitFault fault).FailsWith fails :=
  told id (fun _ => rfl) (by rintro _ failure rfl; rfl)

theorem faultStatus (handle : FaultHandle) : (Run.faultStatus handle).FailsWith fails :=
  told id (fun _ => rfl) (by rintro _ failure rfl; rfl)

theorem podsLabelled (key value : String) : (Run.podsLabelled key value).FailsWith fails :=
  told id (fun _ => rfl) (by rintro _ failure rfl; rfl)

theorem pod? (name : String) : (Run.pod? name).FailsWith fails :=
  told id (fun _ => rfl) (by rintro _ failure rfl; rfl)

theorem persist (artifacts : List Artifact) : (Run.persist artifacts).FailsWith fails :=
  told id (fun _ => rfl) (by rintro _ failure rfl; rfl)

theorem now : Run.now.FailsWith fails := fun _ _ => trivial

theorem pause (millis : Nat) : (Run.pause millis).FailsWith fails := fun _ _ => trivial

theorem awaitCancellation : Run.awaitCancellation.FailsWith fails := fun _ _ => trivial

theorem note (entry : JournalEntry) : (Run.note entry).FailsWith fails := fun _ _ => trivial

theorem publish (notification : Notification) : (Run.publish notification).FailsWith fails :=
  fun _ _ => trivial

/-- A wait fails only by being cancelled. -/
theorem sleep (duration : Duration) {operation : String} (h : fails (.cancelled operation)) :
    (Run.sleep duration operation).FailsWith fails := by
  refine (pause _).bind fun how _ => ?_
  cases how with
  | elapsed => trivial
  | cancelled => exact h

end FailsWith
end Run

open Run

/-- A run that asks about pods fails only as it is told to. -/
theorem Run.Asks.failsWith {α : Type} {r : Run α} {fails : Failure → Prop} (h : r.Asks) :
    r.FailsWith fails := by
  induction r with
  | ended outcome =>
    cases outcome with
    | done => trivial
    | failed => cases h
    | abandoned => trivial
  | call c next ih =>
    intro answer htold
    have hanswer := h.2 answer
    cases hfailure : (Exchange.mk c (some answer)).failure? with
    | some failure =>
      rw [hfailure] at hanswer
      rw [hanswer]
      exact Ends.fail (htold failure hfailure)
    | none =>
      rw [hfailure] at hanswer
      exact ih answer hanswer

/-! ## Tests -/

/-- A kind of failures that holds those which a test raises itself: of cancelled waits, and of
faults that have come to an error or taken too long. -/
structure HoldsTestFailures (fails : Failure → Prop) : Prop where
  cancelled : ∀ operation, fails (.cancelled operation)
  faultFailed : ∀ fault reason, fails (.faultFailed fault reason)

/-- A state in which a test takes its steps. -/
def TestState.takesSteps : TestState → Bool
  | .pending | .injecting | .waiting => true
  | .healthChecking | .passed | .failed => false

/-- Every step is taken in such a state. -/
theorem TestRun.takesSteps_stateOf (step : PlanStep) : (stateOf step).takesSteps = true := by
  cases step <;> rfl

/-- From the states in which steps are taken a test may go on to wait. -/
theorem TestState.allows_waiting {s : TestState} (h : s.takesSteps = true) :
    s = .waiting ∨ s.allows .waiting = true := by
  cases s with
  | pending | injecting => exact .inr rfl
  | waiting => exact .inl rfl
  | _ => cases h

/-- It may go on to take any step. -/
theorem TestState.allows_stateOf {s : TestState} (h : s.takesSteps = true) (step : PlanStep) :
    s = TestRun.stateOf step ∨ s.allows (TestRun.stateOf step) = true := by
  cases step with
  | injectFault =>
    cases s with
    | pending | waiting => exact .inr rfl
    | injecting => exact .inl rfl
    | _ => cases h
  | awaitFaults | awaitDuration => exact allows_waiting h

section Tests

variable {fails : Failure → Prop}

/-- Looking at faults, a test fails because one of them did. -/
theorem pollFaults_ends (hfails : HoldsTestFailures fails) (faults : List OutstandingFault) :
    (pollFaults faults).FailsWith fails := by
  induction faults with
  | nil => exact Ends.pure trivial
  | cons f rest ih =>
    refine (FailsWith.faultStatus f.handle).bind fun status _ => ?_
    cases status with
    | complete => exact ih
    | pending => exact ih.bind fun _ _ => Ends.pure trivial
    | error reason => exact Ends.fail (hfails.faultFailed _ _)

/-- A test fails for its limit as for a fault. -/
theorem checkLimit_ends (hfails : HoldsTestFailures fails) (settings : SuiteSettings)
    (began count : Nat) : (checkLimit settings began count).FailsWith fails := by
  rw [checkLimit]
  split
  · exact Ends.pure trivial
  · refine FailsWith.now.bind fun time _ => ?_
    split
    · exact Ends.fail (hfails.faultFailed _ _)
    · exact Ends.pure trivial

/-- However often faults are looked at, a test fails because of one of them, for its limit or
because it was cancelled. -/
theorem awaitRounds_ends (hfails : HoldsTestFailures fails) (settings : SuiteSettings)
    (began patience : Nat) (faults : List OutstandingFault) :
    (awaitRounds settings began patience faults).FailsWith fails := by
  induction patience generalizing faults with
  | zero => cases faults <;> trivial
  | succ patience ih =>
    cases faults with
    | nil => exact Ends.pure trivial
    | cons f rest =>
      rw [awaitRounds]
      refine (pollFaults_ends hfails (f :: rest)).bind fun left _ => ?_
      split
      · exact Ends.pure trivial
      · refine (checkLimit_ends hfails settings began left.length).bind fun _ _ => ?_
        exact (FailsWith.sleep _ (hfails.cancelled _)).bind fun _ _ => ih left

/-- The failures of waiting for all faults are those of a test. -/
theorem awaitFaults_ends (hfails : HoldsTestFailures fails) (settings : SuiteSettings)
    (faults : List OutstandingFault) : (awaitFaults settings faults).FailsWith fails :=
  FailsWith.now.bind fun began _ => awaitRounds_ends hfails settings began settings.patience faults

namespace TestRun

variable {r : TestRun} {next : TestState}

/-- A change of state that is allowed is not refused. -/
theorem enter_ends (h : r.state = next ∨ r.state.allows next = true) :
    (r.enter next).Ends fails fun r' => r' = { r with state := next } := by
  rw [enter]
  split
  · next hsame =>
    subst hsame
    exact Ends.pure rfl
  · next hother =>
    rw [if_pos (h.resolve_left hother)]
    exact (FailsWith.note _).bind fun _ _ => Ends.pure rfl

/-- Once a test has waited for its faults, none is left, and nothing else about it has changed. -/
theorem settle_ends (hfails : HoldsTestFailures fails) (settings : SuiteSettings) (r : TestRun) :
    (r.settle settings).Ends fails fun r' => r' = { r with outstanding := [] } :=
  (awaitFaults_ends hfails settings r.outstanding).bind fun _ _ => Ends.pure rfl

/-- A step that is taken in one of the states for steps leads to such a state. -/
theorem take_ends (hfails : HoldsTestFailures fails) (settings : SuiteSettings) (step : PlanStep)
    (hstate : r.state.takesSteps = true) : (r.take settings step).Ends fails fun r' =>
      r'.state.takesSteps = true ∧ r'.test = r.test := by
  refine (enter_ends (TestState.allows_stateOf hstate step)).bind ?_
  rintro _ rfl
  refine (FailsWith.note _).bind fun _ _ => ?_
  cases step with
  | injectFault description fault =>
    exact (FailsWith.submitFault fault).bind fun _ _ => Ends.pure ⟨rfl, rfl⟩
  | awaitFaults description =>
    refine (settle_ends hfails settings _).mono ?_
    rintro _ rfl
    exact ⟨rfl, rfl⟩
  | awaitDuration description duration =>
    exact (FailsWith.sleep duration (hfails.cancelled description)).bind fun _ _ =>
      Ends.pure ⟨rfl, rfl⟩

/-- Steps leave a test in a state in which more steps could be taken. -/
theorem takeAll_ends (hfails : HoldsTestFailures fails) (settings : SuiteSettings)
    (steps : List PlanStep) (hstate : r.state.takesSteps = true) :
    (takeAll settings steps r).Ends fails fun r' =>
      r'.state.takesSteps = true ∧ r'.test = r.test := by
  induction steps generalizing r with
  | nil => exact Ends.pure ⟨hstate, rfl⟩
  | cons step rest ih =>
    refine (take_ends hfails settings step hstate).bind ?_
    rintro r' ⟨hstate', htest⟩
    rw [← htest]
    exact ih hstate'

/-- In the end a test waits. -/
theorem finishWaiting_ends (hfails : HoldsTestFailures fails) (settings : SuiteSettings)
    (hstate : r.state.takesSteps = true) : (r.finishWaiting settings).Ends fails fun r' =>
      r'.state = .waiting ∧ r'.test = r.test := by
  rw [finishWaiting]
  split
  · next hdone => exact Ends.pure ⟨hdone.1, rfl⟩
  · refine (enter_ends (TestState.allows_waiting hstate)).bind ?_
    rintro _ rfl
    refine (settle_ends hfails settings _).mono ?_
    rintro _ rfl
    exact ⟨rfl, rfl⟩

/-- A judgement gets past the grace period in the state of the checks. -/
theorem prepare_ends (hfails : HoldsTestFailures fails) (settings : SuiteSettings)
    (hstate : r.state = .waiting) :
    (r.prepare settings).Ends fails fun r' => r'.state = .healthChecking := by
  have hallowed : r.state = .healthChecking ∨ r.state.allows .healthChecking = true := by
    rw [hstate]
    exact .inr rfl
  refine (enter_ends hallowed).bind ?_
  rintro _ rfl
  dsimp only
  split
  · exact (FailsWith.sleep _ (hfails.cancelled _)).bind fun _ _ => Ends.pure rfl
  · exact Ends.pure rfl

/-- From the state of the checks both verdicts may be entered, so that the checks fail only as they
are told to. -/
theorem conclude_ends (pods : List PodUnderTest) (hstate : r.state = .healthChecking) :
    (r.conclude pods).FailsWith fails := by
  refine (runChecks_asks pods).failsWith.bind fun verdicts _ => ?_
  have hallowed : r.state = verdictState verdicts ∨
      r.state.allows (verdictState verdicts) = true := by
    rw [hstate, verdictState]
    split <;> exact .inr rfl
  exact (enter_ends hallowed).bind fun _ _ => Ends.pure trivial

/-- A test whose faults have completed may be judged, so that no state change of a judgement is
refused. -/
theorem judge_ends (hfails : HoldsTestFailures fails) (settings : SuiteSettings)
    (pods : List PodUnderTest) (hstate : r.state = .waiting) :
    (r.judge settings pods).FailsWith fails := by
  cases h : r.test.health.enabled with
  | true =>
    rw [judge_of_enabled h]
    exact (prepare_ends hfails settings hstate).bind fun _ => conclude_ends pods
  | false =>
    have hallowed : r.state = .passed ∨ r.state.allows .passed = true := by
      rw [hstate]
      exact .inr rfl
    rw [judge_of_not_enabled h]
    exact (enter_ends hallowed).bind fun _ _ => Ends.pure trivial

end TestRun

/-- A test fails with what it raises itself and with what it is told.  None of its changes of state
is refused. -/
theorem SuiteTest.run_ends (hfails : HoldsTestFailures fails) (settings : SuiteSettings)
    (test : SuiteTest) : (test.run settings).FailsWith fails := by
  refine (podsUnderTest_asks test.faults).failsWith.bind fun pods _ => ?_
  refine (TestRun.takeAll_ends hfails settings test.steps rfl).bind ?_
  rintro r ⟨hstate, -⟩
  refine (TestRun.finishWaiting_ends hfails settings hstate).bind ?_
  rintro r' ⟨hwaiting, -⟩
  exact TestRun.judge_ends hfails settings pods hwaiting

end Tests

/-! ## Suites -/

/-- A failure that does not say that no platform was called. -/
def Failure.IsLate (failure : Failure) : Prop := failure.isPreflight = false

/-- No failure of a test says that no platform was called. -/
theorem holdsTestFailures_isLate : HoldsTestFailures Failure.IsLate :=
  ⟨fun _ => rfl, fun _ _ => rfl⟩

/-- A wait can be cancelled at any time. -/
theorem sleep_ends (duration : Duration) (operation : String) :
    (Run.sleep duration operation).FailsWith Failure.IsLate :=
  FailsWith.sleep duration rfl

/-- The failure with which a test aborts its suite does not say that no platform was called. -/
def SuiteProgress.EndsLate (progress : SuiteProgress) : Prop :=
  ∀ failure, progress.ending = .aborted failure → failure.IsLate

/-- Tests in order never fail by themselves: the failure of a test is how they stop. -/
theorem runTests_ends (settings : SuiteSettings) (tests : List SuiteTest)
    (artifacts : List Artifact) :
    (runTests settings artifacts tests).Ends Failure.IsLate SuiteProgress.EndsLate := by
  induction tests generalizing artifacts with
  | nil => exact Ends.pure fun failure h => by cases h
  | cons test rest ih =>
    have hrun := SuiteTest.run_ends holdsTestFailures_isLate settings test
    refine hrun.attempt.bind fun result hresult => ?_
    cases result with
    | error failure =>
      -- The suite is aborted with the failure of its test.
      refine Ends.pure fun other h => ?_
      cases h
      exact hresult
    | ok artifact =>
      dsimp only
      split
      · exact ih _
      · exact Ends.pure fun failure h => by cases h

/-- A suite never says that no platform was called. -/
theorem runSuite_ends (settings : SuiteSettings) (tests : List SuiteTest) :
    (runSuite settings tests).FailsWith Failure.IsLate := by
  refine (runTests_ends settings tests []).bind fun progress hprogress => ?_
  cases hending : progress.ending with
  | complete => exact (FailsWith.persist _).bind fun _ _ => Ends.pure trivial
  | failedTest left => exact (FailsWith.persist _).bind fun _ _ => Ends.pure trivial
  | aborted failure =>
    exact (FailsWith.persist _).attempt.bind fun _ _ => Ends.fail (hprogress failure hending)

end DevnetChaos
