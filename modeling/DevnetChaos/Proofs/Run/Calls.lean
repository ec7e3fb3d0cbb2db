import DevnetChaos.Proofs.Run.FaultLedger

/-!
# The calls of a test

A test has three phases.  It finds its pods and judges them by observing alone, and in between it
works on its faults without asking about pods.

Main definitions:

- `Call.isWork`, `Call.isWaiting`: the calls with which a test works on its faults, and those with
  which it waits for them.
- `Run.Asks`: a run that asks about pods and does nothing else.
- `Call.SubmitsFrom`: a call that submits no fault but one of the given ones.

Main results:

- `podsUnderTest_asks`, `runChecks_asks`: finding pods and checking them.
- `podsUnderTest_observes`, `TestRun.judge_observes`: the first and the last phase.
- `TestRun.takeAll_only`, `TestRun.finishWaiting_only`: the phase in between.
- `SuiteTest.run_only`: no test makes a call of another kind.
- `SuiteTest.run_submits`: a test submits none but its own faults.
-/

namespace DevnetChaos

open Run

/-- A call about faults or the time, a wait or something written down. -/
def Call.isWork : Call → Bool
  | .submitFault _ | .faultStatus _ | .now | .pause _ | .note _ => true
  | _ => false

/-- A question about a fault or the time, or a wait: the calls with which a test waits for its
faults. -/
def Call.isWaiting : Call → Bool
  | .faultStatus _ | .now | .pause _ => true
  | _ => false

/-- Waiting for faults is a part of working on them. -/
theorem Call.isWork_of_isWaiting {c : Call} (h : c.isWaiting = true) : c.isWork = true := by
  cases c with
  | faultStatus | now | pause => rfl
  | _ => cases h

/-- Questions about the cluster are observations. -/
theorem Call.isObservation_of_isClusterQuery {c : Call} (h : c.isClusterQuery = true) :
    c.isObservation = true := by
  cases c with
  | podsLabelled | pod => rfl
  | _ => cases h

/-- A question about pods that does not fail stops nothing. -/
theorem Exchange.stops_eq_false {x : Exchange} (h : x.call.isClusterQuery = true)
    (hfailure : x.failure? = none) : x.stops = false := by
  obtain ⟨c, answer⟩ := x
  cases c with
  | podsLabelled | pod =>
    rcases answer with _ | _ | _
    · rfl
    · cases hfailure
    · rfl
  | _ => cases h

namespace Run

variable {α β : Type} {r : Run α}

/-- A run that only asks about pods, and that ends with the failure of a question if one fails. -/
def Asks : Run α → Prop
  | ended (.done _) => True
  | ended _ => False
  | call c next => c.isClusterQuery = true ∧ ∀ answer,
      match (Exchange.mk c (some answer)).failure? with
      | some failure => next answer = fail failure
      | none => (next answer).Asks

namespace Asks

theorem pure (a : α) : (Pure.pure a : Run α).Asks := trivial

theorem bind {f : α → Run β} (h : r.Asks) (hf : ∀ a, (f a).Asks) : (r >>= f).Asks := by
  induction r with
  | ended outcome =>
    cases outcome with
    | done a => exact hf a
    | failed => cases h
    | abandoned => cases h
  | call c next ih =>
    refine ⟨h.1, fun answer => ?_⟩
    have hanswer := h.2 answer
    cases hfailure : (Exchange.mk c (some answer)).failure? with
    | some failure =>
      rw [hfailure] at hanswer
      exact congrArg (Run.bind f) hanswer
    | none =>
      rw [hfailure] at hanswer
      exact ih answer hanswer

theorem podsLabelled (key value : String) : (Run.podsLabelled key value).Asks := by
  refine ⟨rfl, fun answer => ?_⟩
  cases answer with
  | error failure => exact rfl
  | ok names => exact trivial

theorem pod? (name : String) : (Run.pod? name).Asks := by
  refine ⟨rfl, fun answer => ?_⟩
  cases answer with
  | error failure => exact rfl
  | ok pod => exact trivial

/-- A run that asks makes no other calls. -/
theorem only (h : r.Asks) : r.Only fun c => c.isClusterQuery = true := by
  induction r with
  | ended => trivial
  | call c next ih =>
    refine ⟨h.1, fun answer => ?_⟩
    have hanswer := h.2 answer
    cases hfailure : (Exchange.mk c (some answer)).failure? with
    | some failure =>
      rw [hfailure] at hanswer
      rw [hanswer]
      trivial
    | none =>
      rw [hfailure] at hanswer
      exact ih answer hanswer

/-- A run that asks about pods observes, as it ends with the first failure that it is told. -/
theorem observes (h : r.Asks) : r.Observes := by
  induction r with
  | ended => trivial
  | call c next ih =>
    refine ⟨Call.isObservation_of_isClusterQuery h.1, fun answer => ?_⟩
    have hanswer := h.2 answer
    cases hfailure : (Exchange.mk c (some answer)).failure? with
    | some failure =>
      rw [hfailure] at hanswer
      rw [hanswer]
      exact ⟨fun _ => ⟨failure, rfl⟩, trivial⟩
    | none =>
      rw [hfailure] at hanswer
      refine ⟨fun hstops => ?_, ih answer hanswer⟩
      rw [Exchange.stops_eq_false h.1 hfailure] at hstops
      cases hstops

end Asks
end Run

/-! ## Finding pods -/

/-- Pods that are gone by now are passed over, and any other failure of the question is passed
on. -/
theorem addPods_asks (dies : Bool) (names : List String) (found : List PodUnderTest) :
    (addPods dies found names).Asks := by
  induction names generalizing found with
  | nil => exact .pure found
  | cons name rest ih =>
    rw [addPods]
    split
    · exact ih _
    · refine (Asks.pod? name).bind fun pod => ?_
      cases pod with
      | none => exact ih _
      | some pod => exact ih _

/-- Labels are looked up value by value. -/
theorem addLabelled_asks (dies : Bool) (key : String) (values : List String)
    (found : List PodUnderTest) : (addLabelled dies key found values).Asks := by
  induction values generalizing found with
  | nil => exact .pure found
  | cons value rest ih =>
    refine (Asks.podsLabelled key value).bind fun names => ?_
    exact (addPods_asks dies names found).bind fun found' => ih found'

/-- Only requirements that are lists of wanted values are looked up. -/
theorem addRequired_asks (dies : Bool) (requirements : List Requirement)
    (found : List PodUnderTest) : (addRequired dies found requirements).Asks := by
  induction requirements generalizing found with
  | nil => exact .pure found
  | cons r rest ih =>
    rw [addRequired]
    split
    · exact (addLabelled_asks dies r.key r.values found).bind fun found' => ih found'
    · exact ih found

/-- Faults are looked up one after another. -/
theorem addTargets_asks (faults : List Fault) (found : List PodUnderTest) :
    (addTargets found faults).Asks := by
  induction faults generalizing found with
  | nil => exact .pure found
  | cons fault rest ih =>
    have hfault := addRequired_asks fault.expectsDeath fault.selector found
    exact hfault.bind fun found' => ih found'

/-- Pods are found by asking. -/
theorem podsUnderTest_asks (faults : List Fault) : (podsUnderTest faults).Asks :=
  addTargets_asks faults []

/-- Finding the pods under test changes nothing. -/
theorem podsUnderTest_observes (faults : List Fault) : (podsUnderTest faults).Observes :=
  (podsUnderTest_asks faults).observes

/-! ## Judging -/

/-- Pods are judged one after another, each by one question. -/
theorem checkPods_asks (underTest : Bool) (names : List String) (verdicts : Verdicts) :
    (checkPods underTest verdicts names).Asks := by
  induction names generalizing verdicts with
  | nil => exact .pure verdicts
  | cons name rest ih =>
    rw [checkPods]
    split
    · exact ih verdicts
    · exact (Asks.pod? name).bind fun pod => ih _

/-- Of each service type among the pods under test, all pods are judged. -/
theorem checkServiceTypes_asks (pods : List PodUnderTest) (serviceTypes : List String)
    (verdicts : Verdicts) : (checkServiceTypes pods verdicts serviceTypes).Asks := by
  induction serviceTypes generalizing verdicts with
  | nil => exact .pure verdicts
  | cons serviceType rest ih =>
    refine (checkPods_asks true _ verdicts).bind fun verdicts₁ => ?_
    refine (Asks.podsLabelled serviceTypeLabel serviceType).bind fun names => ?_
    exact (checkPods_asks false _ verdicts₁).bind fun verdicts₂ => ih verdicts₂

/-- Pods are checked by asking. -/
theorem runChecks_asks (pods : List PodUnderTest) : (runChecks pods).Asks :=
  (checkServiceTypes_asks pods healthDimensions []).bind fun verdicts =>
    checkPods_asks true (survivors pods) verdicts

/-- Judging pods changes nothing. -/
theorem runChecks_observes (pods : List PodUnderTest) : (runChecks pods).Observes :=
  (runChecks_asks pods).observes

namespace TestRun

/-- A state change is only written down. -/
theorem enter_observes (next : TestState) (r : TestRun) : (r.enter next).Observes := by
  rw [enter]
  split
  · exact .pure r
  · split
    · exact (Observes.note _).bind fun _ => .pure _
    · exact .fail _

/-- Goes over to the health checks and waits before the first of them. -/
def prepare (settings : SuiteSettings) (r : TestRun) : Run TestRun := do
  let r ← r.enter .healthChecking
  let grace := r.test.health.gracePeriod.getD settings.gracePeriod
  if grace ≠ .zero then Run.sleep grace "health check grace period"
  return r

/-- Checks pods and judges the test by their health. -/
def conclude (pods : List PodUnderTest) (r : TestRun) : Run Artifact := do
  let verdicts ← runChecks pods
  let r ← r.enter (verdictState verdicts)
  return r.artifact verdicts pods

/-- With health checks a judgement has two parts: the state is entered and the pods are given time,
then they are looked at. -/
theorem judge_of_enabled {r : TestRun} (h : r.test.health.enabled = true)
    (settings : SuiteSettings) (pods : List PodUnderTest) :
    r.judge settings pods = r.prepare settings >>= conclude pods := by
  rw [judge, if_pos h, prepare, Run.bind_assoc]
  refine congrArg _ (funext fun r' => ?_)
  dsimp only
  split
  · rw [Run.bind_assoc]
    rfl
  · rfl

/-- Without health checks a test passes and no pod is looked at. -/
theorem judge_of_not_enabled {r : TestRun} (h : r.test.health.enabled = false)
    (settings : SuiteSettings) (pods : List PodUnderTest) :
    r.judge settings pods = do return (← r.enter .passed).artifact [] pods := by
  rw [judge, h]
  rfl

/-- What comes before the checks of a judgement changes nothing. -/
theorem prepare_observes (settings : SuiteSettings) (r : TestRun) :
    (r.prepare settings).Observes := by
  refine (enter_observes .healthChecking r).bind fun r' => ?_
  dsimp only
  split
  · exact (Observes.sleep _ _).bind fun _ => .pure _
  · exact .pure _

/-- The checks of a judgement change nothing. -/
theorem conclude_observes (pods : List PodUnderTest) (r : TestRun) :
    (r.conclude pods).Observes :=
  (runChecks_observes pods).bind fun verdicts =>
    (enter_observes (verdictState verdicts) r).bind fun _ => .pure _

/-- A test is judged by observing. -/
theorem judge_observes (settings : SuiteSettings) (pods : List PodUnderTest) (r : TestRun) :
    (r.judge settings pods).Observes := by
  cases h : r.test.health.enabled with
  | true =>
    rw [judge_of_enabled h]
    exact (prepare_observes settings r).bind (conclude_observes pods)
  | false =>
    rw [judge_of_not_enabled h]
    exact (enter_observes .passed r).bind fun _ => .pure _

end TestRun

/-! ## Working on faults -/

/-- A round of questions about faults is nothing else. -/
theorem pollFaults_asks (faults : List OutstandingFault) :
    (pollFaults faults).Only fun c => c.isStatusQuery = true := by
  induction faults with
  | nil => exact .pure []
  | cons f rest ih =>
    refine Only.bind (Only.ask rfl fun answer => .ofExcept answer) fun status => ?_
    cases status with
    | complete => exact ih
    | pending => exact ih.bind fun _ => .pure _
    | error reason => exact .fail _

/-- A look at the submitted faults is a part of waiting for them. -/
theorem pollFaults_only (faults : List OutstandingFault) :
    (pollFaults faults).Only fun c => c.isWaiting = true := by
  refine (pollFaults_asks faults).mono fun c hc => ?_
  cases c with
  | faultStatus => rfl
  | _ => cases hc

/-- The limit is a question to the clock. -/
theorem checkLimit_only (settings : SuiteSettings) (began count : Nat) :
    (checkLimit settings began count).Only fun c => c.isWaiting = true := by
  rw [checkLimit]
  split
  · exact .pure ()
  · refine Only.bind (Only.ask rfl fun _ => .pure _) fun time => ?_
    split
    · exact .fail _
    · exact .pure ()

/-- Between two looks at faults, a run that waits for them does nothing but wait. -/
theorem awaitRounds_only (settings : SuiteSettings) (began patience : Nat)
    (faults : List OutstandingFault) :
    (awaitRounds settings began patience faults).Only fun c => c.isWaiting = true := by
  induction patience generalizing faults with
  | zero => cases faults <;> trivial
  | succ patience ih =>
    cases faults with
    | nil => exact .pure ()
    | cons f rest =>
      rw [awaitRounds]
      refine (pollFaults_only (f :: rest)).bind fun left => ?_
      split
      · exact .pure ()
      · refine (checkLimit_only settings began left.length).bind fun _ => ?_
        exact (Only.sleep (fun _ => rfl) _ _).bind fun _ => ih left

/-- Waiting for faults takes questions about them, pauses and questions to the clock. -/
theorem awaitFaults_only (settings : SuiteSettings) (faults : List OutstandingFault) :
    (awaitFaults settings faults).Only fun c => c.isWaiting = true :=
  Only.bind (Only.ask rfl fun _ => .pure _) fun began =>
    awaitRounds_only settings began settings.patience faults

namespace TestRun

/-- A state change is written down, and so a part of the work. -/
theorem enter_only (next : TestState) (r : TestRun) :
    (r.enter next).Only fun c => c.isWork = true := by
  rw [enter]
  split
  · exact .pure r
  · split
    · exact Only.bind (Only.ask rfl fun _ => .pure _) fun _ => .pure _
    · exact .fail _

theorem settle_only (settings : SuiteSettings) (r : TestRun) :
    (r.settle settings).Only fun c => c.isWaiting = true :=
  (awaitFaults_only settings r.outstanding).bind fun _ => .pure _

/-- A step asks the cluster nothing. -/
theorem take_only (settings : SuiteSettings) (step : PlanStep) (r : TestRun) :
    (r.take settings step).Only fun c => c.isWork = true := by
  refine (enter_only (stateOf step) r).bind fun r' => ?_
  refine Only.bind (Only.ask rfl fun _ => .pure _) fun _ => ?_
  cases step with
  | injectFault description fault =>
    exact Only.bind (Only.ask rfl fun answer => .ofExcept answer) fun _ => .pure _
  | awaitFaults description =>
    exact (settle_only settings r').mono fun _ => Call.isWork_of_isWaiting
  | awaitDuration description duration =>
    exact (Only.sleep (fun _ => rfl) _ _).bind fun _ => .pure _

/-- No step asks about pods. -/
theorem takeAll_only (settings : SuiteSettings) (steps : List PlanStep) (r : TestRun) :
    (takeAll settings steps r).Only fun c => c.isWork = true := by
  induction steps generalizing r with
  | nil => exact .pure r
  | cons step rest ih => exact (take_only settings step r).bind fun r' => ih r'

/-- The wait for the faults that no step has waited for asks the cluster nothing. -/
theorem finishWaiting_only (settings : SuiteSettings) (r : TestRun) :
    (r.finishWaiting settings).Only fun c => c.isWork = true := by
  rw [finishWaiting]
  split
  · exact .pure r
  · refine (enter_only .waiting r).bind fun r' => ?_
    exact (settle_only settings r').mono fun _ => Call.isWork_of_isWaiting

end TestRun

/-- A test observes and works on its faults, and does nothing else. -/
theorem SuiteTest.run_only (settings : SuiteSettings) (test : SuiteTest) :
    (test.run settings).Only fun c => c.isObservation = true ∨ c.isWork = true := by
  refine Only.bind ((podsUnderTest_observes test.faults).only.mono fun _ => .inl) fun pods => ?_
  refine Only.bind ((TestRun.takeAll_only settings test.steps _).mono fun _ => .inr) fun r => ?_
  refine Only.bind ((TestRun.finishWaiting_only settings r).mono fun _ => .inr) fun r' => ?_
  exact (TestRun.judge_observes settings pods r').only.mono fun _ => .inl

/-! ## Faults that are submitted -/

/-- A call that submits no fault but one of the given ones. -/
def Call.SubmitsFrom (faults : List Fault) (c : Call) : Prop :=
  ∀ fault, c = .submitFault fault → fault ∈ faults

section SubmitsFrom

variable {faults : List Fault} {c : Call}

/-- A call that is not to the fault platform submits nothing. -/
theorem Call.SubmitsFrom.of_not_isFaultCall (h : c.isFaultCall = false) : c.SubmitsFrom faults := by
  rintro fault rfl
  cases h

theorem Call.SubmitsFrom.of_isObservation (h : c.isObservation = true) : c.SubmitsFrom faults :=
  of_not_isFaultCall (not_isFaultCall_of_isObservation h)

theorem Call.SubmitsFrom.of_isWaiting (h : c.isWaiting = true) : c.SubmitsFrom faults := by
  rintro fault rfl
  cases h

/-- What submits some faults at most submits others at most if those are among them. -/
theorem Call.SubmitsFrom.mono {others : List Fault} (h : c.SubmitsFrom faults)
    (hsub : faults ⊆ others) : c.SubmitsFrom others :=
  fun fault hc => hsub (h fault hc)

end SubmitsFrom

namespace TestRun

/-- A step submits its own fault at most. -/
theorem take_submits (settings : SuiteSettings) (step : PlanStep) (r : TestRun) :
    (r.take settings step).Only (Call.SubmitsFrom step.fault?.toList) := by
  refine Only.bind ((enter_observes _ r).only.mono fun _ => .of_isObservation) fun r' => ?_
  refine Only.bind ((Observes.note _).only.mono fun _ => .of_isObservation) fun _ => ?_
  cases step with
  | injectFault description fault =>
    refine Only.bind (Only.ask ?_ fun answer => .ofExcept answer) fun _ => .pure _
    rintro _ ⟨⟩
    exact List.mem_singleton_self fault
  | awaitFaults description => exact (settle_only settings r').mono fun _ => .of_isWaiting
  | awaitDuration description duration =>
    have hsleep : (Run.sleep duration description).Only fun c => c.isWaiting = true :=
      Only.sleep (fun _ => rfl) duration description
    exact Only.bind (hsleep.mono fun _ => .of_isWaiting) fun _ => .pure _

/-- Steps submit their own faults at most. -/
theorem takeAll_submits (settings : SuiteSettings) (steps : List PlanStep) (r : TestRun) :
    (takeAll settings steps r).Only (Call.SubmitsFrom (steps.filterMap PlanStep.fault?)) := by
  induction steps generalizing r with
  | nil => exact .pure r
  | cons step rest ih =>
    rw [List.filterMap_eq_flatMap_toList] at ih ⊢
    rw [List.flatMap_cons]
    refine Only.bind ((take_submits settings step r).mono fun _ h => ?_) fun r' => ?_
    · exact h.mono (List.subset_append_left ..)
    · exact (ih r').mono fun _ h => h.mono (List.subset_append_right ..)

end TestRun

/-- A test submits none but its own faults. -/
theorem SuiteTest.run_submits (settings : SuiteSettings) (test : SuiteTest) :
    (test.run settings).Only (Call.SubmitsFrom test.faults) := by
  have hpods := (podsUnderTest_observes test.faults).only
  refine Only.bind (hpods.mono fun _ => .of_isObservation) fun pods => ?_
  refine Only.bind (TestRun.takeAll_submits settings test.steps _) fun r => ?_
  have hwaits : (r.finishWaiting settings).Only (Call.SubmitsFrom test.faults) := by
    rw [TestRun.finishWaiting]
    split
    · exact .pure r
    · have henter := (TestRun.enter_observes .waiting r).only
      refine Only.bind (henter.mono fun _ => .of_isObservation) fun r' => ?_
      exact (TestRun.settle_only settings r').mono fun _ => .of_isWaiting
  refine Only.bind hwaits fun r' => ?_
  exact (TestRun.judge_observes settings pods r').only.mono fun _ => .of_isObservation

end DevnetChaos
