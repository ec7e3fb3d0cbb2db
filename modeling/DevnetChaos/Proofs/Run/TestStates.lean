import DevnetChaos.Proofs.Run.Endings
import DevnetChaos.Proofs.Run.Judgement

/-!
# The states of a test

A test writes down every change of its state, so its history tells the state that it has come to.
The states follow the table of allowed changes whatever the steps of the test are and whatever it is
told: it comes to its checks only from waiting, when none of its faults is at work any more, and to
a verdict only by them, or straight from waiting if it asks for no checks.

Main definitions:

- `stateReached`, `completions`: the state of a test and the completed faults, read off its history.
- `FaultsOver`: a history in which no fault is at work any more.
- `SuiteTest.MayChange`: a change of state that a test may make after a history.
- `Tally`: what a history tells about a test.
- `SuiteTest.KeepsStates`: what holds of the states along a history.

Main results:

- `Tally.accept`, `Tally.pending`, `Tally.complete`, `Tally.change`, `Tally.idle`: one exchange.
- `TestRun.take_tally`, `TestRun.takeAll_tally`: a step, and any number of steps.
- `TestRun.judge_tally`: the checks and the verdict.
- `SuiteTest.run_states`: the states of a test on every path.
-/

namespace DevnetChaos

open Run Simulation

/-! ## What a history tells -/

/-- The state that a test goes over to. -/
def Exchange.entered? : Exchange → Option TestState
  | ⟨.note (.testState _ _ next), _⟩ => some next
  | _ => none

/-- The handle of a fault that is reported complete. -/
def Exchange.completed? : Exchange → Option FaultHandle
  | ⟨.faultStatus handle, some (.ok .complete)⟩ => some handle
  | _ => none

/-- The state that a test has come to. -/
def stateReached (exchanges : List Exchange) : TestState :=
  (exchanges.filterMap Exchange.entered?).getLast?.getD .pending

/-- The handles of the faults that were reported complete, in order. -/
def completions (exchanges : List Exchange) : List FaultHandle :=
  exchanges.filterMap Exchange.completed?

/-- No fault is at work any more: each handle was reported complete as often as it was given. -/
def FaultsOver (exchanges : List Exchange) : Prop :=
  (handlesGiven exchanges).Perm (completions exchanges)

/-- The last thing in a history are checks of pods, with verdicts that are all good or not. -/
def EndsChecked (exchanges : List Exchange) (good : Bool) : Prop :=
  ∃ earlier checking pods verdicts, exchanges = earlier ++ checking ∧
    Path (runChecks pods) checking (.done verdicts) ∧ verdicts.all (·.healthy) = good

/-- A state change is the state reached, and every other exchange leaves it. -/
theorem stateReached_concat (past : List Exchange) (x : Exchange) :
    stateReached (past ++ [x]) = x.entered?.getD (stateReached past) := by
  unfold stateReached
  cases h : x.entered? <;> simp [h]

/-- An exchange adds the handle that it says has completed, if it does. -/
theorem completions_concat (past : List Exchange) (x : Exchange) :
    completions (past ++ [x]) = completions past ++ x.completed?.toList := by
  unfold completions
  cases h : x.completed? <;> simp [h]

/-! ## Changes of state -/

/-- Whether a call writes down a change of state. -/
def Call.isChange : Call → Bool
  | .note (.testState ..) => true
  | _ => false

/-- A change of state that a test may make after a history. -/
structure SuiteTest.MayChange (test : SuiteTest) (past : List Exchange) (name : String)
    (s next : TestState) : Prop where
  name : name = test.name
  /-- The test is in the state that it leaves. -/
  left : s = stateReached past
  allowed : s.allows next = true
  /-- Checks are made only if they are asked for, and when no fault is at work any more. -/
  healthChecking : next = .healthChecking →
    s = .waiting ∧ test.health.enabled = true ∧ FaultsOver past
  /-- A test passes by its checks, or without any if it asks for none. -/
  passed : next = .passed → s = .waiting ∧ test.health.enabled = false ∨
    s = .healthChecking ∧ EndsChecked past true
  /-- A test fails only by its checks. -/
  failed : next = .failed → s = .healthChecking ∧ EndsChecked past false

/-- A test makes only changes of state that it may make. -/
def SuiteTest.StateRule (test : SuiteTest) (past : List Exchange) (c : Call) : Prop :=
  ∀ name s next, c = .note (.testState name s next) → test.MayChange past name s next

variable {settings : SuiteSettings} {test : SuiteTest} {past : List Exchange} {s : TestState}
variable {awaited : List FaultHandle}

/-- What changes no state keeps to the rule. -/
theorem SuiteTest.StateRule.of_not_isChange {c : Call} (hc : c.isChange = false) :
    test.StateRule past c := by
  rintro name s next rfl
  cases hc

/-! ## The tally -/

/-- What a history tells about a test: its state, and the faults that were accepted and have not
been reported complete.  A platform may give a handle twice, hence the count. -/
structure Tally (s : TestState) (awaited : List FaultHandle) (past : List Exchange) : Prop where
  state : stateReached past = s
  awaited : (handlesGiven past).Perm (completions past ++ awaited)

namespace Tally

/-- A test begins as pending, with nothing to wait for. -/
theorem empty : Tally .pending [] [] := ⟨rfl, .nil⟩

/-- When nothing is waited for, all faults are over. -/
theorem faultsOver (h : Tally s [] past) : FaultsOver past := by
  have hgiven := h.awaited
  rw [List.append_nil] at hgiven
  exact hgiven

/-- An exchange that is neither about faults nor about the state changes nothing. -/
theorem idle (h : Tally s awaited past) {x : Exchange} (hfault : x.call.isFaultCall = false)
    (hchange : x.call.isChange = false) : Tally s awaited (past ++ [x]) := by
  have hnone : x.entered? = none ∧ x.handle? = none ∧ x.completed? = none := by
    obtain ⟨c, answer⟩ := x
    cases c with
    | submitFault | faultStatus => cases hfault
    | note entry =>
      cases entry with
      | line => exact ⟨rfl, rfl, rfl⟩
      | testState => cases hchange
    | _ => exact ⟨rfl, rfl, rfl⟩
  obtain ⟨hentered, hhandle, hcompleted⟩ := hnone
  constructor
  · rw [stateReached_concat, hentered]
    exact h.state
  · rw [handlesGiven_concat, completions_concat, hhandle, hcompleted]
    simpa using h.awaited

/-- A test that goes over to a state is in it. -/
theorem change (h : Tally s awaited past) (name : String) (next : TestState) :
    Tally next awaited (past ++ [⟨.note (.testState name s next), some ()⟩]) := by
  constructor
  · rw [stateReached_concat]
    rfl
  · rw [handlesGiven_concat, completions_concat]
    simpa [Exchange.handle?, Exchange.completed?] using h.awaited

/-- A fault that is accepted is awaited. -/
theorem accept (h : Tally s awaited past) (fault : Fault) (handle : FaultHandle) :
    Tally s (awaited ++ [handle]) (past ++ [⟨.submitFault fault, some (.ok handle)⟩]) := by
  constructor
  · rw [stateReached_concat]
    exact h.state
  · rw [handlesGiven_concat, completions_concat]
    simpa [Exchange.handle?, Exchange.completed?] using h.awaited.append_right [handle]

/-- A fault that is pending stays awaited. -/
theorem pending (h : Tally s awaited past) (handle : FaultHandle) :
    Tally s awaited (past ++ [⟨.faultStatus handle, some (.ok .pending)⟩]) := by
  constructor
  · rw [stateReached_concat]
    exact h.state
  · rw [handlesGiven_concat, completions_concat]
    simpa [Exchange.handle?, Exchange.completed?] using h.awaited

/-- A fault that has completed is no longer awaited. -/
theorem complete {first later : List FaultHandle} {handle : FaultHandle}
    (h : Tally s (first ++ handle :: later) past) :
    Tally s (first ++ later) (past ++ [⟨.faultStatus handle, some (.ok .complete)⟩]) := by
  constructor
  · rw [stateReached_concat]
    exact h.state
  · rw [handlesGiven_concat, completions_concat]
    have hmoved : (completions past ++ (first ++ handle :: later)).Perm
        (completions past ++ [handle] ++ (first ++ later)) := by
      rw [List.append_assoc]
      exact List.perm_middle.append_left (completions past)
    simpa [Exchange.handle?, Exchange.completed?] using h.awaited.trans hmoved

end Tally

/-- A run tallies if it makes only changes of state that a test may make, whatever it is told, and
its value and history have a property in the end. -/
abbrev SuiteTest.Tallies {α : Type} (test : SuiteTest) (r : Run α) (past : List Exchange)
    (Q : α → List Exchange → Prop) : Prop :=
  r.Upholds (fun _ _ => True) test.StateRule past Q

/-- Calls that are neither about faults nor about the state change nothing. -/
theorem Run.Only.tallies {α : Type} {r : Run α}
    (h : r.Only fun c => c.isFaultCall = false ∧ c.isChange = false)
    (htally : Tally s awaited past) :
    test.Tallies r past fun _ past' => Tally s awaited past' := by
  induction r generalizing past with
  | ended outcome =>
    cases outcome with
    | done a => exact htally
    | failed => trivial
    | abandoned => trivial
  | call c next ih =>
    obtain ⟨hfault, hchange⟩ := h.1
    exact ⟨.of_not_isChange hchange, fun answer _ =>
      ih answer (h.2 answer) (htally.idle hfault hchange)⟩

/-- Asking about pods changes nothing. -/
theorem Run.Asks.tallies {α : Type} {r : Run α} (h : r.Asks) (htally : Tally s awaited past) :
    test.Tallies r past fun _ past' => Tally s awaited past' := by
  refine (h.only.mono fun c hc => ?_).tallies htally
  cases c with
  | podsLabelled | pod => exact ⟨rfl, rfl⟩
  | _ => cases hc

/-- A wait changes no state and ends no fault. -/
theorem sleep_tally (htally : Tally s awaited past) (duration : Duration) (operation : String) :
    test.Tallies (Run.sleep duration operation) past fun _ past' => Tally s awaited past' :=
  (Only.sleep (fun _ => ⟨rfl, rfl⟩) duration operation).tallies htally

/-- A question to the clock changes no state and ends no fault. -/
theorem now_tally (htally : Tally s awaited past) :
    test.Tallies Run.now past fun _ past' => Tally s awaited past' :=
  Only.tallies (Only.ask ⟨rfl, rfl⟩ fun _ => .pure _) htally

/-! ## Waiting for faults -/

/-- The faults that a round of questions gives back are the ones that are awaited afterwards.
Faults that were asked about before in the round come first. -/
theorem pollFaults_tally {faults : List OutstandingFault} (kept : List FaultHandle)
    (htally : Tally s (kept ++ faults.map (·.handle)) past) :
    test.Tallies (pollFaults faults) past fun left past' =>
      Tally s (kept ++ left.map (·.handle)) past' := by
  induction faults generalizing kept past with
  | nil => exact Upholds.pure htally
  | cons f rest ih =>
    refine Upholds.bind (P := fun status past' =>
      past' = past ++ [⟨.faultStatus f.handle, some (.ok status)⟩]) ?_ ?_
    · refine Upholds.ask (.of_not_isChange rfl) fun answer _ => ?_
      cases answer with
      | error failure => trivial
      | ok status => rfl
    rintro status _ rfl
    cases status with
    | error reason => trivial
    | complete => exact ih kept htally.complete
    | pending =>
      have hkept : Tally s ((kept ++ [f.handle]) ++ rest.map (·.handle))
          (past ++ [⟨.faultStatus f.handle, some (.ok .pending)⟩]) := by
        simpa using htally.pending f.handle
      refine (ih (kept ++ [f.handle]) hkept).bind ?_
      intro left past' htally'
      exact Upholds.pure (by simpa using htally')

/-- The limit changes no state and ends no fault. -/
theorem checkLimit_tally (htally : Tally s awaited past) (began count : Nat) :
    test.Tallies (checkLimit settings began count) past fun _ past' => Tally s awaited past' := by
  rw [checkLimit]
  split
  · exact Upholds.pure htally
  · refine (now_tally htally).bind fun time past' htally' => ?_
    split
    · exact Upholds.fail
    · exact Upholds.pure htally'

/-- Once the rounds are over, nothing is left to wait for. -/
theorem awaitRounds_tally {faults : List OutstandingFault} {began patience : Nat}
    (htally : Tally s (faults.map (·.handle)) past) :
    test.Tallies (awaitRounds settings began patience faults) past fun _ past' =>
      Tally s [] past' := by
  induction patience generalizing faults past with
  | zero =>
    cases faults with
    | nil => exact Upholds.pure htally
    | cons => trivial
  | succ patience ih =>
    cases faults with
    | nil => exact Upholds.pure htally
    | cons f rest =>
      rw [awaitRounds]
      refine (pollFaults_tally [] htally).bind fun left past₁ htally₁ => ?_
      split
      · next hnone =>
        rw [List.isEmpty_iff.1 hnone] at htally₁
        exact Upholds.pure htally₁
      · refine (checkLimit_tally htally₁ began left.length).bind fun _ past₂ htally₂ => ?_
        exact (sleep_tally htally₂ _ _).bind fun _ past₃ => ih

/-- After a wait no fault is awaited. -/
theorem awaitFaults_tally {faults : List OutstandingFault}
    (htally : Tally s (faults.map (·.handle)) past) :
    test.Tallies (awaitFaults settings faults) past fun _ past' => Tally s [] past' :=
  (now_tally htally).bind fun _ _ => awaitRounds_tally

/-! ## Steps -/

namespace TestRun

variable {r : TestRun} {next : TestState}

/-- What a history tells about where a test is. -/
structure Told (test : SuiteTest) (r : TestRun) (past : List Exchange) : Prop where
  test : r.test = test
  tally : Tally r.state (r.outstanding.map (·.handle)) past

/-- At its start a test is pending and has no faults to wait for. -/
theorem Told.start (htally : Tally .pending [] past) : Told test (.start test) past := ⟨rfl, htally⟩

/-- A test goes over to another state by a change that it may make, or stays where it is. -/
theorem enter_tally (htold : r.Told test past)
    (hmay : r.state.allows next = true → test.MayChange past test.name r.state next) :
    test.Tallies (r.enter next) past fun r' past' =>
      r' = { r with state := next } ∧ Told test r' past' := by
  rw [enter]
  split
  · next hsame =>
    subst hsame
    exact Upholds.pure ⟨rfl, htold⟩
  · split
    · next hallowed =>
      refine Upholds.ask ?_ fun _ _ => ?_
      · rintro _ _ _ ⟨⟩
        rw [htold.test]
        exact hmay hallowed
      · exact Upholds.pure ⟨rfl, htold.test, htold.tally.change r.test.name next⟩
    · exact Upholds.fail

/-- To inject and to wait are changes that are always in order. -/
theorem enter_tally_of_takesSteps (htold : r.Told test past) (hnext : next.takesSteps = true) :
    test.Tallies (r.enter next) past fun r' past' =>
      r' = { r with state := next } ∧ Told test r' past' := by
  refine enter_tally htold fun hallowed => ?_
  exact {
    name := rfl
    left := htold.tally.state.symm
    allowed := hallowed
    healthChecking := by rintro rfl; cases hnext
    passed := by rintro rfl; cases hnext
    failed := by rintro rfl; cases hnext }

/-- A fault that is accepted is waited for from then on. -/
theorem inject_tally (htold : r.Told test past) (fault : Fault) :
    test.Tallies (r.inject fault) past (Told test) := by
  refine Upholds.bind (P := fun handle past' =>
    past' = past ++ [⟨.submitFault fault, some (.ok handle)⟩]) ?_ ?_
  · refine Upholds.ask (.of_not_isChange rfl) fun answer _ => ?_
    cases answer with
    | error failure => trivial
    | ok handle => rfl
  · rintro handle _ rfl
    exact Upholds.pure ⟨htold.test, by simpa using htold.tally.accept fault handle⟩

/-- A test that has waited for its faults has nothing to wait for. -/
theorem settle_tally (htold : r.Told test past) :
    test.Tallies (r.settle settings) past fun r' past' =>
      r' = { r with outstanding := [] } ∧ Told test r' past' :=
  (awaitFaults_tally htold.tally).bind fun _ _ htally => Upholds.pure ⟨rfl, htold.test, htally⟩

/-- A step leaves the test in the state that it was taken in, with the fault that it has
submitted. -/
theorem take_tally (htold : r.Told test past) (step : PlanStep) :
    test.Tallies (r.take settings step) past (Told test) := by
  refine (enter_tally_of_takesSteps htold (takesSteps_stateOf step)).bind ?_
  rintro r₁ past₁ ⟨-, htold₁⟩
  have hnote : (Run.note (.step step.description)).Only fun c =>
      c.isFaultCall = false ∧ c.isChange = false := Only.ask ⟨rfl, rfl⟩ fun _ => .pure _
  refine (hnote.tallies htold₁.tally).bind fun _ past₂ htally₂ => ?_
  have htold₂ : Told test r₁ past₂ := ⟨htold₁.test, htally₂⟩
  cases step with
  | injectFault description fault => exact inject_tally htold₂ fault
  | awaitFaults description => exact (settle_tally htold₂).mono fun _ _ h => h.2
  | awaitDuration description duration =>
    exact (sleep_tally htally₂ duration description).bind fun _ past₃ htally₃ =>
      Upholds.pure ⟨htold₁.test, htally₃⟩

/-- Steps in order leave what is known of a test in step with its history. -/
theorem takeAll_tally (htold : r.Told test past) (steps : List PlanStep) :
    test.Tallies (takeAll settings steps r) past (Told test) := by
  induction steps generalizing r past with
  | nil => exact Upholds.pure htold
  | cons step rest ih => exact (take_tally htold step).bind fun _ _ => ih

/-- In the end a test waits, and none of its faults is outstanding. -/
theorem finishWaiting_tally (htold : r.Told test past) :
    test.Tallies (r.finishWaiting settings) past fun r' past' =>
      r'.state = .waiting ∧ r'.outstanding = [] ∧ Told test r' past' := by
  rw [finishWaiting]
  split
  · next hdone => exact Upholds.pure ⟨hdone.1, hdone.2, htold⟩
  · refine (enter_tally_of_takesSteps htold rfl).bind ?_
    rintro _ past₁ ⟨rfl, htold₁⟩
    refine (settle_tally htold₁).mono ?_
    rintro _ past₂ ⟨rfl, htold₂⟩
    exact ⟨rfl, rfl, htold₂⟩

/-! ## The verdict -/

/-- A test that has come to a verdict says so. -/
def Verdict (artifact : Artifact) (exchanges : List Exchange) : Prop :=
  stateReached exchanges = .passed ∧ artifact.passed = true ∧
      artifact.verdicts.all (·.healthy) = true ∨
    stateReached exchanges = .failed ∧ artifact.passed = false ∧
      artifact.verdicts.all (·.healthy) = false

/-- The state of the checks is entered only after every fault is over. -/
theorem prepare_tally (htold : r.Told test past) (hstate : r.state = .waiting)
    (houtstanding : r.outstanding = []) (henabled : test.health.enabled = true) :
    test.Tallies (r.prepare settings) past fun r' past' =>
      r'.state = .healthChecking ∧ Told test r' past' := by
  have hover : FaultsOver past := by
    have htally := htold.tally
    rw [houtstanding] at htally
    exact htally.faultsOver
  have hmay : r.state.allows .healthChecking = true →
      test.MayChange past test.name r.state .healthChecking := fun hallowed => {
    name := rfl
    left := htold.tally.state.symm
    allowed := hallowed
    healthChecking := fun _ => ⟨hstate, henabled, hover⟩
    passed := by rintro ⟨⟩
    failed := by rintro ⟨⟩ }
  refine (enter_tally htold hmay).bind ?_
  rintro _ past₁ ⟨rfl, htold₁⟩
  dsimp only
  split
  · exact (sleep_tally htold₁.tally _ _).bind fun _ past₂ htally₂ =>
      Upholds.pure ⟨rfl, htold₁.test, htally₂⟩
  · exact Upholds.pure ⟨rfl, htold₁⟩

/-- The checks end with one verdict, entered from the state of the checks. -/
theorem conclude_tally (htold : r.Told test past) (hstate : r.state = .healthChecking)
    (pods : List PodUnderTest) :
    test.Tallies (r.conclude pods) past Verdict := by
  refine ((runChecks_asks pods).tallies htold.tally).along.bind ?_
  rintro verdicts past₁ ⟨htally₁, checking, rfl, hpath⟩
  have hchecked : ∀ good, verdicts.all (·.healthy) = good →
      EndsChecked (past ++ checking) good :=
    fun good hgood => ⟨past, checking, pods, verdicts, rfl, hpath, hgood⟩
  have htold₁ : Told test r (past ++ checking) := ⟨htold.test, htally₁⟩
  cases hgood : verdicts.all (·.healthy) with
  | true =>
    have hverdict : verdictState verdicts = .passed := by rw [verdictState, if_pos hgood]
    rw [hverdict]
    refine (enter_tally htold₁ fun hallowed => ⟨rfl, htally₁.state.symm, hallowed, ?_, ?_, ?_⟩).bind
      ?_
    · rintro ⟨⟩
    · exact fun _ => .inr ⟨hstate, hchecked true hgood⟩
    · rintro ⟨⟩
    · rintro _ past₂ ⟨rfl, htold₂⟩
      exact Upholds.pure (.inl ⟨htold₂.tally.state, by simp [artifact], hgood⟩)
  | false =>
    have hverdict : verdictState verdicts = .failed := by rw [verdictState, hgood]; rfl
    rw [hverdict]
    refine (enter_tally htold₁ fun hallowed => ⟨rfl, htally₁.state.symm, hallowed, ?_, ?_, ?_⟩).bind
      ?_
    · rintro ⟨⟩
    · rintro ⟨⟩
    · exact fun _ => ⟨hstate, hchecked false hgood⟩
    · rintro _ past₂ ⟨rfl, htold₂⟩
      exact Upholds.pure (.inr ⟨htold₂.tally.state, by simp [artifact], hgood⟩)

/-- A judgement ends with one verdict, and no fault is at work any more. -/
theorem judge_tally (htold : r.Told test past) (hstate : r.state = .waiting)
    (houtstanding : r.outstanding = []) (pods : List PodUnderTest) :
    test.Tallies (r.judge settings pods) past Verdict := by
  cases h : test.health.enabled with
  | true =>
    rw [judge_of_enabled (by rw [htold.test, h])]
    refine (prepare_tally htold hstate houtstanding h).bind ?_
    rintro r' past' ⟨hstate', htold'⟩
    exact conclude_tally htold' hstate' pods
  | false =>
    rw [judge_of_not_enabled (by rw [htold.test, h])]
    refine (enter_tally htold fun hallowed =>
      ⟨rfl, htold.tally.state.symm, hallowed, ?_, ?_, ?_⟩).bind ?_
    · rintro ⟨⟩
    · exact fun _ => .inl ⟨hstate, h⟩
    · rintro ⟨⟩
    · rintro _ past' ⟨rfl, htold'⟩
      exact Upholds.pure (.inl ⟨htold'.tally.state, by simp [artifact], rfl⟩)

end TestRun

/-! ## Whole tests -/

namespace SuiteTest

/-- A test makes only changes of state that it may make, and has come to its verdict in the end. -/
theorem run_tally (settings : SuiteSettings) (test : SuiteTest) :
    test.Tallies (test.run settings) [] TestRun.Verdict := by
  refine ((podsUnderTest_asks test.faults).tallies .empty).bind fun pods past₁ htally₁ => ?_
  refine (TestRun.takeAll_tally (.start htally₁) test.steps).bind fun r past₂ htold₂ => ?_
  refine (TestRun.finishWaiting_tally htold₂).bind ?_
  rintro r' past₃ ⟨hstate, houtstanding, htold₃⟩
  exact TestRun.judge_tally htold₃ hstate houtstanding pods

/-- What holds of the states of a test along its exchanges. -/
structure KeepsStates (test : SuiteTest) (exchanges : List Exchange) (outcome : Outcome Artifact) :
    Prop where
  /-- Every change of state is one that the test may make when it makes it. -/
  changes : ∀ before name s next answer after,
    exchanges = before ++ ⟨.note (.testState name s next), answer⟩ :: after →
      test.MayChange before name s next
  /-- A verdict is never left. -/
  verdictStays : ∀ before after, exchanges = before ++ after →
    (stateReached before).isVerdict = true → stateReached exchanges = stateReached before
  /-- No change of state is refused, unless the test is told of a refused one. -/
  neverRefused : (∀ x ∈ exchanges, ∀ source target,
      Failure.invalidTransition source target ∉ x.failure?) →
    ∀ source target, outcome ≠ .failed (.invalidTransition source target)
  /-- A test with an artifact has come to a verdict, which is that of the artifact. -/
  verdict : ∀ artifact, outcome = .done artifact → TestRun.Verdict artifact exchanges

variable {exchanges : List Exchange} {outcome : Outcome Artifact}

/-- No change leads away from a verdict. -/
theorem stateReached_append_of_isVerdict
    (h : Throughout (fun before x => test.StateRule before x.call) [] exchanges)
    {before after : List Exchange} (hsplit : exchanges = before ++ after)
    (hverdict : (stateReached before).isVerdict = true) :
    stateReached exchanges = stateReached before := by
  subst hsplit
  induction after using List.reverseRecOn with
  | nil => rw [List.append_nil]
  | append_singleton earlier x ih =>
    rw [← List.append_assoc] at h ⊢
    obtain ⟨hearlier, hx⟩ := throughout_concat.1 h
    rw [stateReached_concat, ih hearlier]
    obtain ⟨c, answer⟩ := x
    cases c with
    | note entry =>
      cases entry with
      | line => rfl
      | testState name s next =>
        have hmay := hx name s next rfl
        have hleft : s = stateReached before := hmay.left.trans (ih hearlier)
        have hallowed := hmay.allowed
        rw [hleft, TestState.allows_of_isVerdict hverdict] at hallowed
        cases hallowed
    | _ => rfl

/-- Whatever its steps are and whatever it is told, the states of a test follow the table. -/
theorem run_states (hpath : Path (test.run settings) exchanges outcome) :
    test.KeepsStates exchanges outcome := by
  obtain ⟨hrule, hverdict⟩ := (run_tally settings test).path hpath fun _ _ _ _ => trivial
  exact {
    changes := fun before name s next answer after hsplit =>
      hrule before _ after hsplit name s next rfl
    verdictStays := fun before after hsplit => stateReached_append_of_isVerdict hrule hsplit
    neverRefused := by
      intro htold source target houtcome
      have hfails : HoldsTestFailures fun failure =>
          ∀ source target, failure ≠ .invalidTransition source target :=
        ⟨fun _ _ _ => by simp, fun _ _ _ _ => by simp⟩
      refine ((run_ends hfails settings test).path hpath ?_).1 _ houtcome source target rfl
      rintro x hx failure hfailure source' target' rfl
      exact htold x hx source' target' hfailure
    verdict := hverdict }

/-- A restart beside a pod that has failed: the test waits, checks and fails. -/
theorem run_states_halfDown :
    ∃ exchanges outcome,
      Path ((Sample.restart (.on none)).run (.standard 5)) exchanges outcome ∧
      exchanges.filterMap Exchange.entered? = [.injecting, .waiting, .healthChecking, .failed] ∧
      (Sample.restart (.on none)).KeepsStates exchanges outcome := by
  have hpath := path_trace (World.respond ⟨0, false⟩)
    ((Sample.restart (.on none)).run (.standard 5)) Sample.halfDownWorld
  exact ⟨_, _, hpath, by decide +kernel, run_states hpath⟩

end SuiteTest
end DevnetChaos
