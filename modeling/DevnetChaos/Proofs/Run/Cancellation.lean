import DevnetChaos.Proofs.Run.Judgement
import DevnetChaos.Proofs.Run.Preflight

/-!
# Cancelled runs

Cancellation is noticed where a run waits, and nowhere else.  A run that is cancelled from the
beginning ends at its first wait, where it can only hand over the artifacts that it has, and goes on
as any other until then: it submits the faults of the steps that come before any wait, and none if
it waits before the injection or destroys an enclave.  While a network is built, an event may be
noticed before the cancellation, so that a build may be gone through.

Main definitions:

- `CutShort`, `Awake`: a cancelled wait, and a history without a wait but for events of a build.
- `Hasty`, `Run.Hurries`: what a cancelled run may call after a history, and a run that keeps to it.
- `ExperimentService.promptFaults`: the faults of an experiment that come before any wait.
- `ExperimentService.CancelledCourse`: what a cancelled experiment submits, and where it ends.

Main results:

- `sleep_hurries`, `Run.Observes.hurries`: no cancelled run gets past a wait.
- `EnclaveManager.prepare_hurries`, `TestRun.take_hurries`, `SuiteTest.run_hurries`,
  `runTests_hurries`: the stages of an experiment.
- `Simulation.World.trace_cutShort`: the waits of a cancelled run in a simulated deployment.
- `ExperimentService.start_cancelled`: the course of a cancelled experiment.
-/

namespace DevnetChaos

open Run Simulation

/-! ## Waits -/

def Call.isPause : Call → Bool
  | .pause _ => true
  | _ => false

def Call.isBuild : Call → Bool
  | .buildNetwork .. => true
  | _ => false

/-- Whether the events of a build are being watched: since the build was begun, there were only
waits and entries in the journal. -/
def watching (past : List Exchange) : Bool :=
  ((past.filter fun x => !x.call.isWatch).getLast?).any fun x => x.call.isBuild

/-- In a cancelled run every wait is cut short, save for those for the events of a build: of an
event and the cancellation either may be noticed first. -/
def CutShort (past : List Exchange) (x : Exchange) : Prop :=
  ∀ millis how, x = ⟨.pause millis, some how⟩ → watching past = false → how = .cancelled

/-- There was no wait so far, save for those for the events of a build. -/
def Awake (past : List Exchange) : Prop :=
  Throughout (fun before x => x.call.isPause = true → watching before = true) [] past

/-- What a cancelled run may call after a history: after a wait it only hands artifacts over; it
submits only the next planned fault, none once an enclave was destroyed, and destroys nothing once
it has submitted a fault. -/
structure Hasty (planned : List Fault) (past : List Exchange) (c : Call) : Prop where
  awake : c.artifacts? = none → Awake past
  undestroyed : ∀ fault, c = .submitFault fault → ∀ x ∈ past, x.call.isDestruction = false
  inOrder : ∀ fault, c = .submitFault fault → submitted past ++ [fault] <+: planned
  destroy : c.isDestruction = true → submitted past = []

variable {planned injected : List Fault} {past : List Exchange} {building : Bool} {c : Call}

/-- A history without a wait remains one by a call that is none. -/
theorem Awake.concat (h : Awake past) {x : Exchange} (hx : x.call.isPause = false) :
    Awake (past ++ [x]) :=
  throughout_concat.2 ⟨h, fun hpause => by rw [hx] at hpause; cases hpause⟩

/-- A history with a wait while no build is being watched. -/
theorem not_awake {after : List Exchange} {x : Exchange} (hpause : x.call.isPause = true)
    (hwatching : watching past = false) : ¬ Awake (past ++ x :: after) := by
  intro hawake
  have hwatched : watching past = true := hawake past x after rfl hpause
  rw [hwatching] at hwatched
  cases hwatched

/-- A build begins to be watched, and calls other than waits and entries in the journal end that. -/
theorem watching_concat (past : List Exchange) (x : Exchange) :
    watching (past ++ [x]) = if x.call.isWatch then watching past else x.call.isBuild := by
  unfold watching
  rw [List.filter_append]
  by_cases hx : x.call.isWatch = true <;> simp [hx]

/-- Calls that neither submit nor destroy are allowed as long as there was no wait. -/
theorem Hasty.of_neither (hawake : Awake past) (hsubmit : ∀ fault, c ≠ .submitFault fault)
    (hdestroy : c.isDestruction = false) : Hasty planned past c where
  awake _ := hawake
  undestroyed fault hc := absurd hc (hsubmit fault)
  inOrder fault hc := absurd hc (hsubmit fault)
  destroy h := by
    rw [hdestroy] at h
    cases h

/-- A history without a wait and without a destruction, in which some faults were submitted; whether
a build is being watched at its end is given. -/
structure Brisk (building : Bool) (injected : List Fault) (past : List Exchange) : Prop where
  watching : watching past = building
  awake : Awake past
  undestroyed : ∀ x ∈ past, x.call.isDestruction = false
  submitted : submitted past = injected

namespace Brisk

/-- At the beginning there was nothing. -/
theorem nil : Brisk false [] [] := ⟨rfl, throughout_nil, by simp, rfl⟩

/-- One more exchange, which is a wait only while a build is being watched. -/
theorem concat (h : Brisk building injected past) {x : Exchange} {next : Bool}
    (hnext : (if x.call.isWatch then building else x.call.isBuild) = next)
    (hpause : x.call.isPause = true → building = true) (hx : x.call.isDestruction = false) :
    Brisk next (injected ++ x.fault?.toList) (past ++ [x]) where
  watching := by rw [watching_concat, h.watching, hnext]
  awake := throughout_concat.2 ⟨h.awake, fun hcall => h.watching.trans (hpause hcall)⟩
  undestroyed := by simpa [or_imp, forall_and] using ⟨h.undestroyed, hx⟩
  submitted := by rw [submitted_concat, h.submitted]

/-- An exchange that submits nothing. -/
theorem keep (h : Brisk building injected past) {x : Exchange} {next : Bool}
    (hfault : x.fault? = none)
    (hnext : (if x.call.isWatch then building else x.call.isBuild) = next)
    (hpause : x.call.isPause = true → building = true) (hx : x.call.isDestruction = false) :
    Brisk next injected (past ++ [x]) := by
  have hconcat := h.concat hnext hpause hx
  rwa [hfault, Option.toList_none, List.append_nil] at hconcat

/-- As long as there was no wait, the next planned fault may be submitted. -/
theorem hasty_submitFault (h : Brisk building injected past) {fault : Fault}
    (hplanned : injected ++ [fault] <+: planned) : Hasty planned past (.submitFault fault) where
  awake _ := h.awake
  undestroyed _ _ := h.undestroyed
  inOrder := by
    rintro _ ⟨⟩
    rwa [h.submitted]
  destroy hdestroy := by cases hdestroy

/-- A fault that is submitted is counted, whatever the answer. -/
theorem submit (h : Brisk building injected past) (fault : Fault)
    (answer : Option (Except Failure FaultHandle)) :
    Brisk false (injected ++ [fault]) (past ++ [⟨.submitFault fault, answer⟩]) :=
  h.concat (x := ⟨.submitFault fault, answer⟩) rfl (fun hpause => by cases hpause) rfl

end Brisk

/-! ## The judgment -/

variable {α : Type} {r : Run α} {Q : α → List Exchange → Prop} {answer : c.Answer}

/-- A cancelled run submits only what it may, and its value and history have a property in the
end. -/
abbrev Run.Hurries (planned : List Fault) (r : Run α) (past : List Exchange)
    (Q : α → List Exchange → Prop) : Prop :=
  r.Upholds CutShort (Hasty planned) past Q

/-- A call that neither waits nor changes what a cancelled run goes by. -/
def Call.isAside : Call → Bool
  | .pause _ | .destroyEnclave _ | .buildNetwork .. | .submitFault _ => false
  | _ => true

/-- Such a call keeps a history without a wait one. -/
theorem Brisk.aside (h : Brisk false injected past) (hc : c.isAside = true) :
    Brisk false injected (past ++ [⟨c, some answer⟩]) := by
  cases c with
  | pause | destroyEnclave | buildNetwork | submitFault => cases hc
  | _ => exact h.keep rfl rfl (fun hpause => by cases hpause) rfl

/-- Such a call is allowed as long as there was no wait. -/
theorem Brisk.hasty_aside (h : Brisk building injected past) (hc : c.isAside = true) :
    Hasty planned past c := by
  cases c with
  | pause | destroyEnclave | buildNetwork | submitFault => cases hc
  | _ => exact .of_neither h.awake nofun rfl

/-- Other calls leave things as they are. -/
theorem hurries_of_only (h : r.Only fun c => c.isAside = true)
    (hbrisk : Brisk false injected past) :
    r.Hurries planned past fun _ past' => Brisk false injected past' := by
  induction r generalizing past with
  | ended outcome =>
    cases outcome with
    | done a => exact hbrisk
    | failed => trivial
    | abandoned => trivial
  | call c next ih =>
    refine ⟨hbrisk.hasty_aside h.1, fun answer _ => ?_⟩
    exact ih answer (h.2 answer) (hbrisk.aside h.1)

/-- No cancelled run gets past a wait. -/
theorem sleep_hurries (hwatching : watching past = false) (hawake : Awake past)
    (duration : Duration) (operation : String) :
    (Run.sleep duration operation).Hurries planned past fun _ _ => False := by
  refine Upholds.ask (.of_neither hawake nofun rfl) fun how hcut => ?_
  have hcancelled : how = .cancelled := hcut _ how rfl hwatching
  subst hcancelled
  trivial

/-- A run that observes without a wait leaves things as they are. -/
theorem Run.Observes.hurries (h : r.Observes) (hbrisk : Brisk false injected past) :
    r.Hurries planned past fun _ past' => Brisk false injected past' := by
  induction r generalizing past with
  | ended outcome =>
    cases outcome with
    | done a => exact hbrisk
    | failed => trivial
    | abandoned => trivial
  | call c next ih =>
    cases c with
    | pause millis =>
      refine ⟨.of_neither hbrisk.awake nofun rfl, fun how hcut => ?_⟩
      have hcancelled : how = .cancelled := hcut millis how rfl hbrisk.watching
      obtain ⟨failure, hfail⟩ := (h.2 how).1 (by rw [hcancelled]; rfl)
      rw [hfail]
      trivial
    | podsLabelled | pod | note =>
      refine ⟨.of_neither hbrisk.awake nofun rfl, fun answer _ => ?_⟩
      exact ih answer (h.2 answer).2 (hbrisk.aside rfl)
    | _ => cases h.1

/-! ## Preparing the enclave -/

namespace EnclaveManager

variable {m : EnclaveManager}

/-- Looking at an enclave takes no wait. -/
theorem inspect_hurries (hbrisk : Brisk false injected past) :
    m.inspect.Hurries planned past fun _ past' => Brisk false injected past' := by
  refine hurries_of_only (m.inspect_looks.mono fun c hc => ?_) hbrisk
  cases c with
  | enclaveExists | runningServices | publish => rfl
  | _ => cases hc

/-- No cancelled run gets past the delay after a destruction. -/
theorem destroyAndSettle_hurries (hbrisk : Brisk false [] past) :
    m.destroyAndSettle.Hurries planned past fun _ _ => False := by
  have hasty : Hasty planned past (.destroyEnclave m.enclave) :=
    ⟨fun _ => hbrisk.awake, nofun, nofun, fun _ => hbrisk.submitted⟩
  refine Upholds.bind (P := fun _ past' => Awake past') ?_ ?_
  · refine Upholds.ask hasty fun answer _ => ?_
    cases answer with
    | error failure => trivial
    | ok _ => exact hbrisk.awake.concat rfl
  · rintro _ past₁ hawake₁
    refine Upholds.bind (P := fun _ past' => watching past' = false ∧ Awake past') ?_ ?_
    · refine Upholds.ask (.of_neither hawake₁ nofun rfl) fun _ _ => ?_
      exact ⟨watching_concat past₁ _, hawake₁.concat rfl⟩
    · rintro _ past₂ ⟨hwatching, hawake₂⟩
      refine (sleep_hurries hwatching hawake₂ _ _).bind ?_
      rintro _ _ ⟨⟩

/-- While a build is watched, its events may be waited for. -/
theorem watch_hurries (h : r.Only fun c => c.isWatch = true) (hbrisk : Brisk true injected past) :
    r.Hurries planned past fun _ past' => Brisk true injected past' := by
  induction r generalizing past with
  | ended outcome =>
    cases outcome with
    | done a => exact hbrisk
    | failed => trivial
    | abandoned => trivial
  | call c next ih =>
    cases c with
    | pause | awaitCancellation | note =>
      refine ⟨.of_neither hbrisk.awake nofun rfl, fun answer _ => ih answer (h.2 answer) ?_⟩
      exact hbrisk.keep rfl rfl (fun _ => rfl) rfl
    | _ => cases h.1

/-- A build may be gone through, and counts for no wait. -/
theorem build_hurries (hbrisk : Brisk false injected past) :
    m.build.Hurries planned past fun _ past' => Brisk false injected past' := by
  refine Upholds.bind (P := fun _ past' => Brisk true injected past') ?_ ?_
  · refine Upholds.ask (.of_neither hbrisk.awake nofun rfl) fun answer _ => ?_
    cases answer with
    | error failure => trivial
    | ok stream => exact Upholds.pure (hbrisk.keep rfl rfl (fun hpause => by cases hpause) rfl)
  · rintro stream past₁ hbrisk₁
    refine (watch_hurries (stream.watch_only _) hbrisk₁).bind ?_
    rintro _ past₂ hbrisk₂
    refine Upholds.ask (.of_neither hbrisk₂.awake nofun rfl) fun answer _ => ?_
    exact Upholds.pure (hbrisk₂.keep rfl rfl (fun hpause => by cases hpause) rfl)

/-- Creating an enclave takes no wait but for the events of the build. -/
theorem createAndBuild_hurries (hbrisk : Brisk false injected past) :
    m.createAndBuild.Hurries planned past fun _ past' => Brisk false injected past' := by
  refine Upholds.bind (hurries_of_only (Only.ask rfl fun answer => .ofExcept answer) hbrisk) ?_
  rintro found past₁ hbrisk₁
  cases found with
  | true => exact Upholds.fail
  | false =>
    refine Upholds.bind (hurries_of_only (Only.ask rfl fun answer => .ofExcept answer) hbrisk₁) ?_
    rintro _ past₂ hbrisk₂
    refine Upholds.bind (hurries_of_only (Only.ask rfl fun _ => .pure _) hbrisk₂) ?_
    rintro _ past₃ hbrisk₃
    exact build_hurries hbrisk₃

/-- A devnet can only be made anew without a wait if there was no enclave. -/
theorem rebuild_hurries (hbrisk : Brisk false [] past) :
    m.rebuild.Hurries planned past fun _ past' => Brisk false [] past' := by
  refine Upholds.bind (hurries_of_only (Only.ask rfl fun answer => .ofExcept answer) hbrisk) ?_
  rintro existed past₁ hbrisk₁
  cases existed with
  | true => exact (destroyAndSettle_hurries hbrisk₁).bind fun _ _ hnever => hnever.elim
  | false => exact (createAndBuild_hurries hbrisk₁).bind fun _ _ hbrisk₂ => Upholds.pure hbrisk₂

/-- A preparation that comes to an end has neither waited nor destroyed anything. -/
theorem prepare_hurries (hbrisk : Brisk false [] past) (restart : Bool) :
    (m.prepare restart).Hurries planned past fun _ past' => Brisk false [] past' := by
  cases restart with
  | true => exact (rebuild_hurries hbrisk).bind fun _ _ hbrisk' => Upholds.pure hbrisk'
  | false =>
    refine (inspect_hurries hbrisk).bind ?_
    rintro observation past₁ hbrisk₁
    rw [prepareFrom]
    split
    · exact (createAndBuild_hurries hbrisk₁).bind fun _ _ hbrisk₂ => Upholds.pure hbrisk₂
    · exact (build_hurries hbrisk₁).bind fun _ _ hbrisk₂ => Upholds.pure hbrisk₂
    · have hpublish : (Run.publish (.attached m.enclave)).Only fun c => c.isAside = true :=
        Only.ask rfl fun _ => .pure _
      exact (hurries_of_only hpublish hbrisk₁).bind fun _ _ hbrisk₂ => Upholds.pure hbrisk₂
    · exact Upholds.fail

end EnclaveManager

/-! ## Tests -/

/-- Whether a step lets some time pass. -/
def PlanStep.isTimedWait : PlanStep → Bool
  | .awaitDuration .. => true
  | _ => false

/-- The faults of the steps before the first that lets some time pass. -/
def PlanStep.promptFaults (steps : List PlanStep) : List Fault :=
  (steps.takeWhile fun step => !step.isTimedWait).filterMap PlanStep.fault?

/-- A step that lets time pass is the last one that counts. -/
theorem PlanStep.promptFaults_cons (step : PlanStep) (rest : List PlanStep) :
    PlanStep.promptFaults (step :: rest) =
      if step.isTimedWait then [] else step.fault?.toList ++ PlanStep.promptFaults rest := by
  unfold promptFaults
  rw [List.takeWhile_cons]
  cases hwait : step.isTimedWait with
  | true => rfl
  | false => cases hfault : step.fault? <;> simp [hfault]

namespace SuiteTest

/-- Whether the pods of a test are given time before they are checked. -/
def hasGrace (settings : SuiteSettings) (test : SuiteTest) : Bool :=
  test.health.enabled && test.health.gracePeriod.getD settings.gracePeriod ≠ .zero

/-- Whether a test cannot be gone through without a wait. -/
def mustWait (settings : SuiteSettings) (test : SuiteTest) : Bool :=
  test.steps.any PlanStep.isTimedWait || test.hasGrace settings

end SuiteTest

variable {settings : SuiteSettings}

/-- Questions about faults take no time, and no cancelled run gets past a wait between them. -/
theorem awaitRounds_hurries (hbrisk : Brisk false injected past) (started patience : Nat)
    (faults : List OutstandingFault) :
    (awaitRounds settings started patience faults).Hurries planned past fun _ past' =>
      Brisk false injected past' := by
  cases faults with
  | nil => cases patience <;> exact Upholds.pure hbrisk
  | cons f rest =>
    cases patience with
    | zero => trivial
    | succ patience =>
      have hasks : (pollFaults (f :: rest)).Only fun c => c.isAside = true :=
        (pollFaults_asks _).mono fun c hc => by
          cases c with
          | faultStatus => rfl
          | _ => cases hc
      refine (hurries_of_only hasks hbrisk).bind ?_
      rintro left past₁ hbrisk₁
      split
      · exact Upholds.pure hbrisk₁
      · have hlimit : (checkLimit settings started left.length).Only fun c => c.isAside = true := by
          rw [checkLimit]
          split
          · exact .pure ()
          · refine Only.bind (Only.ask rfl fun _ => .pure _) fun time => ?_
            split
            · exact .fail _
            · exact .pure ()
        refine (hurries_of_only hlimit hbrisk₁).bind ?_
        rintro _ past₂ hbrisk₂
        refine (sleep_hurries hbrisk₂.watching hbrisk₂.awake _ _).bind ?_
        rintro _ _ ⟨⟩

/-- A cancelled run that has waited for faults did so without a pause. -/
theorem awaitFaults_hurries (hbrisk : Brisk false injected past) (faults : List OutstandingFault) :
    (awaitFaults settings faults).Hurries planned past fun _ past' =>
      Brisk false injected past' := by
  refine Upholds.bind (hurries_of_only (Only.ask rfl fun _ => .pure _) hbrisk) ?_
  rintro started past₁ hbrisk₁
  exact awaitRounds_hurries hbrisk₁ started settings.patience faults

namespace TestRun

variable {r : TestRun}

/-- A test that has waited for its faults did so without a pause. -/
theorem settle_hurries (hbrisk : Brisk false injected past) :
    (r.settle settings).Hurries planned past fun _ past' => Brisk false injected past' :=
  (awaitFaults_hurries hbrisk r.outstanding).bind fun _ _ hbrisk' => Upholds.pure hbrisk'

/-- A step that is gone through lets no time pass, and submits its fault if it has one. -/
theorem take_hurries {step : PlanStep} (hbrisk : Brisk false injected past)
    (hplanned : injected ++ step.fault?.toList <+: planned) :
    (r.take settings step).Hurries planned past fun _ past' =>
      step.isTimedWait = false ∧ Brisk false (injected ++ step.fault?.toList) past' := by
  refine ((enter_observes (stateOf step) r).hurries hbrisk).bind ?_
  rintro r₁ past₁ hbrisk₁
  refine ((Observes.note _).hurries hbrisk₁).bind ?_
  rintro _ past₂ hbrisk₂
  cases step with
  | injectFault description fault =>
    refine Upholds.bind (P := fun _ past' => Brisk false (injected ++ [fault]) past') ?_ ?_
    · refine Upholds.ask (hbrisk₂.hasty_submitFault hplanned) fun answer _ => ?_
      cases answer with
      | error failure => trivial
      | ok handle => exact Upholds.pure (hbrisk₂.submit fault _)
    · rintro handle past₃ hbrisk₃
      exact Upholds.pure ⟨rfl, hbrisk₃⟩
  | awaitFaults description =>
    refine (settle_hurries hbrisk₂).mono ?_
    rintro _ past₃ hbrisk₃
    rw [← List.append_nil injected] at hbrisk₃
    exact ⟨rfl, hbrisk₃⟩
  | awaitDuration description duration =>
    refine (sleep_hurries hbrisk₂.watching hbrisk₂.awake _ _).bind ?_
    rintro _ _ ⟨⟩

/-- Steps that are gone through let no time pass, and submit their faults. -/
theorem takeAll_hurries {steps : List PlanStep} (hbrisk : Brisk false injected past)
    (hplanned : injected ++ PlanStep.promptFaults steps <+: planned) :
    (takeAll settings steps r).Hurries planned past fun _ past' =>
      steps.any PlanStep.isTimedWait = false ∧
        Brisk false (injected ++ PlanStep.promptFaults steps) past' := by
  induction steps generalizing r injected past with
  | nil =>
    refine Upholds.pure ⟨rfl, ?_⟩
    rwa [PlanStep.promptFaults, List.takeWhile_nil, List.filterMap_nil, List.append_nil]
  | cons step rest ih =>
    rw [PlanStep.promptFaults_cons] at hplanned ⊢
    have hfirst : injected ++ step.fault?.toList <+: planned := by
      cases hwait : step.isTimedWait with
      | true =>
        cases step with
        | awaitDuration => simpa [hwait, PlanStep.fault?] using hplanned
        | _ => cases hwait
      | false =>
        rw [hwait, if_neg (by simp), ← List.append_assoc] at hplanned
        exact (List.prefix_append _ _).trans hplanned
    refine (take_hurries hbrisk hfirst).bind ?_
    rintro r' past' ⟨hwait, hbrisk'⟩
    rw [hwait, if_neg (by simp), ← List.append_assoc] at hplanned ⊢
    rw [List.any_cons, hwait, Bool.false_or]
    exact ih hbrisk' hplanned

/-- The faults that no step has waited for have completed without a pause. -/
theorem finishWaiting_hurries (hbrisk : Brisk false injected past) :
    (r.finishWaiting settings).Hurries planned past fun _ past' => Brisk false injected past' := by
  rw [finishWaiting]
  split
  · exact Upholds.pure hbrisk
  · refine ((enter_observes .waiting r).hurries hbrisk).bind ?_
    rintro r' past₁ hbrisk₁
    exact settle_hurries hbrisk₁

/-- No cancelled test with a grace period is judged. -/
theorem judge_hurries (hbrisk : Brisk false injected past) (pods : List PodUnderTest) :
    (r.judge settings pods).Hurries planned past fun _ past' =>
      r.test.hasGrace settings = false ∧ Brisk false injected past' := by
  cases hgrace : r.test.hasGrace settings with
  | false => exact ((judge_observes settings pods r).hurries hbrisk).mono fun _ _ h => ⟨rfl, h⟩
  | true =>
    rw [SuiteTest.hasGrace, Bool.and_eq_true, decide_eq_true_eq] at hgrace
    rw [judge_of_enabled hgrace.1, prepare, Run.bind_assoc]
    refine (((enter_observes _ r).hurries hbrisk).gives (enter_gives .healthChecking r)).bind ?_
    rintro _ past₁ ⟨rfl, hbrisk₁⟩
    dsimp only
    rw [if_pos hgrace.2, Run.bind_assoc]
    refine (sleep_hurries hbrisk₁.watching hbrisk₁.awake _ _).bind ?_
    rintro _ _ ⟨⟩

end TestRun

/-- A test that is gone through needs no wait, and submits all its faults. -/
theorem SuiteTest.run_hurries {test : SuiteTest} (hbrisk : Brisk false injected past)
    (hplanned : injected ++ PlanStep.promptFaults test.steps <+: planned) :
    (test.run settings).Hurries planned past fun _ past' =>
      test.mustWait settings = false ∧
        Brisk false (injected ++ PlanStep.promptFaults test.steps) past' := by
  refine ((podsUnderTest_observes test.faults).hurries hbrisk).bind ?_
  rintro pods past₁ hbrisk₁
  refine ((TestRun.takeAll_hurries hbrisk₁ hplanned).gives
    (TestRun.takeAll_gives settings test.steps (.start test))).bind ?_
  rintro r past₂ ⟨hr, hsteps, hbrisk₂⟩
  refine ((TestRun.finishWaiting_hurries hbrisk₂).gives
    (TestRun.finishWaiting_gives settings r)).bind ?_
  rintro r' past₃ ⟨hr', hbrisk₃⟩
  have hsame : r'.test = test := hr'.trans hr
  refine (TestRun.judge_hurries hbrisk₃ pods).mono ?_
  rintro _ past₄ ⟨hgrace, hbrisk₄⟩
  rw [hsame] at hgrace
  exact ⟨by rw [SuiteTest.mustWait, hsteps, hgrace, Bool.or_self], hbrisk₄⟩

/-! ## Suites -/

/-- The faults of tests that come before any wait. -/
def SuiteTest.promptFaults (settings : SuiteSettings) : List SuiteTest → List Fault
  | [] => []
  | test :: rest =>
      PlanStep.promptFaults test.steps ++
        if test.mustWait settings then [] else promptFaults settings rest

/-- Whatever becomes of the tests, no fault is submitted after a wait, and one that is cut short
aborts them. -/
theorem runTests_hurries {tests : List SuiteTest} (artifacts : List Artifact)
    (hbrisk : Brisk false injected past)
    (hplanned : injected ++ SuiteTest.promptFaults settings tests <+: planned) :
    (runTests settings artifacts tests).Hurries planned past fun progress past' =>
      (∀ failure, progress.ending ≠ .aborted failure) → Awake past' := by
  induction tests generalizing artifacts injected past with
  | nil => exact Upholds.pure fun _ => hbrisk.awake
  | cons test rest ih =>
    rw [SuiteTest.promptFaults, ← List.append_assoc] at hplanned
    have hfirst : injected ++ PlanStep.promptFaults test.steps <+: planned :=
      (List.prefix_append _ _).trans hplanned
    refine (SuiteTest.run_hurries hbrisk hfirst).attempt.bind ?_
    rintro result past₁ hrun
    cases result with
    | error failure => exact Upholds.pure fun hnone => absurd rfl (hnone failure)
    | ok artifact =>
      obtain ⟨hwait, hbrisk₁⟩ := hrun artifact rfl
      rw [hwait, if_neg (by simp)] at hplanned
      dsimp only
      split
      · exact ih _ hbrisk₁ hplanned
      · exact Upholds.pure fun _ => hbrisk₁.awake

/-- Artifacts may be handed over after a wait as well. -/
theorem persist_hurries (artifacts : List Artifact) :
    (Run.persist artifacts).Hurries planned past fun _ past' => Awake past → Awake past' := by
  refine Upholds.ask ⟨nofun, nofun, nofun, nofun⟩ fun answer _ => ?_
  cases answer with
  | error failure => trivial
  | ok _ => exact Upholds.pure fun hawake => hawake.concat rfl

/-- Once its tests are over, a suite hands over artifacts and nothing more, and one that comes to a
report has not waited. -/
theorem runSuite_hurries {tests : List SuiteTest} (hbrisk : Brisk false injected past)
    (hplanned : injected ++ SuiteTest.promptFaults settings tests <+: planned) :
    (runSuite settings tests).Hurries planned past fun _ past' => Awake past' := by
  refine (runTests_hurries [] hbrisk hplanned).bind ?_
  rintro ⟨artifacts, ending⟩ past₁ hended
  have hpersist : (Run.persist artifacts).Hurries planned past₁
      fun _ past' => Awake past₁ → Awake past' := persist_hurries artifacts
  cases ending with
  | complete => exact hpersist.bind fun _ _ hkept => Upholds.pure (hkept (hended nofun))
  | failedTest left => exact hpersist.bind fun _ _ hkept => Upholds.pure (hkept (hended nofun))
  | aborted failure => exact hpersist.attempt.bind fun _ _ _ => Upholds.fail

/-! ## Whole experiments -/

namespace ExperimentService

variable {s : ExperimentService} {exchanges : List Exchange} {outcome : Outcome SuiteReport}

/-- The wait between a ready devnet and the first test. -/
def wait (s : ExperimentService) : Duration :=
  s.experiment.waitBeforeInjection.getD s.suiteSettings.waitBeforeInjection

/-- The faults of an experiment that come before any wait. -/
def promptFaults (s : ExperimentService) : List Fault :=
  if s.wait ≠ .zero then [] else SuiteTest.promptFaults s.suiteSettings s.experiment.tests

/-- After its preparation, a cancelled experiment keeps to the faults that come before any wait. -/
theorem afterwards_hurries (hbrisk : Brisk false [] past) :
    s.afterwards.Hurries s.promptFaults past fun _ past' => Awake past' := by
  rw [promptFaults, afterwards]
  dsimp only
  rw [← wait]
  split
  · refine (sleep_hurries hbrisk.watching hbrisk.awake _ _).bind ?_
    rintro _ _ ⟨⟩
  · exact runSuite_hurries hbrisk (List.prefix_refl _)

/-- A cancelled experiment keeps to the faults that come before any wait, and has not waited if it
comes to a report. -/
theorem start_hurries (s : ExperimentService) :
    s.start.Hurries s.promptFaults [] fun _ past' => Awake past' := by
  cases h : s.experiment.validate with
  | error failure =>
    rw [start_refused h]
    exact Upholds.fail
  | ok =>
    obtain ⟨m, -, hstart⟩ := start_checked h
    rw [hstart]
    refine (EnclaveManager.prepare_hurries Brisk.nil s.experiment.startNewDevnet).bind ?_
    rintro _ past hbrisk
    exact afterwards_hurries hbrisk

/-- What a cancelled experiment does. -/
structure CancelledCourse (s : ExperimentService) (exchanges : List Exchange)
    (outcome : Outcome SuiteReport) : Prop where
  /-- Only the faults that come before any wait are submitted, in their order. -/
  inOrder : submitted exchanges <+: s.promptFaults
  /-- No fault is submitted after a wait, save for those for the events of a build. -/
  awake : ∀ before fault answer after,
    exchanges = before ++ ⟨.submitFault fault, answer⟩ :: after → Awake before
  /-- A wait ends the experiment, save for those for the events of a build: all that follows is that
  artifacts are handed over, and there is no report. -/
  ended : ∀ before x after, exchanges = before ++ x :: after → x.call.isPause = true →
    watching before = false →
      (∀ y ∈ after, y.call.artifacts?.isSome = true) ∧ ∀ report, outcome ≠ .done report
  /-- No fault is submitted when there is a wait before the injection. -/
  unhurried : s.wait ≠ .zero → submitted exchanges = []
  /-- No fault is submitted when an enclave is destroyed. -/
  destroyed : (∃ x ∈ exchanges, x.call.isDestruction = true) → submitted exchanges = []

/-- What keeps to the rule is the course of a cancelled experiment. -/
theorem cancelledCourse_of_hasty
    (h : Throughout (fun before x => Hasty s.promptFaults before x.call) [] exchanges)
    (hreport : ∀ report, outcome = .done report → Awake exchanges) :
    s.CancelledCourse exchanges outcome := by
  have hearlier : submitted exchanges <+: s.promptFaults :=
    submitted_prefix fun before x after heq => (h before x after heq).inOrder
  refine ⟨hearlier, ?_, ?_, fun hwait => ?_, ?_⟩
  · rintro before fault answer after rfl
    exact (h before _ after rfl).awake rfl
  · rintro before x after rfl hpause hwatching
    refine ⟨fun y hy => ?_, fun report hdone => ?_⟩
    · obtain ⟨between, rest, rfl⟩ := List.append_of_mem hy
      by_contra hother
      have hawake := (h (before ++ x :: between) y rest (by simp)).awake (by simpa using hother)
      exact not_awake hpause hwatching hawake
    · exact not_awake hpause hwatching (hreport report hdone)
  · rwa [promptFaults, if_pos hwait, List.prefix_nil] at hearlier
  · rintro ⟨x, hx, hdestroys⟩
    obtain ⟨before, after, rfl⟩ := List.append_of_mem hx
    have hbefore : submitted before = [] := (h before x after rfl).destroy hdestroys
    have hafter : submitted (x :: after) = [] := by
      refine List.filterMap_eq_nil_iff.2 fun y hy => ?_
      cases hfault : y.fault? with
      | none => rfl
      | some fault =>
        have hcall := Exchange.call_eq_of_fault? hfault
        rcases List.mem_cons.1 hy with rfl | hy
        · rw [hcall] at hdestroys
          cases hdestroys
        · obtain ⟨between, rest, rfl⟩ := List.append_of_mem hy
          have hnone := (h (before ++ x :: between) y rest (by simp)).undestroyed fault hcall x
            (by simp)
          rw [hnone] at hdestroys
          cases hdestroys
    rw [submitted, List.filterMap_append]
    exact List.append_eq_nil_iff.2 ⟨hbefore, hafter⟩

end ExperimentService

/-! ## Simulated deployments -/

namespace Simulation.World

variable {w : World} {caller : Caller}

/-- Tearing an enclave down cancels nothing. -/
theorem cancelledTokens_destroy (enclave : String) :
    (w.destroy enclave).2.cancelledTokens = w.cancelledTokens := by
  unfold destroy
  rcases w.host.destroy enclave with ⟨_ | services, host⟩
  · rfl
  · dsimp only
    split <;> rfl

/-- A build cancels nothing. -/
theorem cancelledTokens_build (enclave : String) (network : NetworkConfig) :
    (w.build enclave network).2.cancelledTokens = w.cancelledTokens := by
  unfold build
  split
  · rfl
  · rcases w.host.build enclave network with ⟨_ | built, host⟩ <;> rfl

/-- No call cancels a token or takes its cancellation back, as long as no appointment is kept. -/
theorem cancelledTokens_respondAtOnce (caller : Caller) (c : Call) :
    (respondAtOnce caller c w).2.cancelledTokens = w.cancelledTokens := by
  cases c with
  | enclaveExists enclave =>
    change (w.lookUp enclave).2.cancelledTokens = w.cancelledTokens
    unfold lookUp
    dsimp only
    split <;> rfl
  | destroyEnclave enclave => exact cancelledTokens_destroy enclave
  | buildNetwork enclave network => exact cancelledTokens_build enclave network
  | submitFault fault =>
    change (w.submit fault).2.cancelledTokens = w.cancelledTokens
    unfold submit
    rcases w.faults.submit fault with ⟨_ | accepted, faults⟩ <;> rfl
  | persist artifacts =>
    change (w.persist artifacts).2.cancelledTokens = w.cancelledTokens
    unfold persist
    split <;> rfl
  | publish n =>
    change (if caller.onBus then w.publish n else w).cancelledTokens = w.cancelledTokens
    split <;> rfl
  | _ => rfl

/-- A cancelled wait ends at once. -/
theorem respond_pause_of_isCancelled (hcancelled : w.isCancelled caller.token = true)
    (millis : Nat) : respond caller (.pause millis) w = (some .cancelled, w) := by
  change w.pause caller.token millis = (some .cancelled, w)
  simp [World.pause, wait, hcancelled]

/-- A cancelled token stays cancelled, whatever is called. -/
theorem isCancelled_respond (hcancelled : w.isCancelled caller.token = true) (c : Call) :
    (respond caller c w).2.isCancelled caller.token = true := by
  cases c with
  | pause millis => rwa [respond_pause_of_isCancelled hcancelled]
  | awaitCancellation =>
    change (w.awaitCancellation caller.token).2.isCancelled caller.token = true
    simp [World.awaitCancellation, wait, hcancelled]
  | _ =>
    change (respondAtOnce caller _ w).2.isCancelled caller.token = true
    rwa [isCancelled, cancelledTokens_respondAtOnce]

/-- All waits of a cancelled run are cut short. -/
theorem trace_cutShort {α : Type} (r : Run α) (hcancelled : w.isCancelled caller.token = true)
    (past : List Exchange) : Throughout CutShort past (r.trace (respond caller) w) := by
  induction r generalizing w past with
  | ended outcome => exact throughout_nil
  | call c next ih =>
    rw [trace]
    split
    · next answer w' hanswer =>
      have hcancelled' : w'.isCancelled caller.token = true := by
        have hstays := isCancelled_respond hcancelled c
        rwa [hanswer] at hstays
      refine throughout_cons.2 ⟨?_, ih answer hcancelled' _⟩
      rintro millis how heq -
      cases heq
      rw [respond_pause_of_isCancelled hcancelled] at hanswer
      cases hanswer
      rfl
    · exact throughout_cons.2 ⟨fun millis how heq => (by cases heq), throughout_nil⟩

end Simulation.World

namespace ExperimentService

/-- An experiment whose waits are cut short, save those for the events of a build, ends at its first
wait and submits only faults that come before any wait: none if there is a wait before the injection
or an enclave is destroyed, and otherwise first faults of the steps up to the first wait.  In every
simulated deployment all waits of a cancelled experiment are cut short. -/
theorem start_cancelled (s : ExperimentService) :
    (∀ exchanges outcome, Path s.start exchanges outcome → Throughout CutShort [] exchanges →
      s.CancelledCourse exchanges outcome) ∧
    ∀ (caller : Caller) (w : World), w.isCancelled caller.token = true →
      s.CancelledCourse (s.start.trace (World.respond caller) w) (w.carryOut caller s.start).1 := by
  have hpaths : ∀ exchanges outcome, Path s.start exchanges outcome →
      Throughout CutShort [] exchanges → s.CancelledCourse exchanges outcome := by
    intro exchanges outcome hpath hcut
    obtain ⟨hrule, hreport⟩ := s.start_hurries.path hpath hcut
    exact cancelledCourse_of_hasty hrule hreport
  refine ⟨hpaths, fun caller w hcancelled => ?_⟩
  exact hpaths _ _ (path_trace _ _ w) (World.trace_cutShort s.start hcancelled [])

/-- A deployment in which a network of three nodes runs, and whose current token is cancelled. -/
def cancelledWorld : World :=
  { World.running .standard "devnet"
      ["el-1-geth-teku", "cl-1-teku-geth", "el-2-besu-lighthouse", "cl-2-lighthouse-besu",
        "el-3-nethermind-prysm", "cl-3-prysm-nethermind"] with
    faults := { FaultEngine.empty with defaultScript := .pendingFor 1 }
    cancelledTokens := [0] }

/-- With a wait before the injection nothing is submitted there. -/
theorem start_cancelled_waiting :
    let prompt := single (Sample.podRestart ["el-1-geth-teku"])
    let waiting := { prompt with
      suiteSettings := { prompt.suiteSettings with waitBeforeInjection := .ofSeconds 600 } }
    prompt.CancelledCourse (prompt.start.trace (World.respond ⟨0, false⟩) cancelledWorld)
        (cancelledWorld.carryOut ⟨0, false⟩ prompt.start).1 ∧
      submitted (waiting.start.trace (World.respond ⟨0, false⟩) cancelledWorld) = [] := by
  intro prompt waiting
  have hcancelled : cancelledWorld.isCancelled (Caller.mk 0 false).token = true := rfl
  have hcut := World.trace_cutShort prompt.start hcancelled []
  have hwaits : waiting.wait ≠ .zero := by decide
  exact ⟨(start_cancelled prompt).1 _ _ (path_trace _ _ _) hcut,
    ((start_cancelled waiting).2 ⟨0, false⟩ cancelledWorld hcancelled).unhurried hwaits⟩

/-- A cancelled experiment that finds its devnet and is not to wait submits its first fault. -/
theorem start_cancelled_submits :
    cancelledWorld.isCancelled 0 = true ∧
      submitted ((single (Sample.podRestart ["el-1-geth-teku"])).start.trace
        (World.respond ⟨0, false⟩) cancelledWorld) = [Sample.podRestart ["el-1-geth-teku"]] := by
  decide +kernel

end ExperimentService
end DevnetChaos
