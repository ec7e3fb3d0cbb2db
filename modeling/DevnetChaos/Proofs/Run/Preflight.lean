import DevnetChaos.Proofs.Enclave.Discipline
import DevnetChaos.Proofs.Run.SuiteCourse
import DevnetChaos.Proofs.Simulation.Answers
import DevnetChaos.Run.ExperimentRun

/-!
# Failures before the first call

An experiment checks its faults before it calls anything, and once it has begun to call, no failure
says that it has not.  So whoever starts an experiment and is told of a failure can read off its
kind whether anything was done, and no fault is submitted that has not passed its check.

Main definitions:

- `Call.reachesOut`: a call that leaves something behind or asks a platform.
- `ExperimentService.afterwards`: an experiment after its preparation.

Main results:

- `Experiment.validate_eq_ok`, `Experiment.validate_eq_error`: what the check of an experiment says.
- `ExperimentService.start_refused`, `ExperimentService.start_checked`: an experiment whose faults
  are refused, and one whose faults pass.
- `ExperimentService.start_submits`: only faults that passed their check are submitted.
- `ExperimentService.isPreflight_iff`: what the failure of an experiment says about its calls.
- `ExperimentService.start_preflight`: a failure is one of the first kind exactly when no platform
  was called and no artifacts were handed over.
-/

namespace DevnetChaos

open Run Simulation

/-- A call to the platform that hosts enclaves or to the fault platform, or artifacts handed
over. -/
def Call.reachesOut (c : Call) : Bool :=
  c.isPlatformCall || c.isFaultCall || c.artifacts?.isSome

/-! ## The check of an experiment -/

/-- A selector that a fault cannot express is refused as such. -/
theorem ensureServiceIds_eq_error {fault : String} {requirements : List Requirement}
    {failure : Failure} (h : ensureServiceIds fault requirements = .error failure) :
    ∃ flaw, failure = .unsupportedSelector flaw := by
  rw [ensureServiceIds] at h
  split at h
  · cases h
    exact ⟨_, rfl⟩
  · split at h
    · cases h
      exact ⟨_, rfl⟩
    · cases h

/-- A fault is refused for its selector alone. -/
theorem Fault.validate_eq_error {fault : Fault} {failure : Failure}
    (h : fault.validate = .error failure) : ∃ flaw, failure = .unsupportedSelector flaw := by
  cases fault with
  | ioLatency selector => exact ensureServiceIds_eq_error h
  | clockSkew selector | podRestart selector | networkLatency selector | packetDrop selector =>
    simp only [validate] at h
    split at h
    · cases h
      exact ⟨_, rfl⟩
    · cases h

namespace SuiteTest

variable {test : SuiteTest}

/-- A test passes its check when each of its faults does. -/
theorem validate_eq_ok :
    test.validate = .ok () ↔ ∀ fault ∈ test.faults, fault.validate = .ok () := by
  rw [validate, forM_eq_ok]
  constructor
  · intro h fault hfault
    have hlocated := h fault hfault
    cases hvalid : fault.validate with
    | ok => rfl
    | error failure =>
      rw [hvalid] at hlocated
      cases hlocated
  · intro h fault hfault
    rw [h fault hfault]
    rfl

/-- The name of the test in front of a flaw leaves the kind of the failure as it is. -/
theorem validate_eq_error {failure : Failure} (h : test.validate = .error failure) :
    failure.isPreflight = true := by
  obtain ⟨fault, -, hlocated⟩ := forM_eq_error h
  cases hvalid : fault.validate with
  | ok =>
    rw [hvalid] at hlocated
    cases hlocated
  | error cause =>
    obtain ⟨flaw, rfl⟩ := Fault.validate_eq_error hvalid
    rw [hvalid] at hlocated
    cases hlocated
    rfl

end SuiteTest

namespace Experiment

variable {e : Experiment}

/-- The faults of all tests. -/
def faults (e : Experiment) : List Fault := e.tests.flatMap SuiteTest.faults

/-- An experiment passes its check when each of its faults does. -/
theorem validate_eq_ok :
    e.validate = .ok () ↔ ∀ fault ∈ e.faults, fault.validate = .ok () := by
  simp only [validate, forM_eq_ok, SuiteTest.validate_eq_ok, faults, List.mem_flatMap]
  constructor
  · intro h fault ⟨test, htest, hfault⟩
    exact h test htest fault hfault
  · intro h test htest fault hfault
    exact h fault ⟨test, htest, hfault⟩

/-- What the check finds is found before any call. -/
theorem validate_eq_error {failure : Failure} (h : e.validate = .error failure) :
    failure.isPreflight = true := by
  obtain ⟨test, -, htest⟩ := forM_eq_error h
  exact SuiteTest.validate_eq_error htest

end Experiment

/-! ## Faults of a suite -/

/-- Tests in order submit none but their own faults. -/
theorem runTests_submits (settings : SuiteSettings) (tests : List SuiteTest)
    (artifacts : List Artifact) :
    (runTests settings artifacts tests).Only
      (Call.SubmitsFrom (tests.flatMap SuiteTest.faults)) := by
  induction tests generalizing artifacts with
  | nil => exact .pure _
  | cons test rest ih =>
    rw [List.flatMap_cons]
    have hown := (test.run_submits settings).mono fun _ h =>
      h.mono (List.subset_append_left test.faults (rest.flatMap SuiteTest.faults))
    refine Only.bind hown.attempt fun result => ?_
    cases result with
    | error failure => exact .pure _
    | ok artifact =>
      dsimp only
      split
      · exact (ih _).mono fun _ h => h.mono (List.subset_append_right ..)
      · exact .pure _

/-- A suite submits none but the faults of its tests. -/
theorem runSuite_submits (settings : SuiteSettings) (tests : List SuiteTest) :
    (runSuite settings tests).Only (Call.SubmitsFrom (tests.flatMap SuiteTest.faults)) := by
  refine (runTests_submits settings tests []).bind fun progress => ?_
  have hpersist : (Run.persist progress.artifacts).Only
      (Call.SubmitsFrom (tests.flatMap SuiteTest.faults)) :=
    Only.ask (.of_not_isFaultCall rfl) fun answer => .ofExcept answer
  cases progress.ending with
  | complete => exact hpersist.bind fun _ => .pure _
  | failedTest left => exact hpersist.bind fun _ => .pure _
  | aborted failure => exact hpersist.attempt.bind fun _ => .fail _

namespace ExperimentService

variable {s : ExperimentService}

/-! ## The stages of an experiment -/

/-- There always is a manager, and it manages the enclave of the experiment. -/
theorem manager_isOk (s : ExperimentService) :
    ∃ m, s.manager = .ok m ∧ m.enclave = s.experiment.enclave :=
  ⟨_, EnclaveManager.ofNetwork_eq .., rfl⟩

/-- An experiment after its preparation. -/
def afterwards (s : ExperimentService) : Run SuiteReport := do
  let wait := s.experiment.waitBeforeInjection.getD s.suiteSettings.waitBeforeInjection
  if wait ≠ .zero then Run.sleep wait "wait before injection"
  runSuite s.suiteSettings s.experiment.tests

/-- An experiment whose faults are refused calls nothing. -/
theorem start_refused {failure : Failure} (h : s.experiment.validate = .error failure) :
    s.start = Run.fail failure := by
  rw [start, h]
  rfl

/-- An experiment whose faults pass the check is prepared and carried out. -/
theorem start_checked (h : s.experiment.validate = .ok ()) :
    ∃ m : EnclaveManager, m.enclave = s.experiment.enclave ∧
      s.start = m.prepare s.experiment.startNewDevnet >>= fun _ => s.afterwards := by
  obtain ⟨m, hm, henclave⟩ := s.manager_isOk
  refine ⟨m, henclave, ?_⟩
  rw [start, h, hm]
  rfl

/-- Past its preparation, an experiment does not fail as if it had called nothing. -/
theorem afterwards_ends (s : ExperimentService) : s.afterwards.FailsWith Failure.IsLate := by
  rw [afterwards]
  dsimp only
  split
  · exact (sleep_ends _ _).bind fun _ _ => runSuite_ends s.suiteSettings s.experiment.tests
  · exact runSuite_ends s.suiteSettings s.experiment.tests

/-- Past its preparation, an experiment submits none but its own faults. -/
theorem afterwards_submits (s : ExperimentService) :
    s.afterwards.Only (Call.SubmitsFrom s.experiment.faults) := by
  rw [afterwards]
  dsimp only
  split
  · refine Only.bind (Only.sleep (fun _ => .of_not_isFaultCall rfl) _ _) fun _ => ?_
    exact runSuite_submits s.suiteSettings s.experiment.tests
  · exact runSuite_submits s.suiteSettings s.experiment.tests

/-! ## Whole experiments -/

/-- An experiment whose faults pass the check asks about its enclave first, and none of its failures
says that no platform was called. -/
theorem start_begins (h : s.experiment.validate = .ok ()) :
    s.start.FailsWith Failure.IsLate ∧
      ∃ next, s.start = .call (.enclaveExists s.experiment.enclave) next := by
  obtain ⟨m, henclave, hstart⟩ := start_checked h
  rw [hstart]
  constructor
  · exact (m.prepare_ends s.experiment.startNewDevnet).bind fun _ _ => s.afterwards_ends
  · obtain ⟨next, hprepare⟩ := m.prepare_begins s.experiment.startNewDevnet
    rw [hprepare, henclave]
    exact ⟨_, rfl⟩

/-- Every fault that is submitted passed its check. -/
theorem start_submits (s : ExperimentService) :
    s.start.Only fun c => ∀ fault, c = .submitFault fault → fault.validate = .ok () := by
  cases h : s.experiment.validate with
  | error failure =>
    rw [start_refused h]
    exact .fail _
  | ok =>
    obtain ⟨m, -, hstart⟩ := start_checked h
    have hprepare : (m.prepare s.experiment.startNewDevnet).Only
        (Call.SubmitsFrom s.experiment.faults) :=
      (m.prepare_only s.experiment.startNewDevnet).mono fun _ => .of_not_isFaultCall
    rw [hstart]
    refine (hprepare.bind fun _ => s.afterwards_submits).mono fun c hc fault hfault => ?_
    exact Experiment.validate_eq_ok.1 h fault (hc fault hfault)

/-- Past its check, whatever becomes of an experiment, it has asked about its enclave. -/
theorem start_called {exchanges : List Exchange} {outcome : Outcome SuiteReport}
    (h : s.experiment.validate = .ok ()) (hpath : Path s.start exchanges outcome) :
    ∃ x ∈ exchanges, x.call.reachesOut = true := by
  obtain ⟨-, next, hbegins⟩ := start_begins h
  rw [hbegins] at hpath
  cases hpath with
  | answered => exact ⟨_, List.mem_cons_self, rfl⟩
  | unanswered => exact ⟨_, List.mem_cons_self, rfl⟩

/-- Whatever answers, as long as no answer is a failure of the first kind: the failure of an
experiment is of that kind exactly when nothing was called. -/
theorem isPreflight_iff {exchanges : List Exchange} {failure : Failure}
    (hpath : Path s.start exchanges (.failed failure))
    (htold : ∀ x ∈ exchanges, ∀ told ∈ x.failure?, told.IsLate) :
    failure.isPreflight = true ↔ ∀ x ∈ exchanges, x.call.reachesOut = false := by
  cases h : s.experiment.validate with
  | error cause =>
    rw [start_refused h] at hpath
    cases hpath
    constructor
    · rintro - x ⟨⟩
    · exact fun _ => Experiment.validate_eq_error h
  | ok =>
    have hlate : failure.isPreflight = false := ((start_begins h).1.path hpath htold).1 failure rfl
    obtain ⟨x, hx, hreaches⟩ := start_called h hpath
    constructor
    · intro hpreflight
      rw [hlate] at hpreflight
      cases hpreflight
    · intro hnone
      rw [hnone x hx] at hreaches
      cases hreaches

/-- Whatever answers, and so for every cancellation at every wait: each fault that is submitted
passed its check, and as long as no answer is a failure that is raised before any platform is
called, an experiment fails with such a failure exactly when neither platform was called and no
artifacts were handed over.  No answer of a simulated deployment is such a failure, and after one
the deployment is as it was. -/
theorem start_preflight (s : ExperimentService) :
    (∀ exchanges outcome, Path s.start exchanges outcome →
      (∀ fault ∈ submitted exchanges, fault.validate = .ok ()) ∧
      ((∀ x ∈ exchanges, ∀ told ∈ x.failure?, told.IsLate) →
        ∀ failure, outcome = .failed failure →
          (failure.isPreflight = true ↔ ∀ x ∈ exchanges, x.call.reachesOut = false))) ∧
    ∀ (caller : Caller) (w : World),
      (∀ failure, (w.carryOut caller s.start).1 = .failed failure →
        (failure.isPreflight = true ↔
          ∀ x ∈ s.start.trace (World.respond caller) w, x.call.reachesOut = false) ∧
        (failure.isPreflight = true → (w.carryOut caller s.start).2 = w)) ∧
      ∀ fault ∈ submitted (s.start.trace (World.respond caller) w), fault.validate = .ok () := by
  have hpaths : ∀ exchanges outcome, Path s.start exchanges outcome →
      ∀ fault ∈ submitted exchanges, fault.validate = .ok () := by
    intro exchanges outcome hpath fault hfault
    obtain ⟨x, hx, hsubmits⟩ := List.mem_filterMap.1 hfault
    exact s.start_submits.path hpath x hx fault (Exchange.call_eq_of_fault? hsubmits)
  constructor
  · intro exchanges outcome hpath
    refine ⟨hpaths exchanges outcome hpath, ?_⟩
    rintro htold failure rfl
    exact isPreflight_iff hpath htold
  · intro caller w
    have hpath := path_trace (World.respond caller) s.start w
    refine ⟨fun failure hfailed => ?_, hpaths _ _ hpath⟩
    have hfails : Path s.start (s.start.trace (World.respond caller) w) (.failed failure) :=
      hfailed ▸ hpath
    have hiff := isPreflight_iff hfails (World.trace_isLate caller s.start w)
    refine ⟨hiff, fun hpreflight => ?_⟩
    cases h : s.experiment.validate with
    | error cause =>
      rw [start_refused h]
      rfl
    | ok =>
      obtain ⟨x, hx, hreaches⟩ := start_called h hpath
      rw [hiff.1 hpreflight x hx] at hreaches
      cases hreaches

/-- An experiment with one fault on a network of three nodes. -/
def single (fault : Fault) : ExperimentService where
  experiment :=
    { enclave := "devnet"
      enclaveNamespace := "kt-devnet"
      package := "github.com/ethpandaops/ethereum-package"
      startNewDevnet := false
      waitBeforeInjection := none
      network := Sample.threeNodes
      tests := [Sample.test "single" [fault] .off] }
  defaults := .standard
  enclaveSettings := .standard "devnet"
  suiteSettings := .standard 10

/-- Latency on the pods of one service type, which would need a path inside each of them. -/
def unspecificLatency : Fault :=
  .ioLatency [⟨serviceTypeLabel, .isIn, ["beacon"]⟩] "/data" (.ofSeconds 1) 50 (.ofSeconds 60)

/-- A deployment whose platform for enclaves cannot be reached. -/
def unreachableWorld : World :=
  { World.empty .standard true with
    host := { EnclaveHost.empty .standard with reachable := false } }

/-- Where the platform cannot be reached, a fault with a selector that its kind cannot express is
refused without a call, and a fault that passes its check lets the experiment fail at its first
call. -/
theorem start_preflight_single :
    (∃ failure, (unreachableWorld.carryOut ⟨0, false⟩ (single unspecificLatency).start).1 =
        .failed failure ∧ failure.isPreflight = true ∧
      ∀ x ∈ (single unspecificLatency).start.trace (World.respond ⟨0, false⟩) unreachableWorld,
        x.call.reachesOut = false) ∧
    ∃ failure, (unreachableWorld.carryOut ⟨0, false⟩
        (single (Sample.podRestart ["el-1-geth-teku"])).start).1 = .failed failure ∧
      failure.isPreflight = false ∧
      ¬ ∀ x ∈ (single (Sample.podRestart ["el-1-geth-teku"])).start.trace
        (World.respond ⟨0, false⟩) unreachableWorld, x.call.reachesOut = false := by
  constructor
  · have hfailed : (unreachableWorld.carryOut ⟨0, false⟩ (single unspecificLatency).start).1 =
        .failed (.unsupportedSelector (.inTest "single"
          (.foreignKey "I/O latency" serviceTypeLabel))) := rfl
    have h := (((start_preflight (single unspecificLatency)).2 ⟨0, false⟩ unreachableWorld).1 _
      hfailed).1
    exact ⟨_, hfailed, rfl, h.1 rfl⟩
  · have hfailed : (unreachableWorld.carryOut ⟨0, false⟩
        (single (Sample.podRestart ["el-1-geth-teku"])).start).1 =
          .failed EnclaveHost.unreachable := rfl
    have hlate : EnclaveHost.unreachable.isPreflight = false := EnclaveHost.isLate_unreachable
    have htold := World.trace_isLate ⟨0, false⟩
      (single (Sample.podRestart ["el-1-geth-teku"])).start unreachableWorld
    have h := ((start_preflight (single (Sample.podRestart ["el-1-geth-teku"]))).1 _ _
      (path_trace _ _ _)).2 htold _ hfailed
    refine ⟨_, hfailed, hlate, fun hnone => ?_⟩
    rw [h.2 hnone] at hlate
    cases hlate

end ExperimentService
end DevnetChaos
