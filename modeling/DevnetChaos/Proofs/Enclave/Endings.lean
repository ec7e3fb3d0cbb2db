import DevnetChaos.Enclave.Manager
import DevnetChaos.Proofs.Enclave.BuildWatch
import DevnetChaos.Proofs.Run.Endings
import DevnetChaos.Proofs.Topology.Observed

/-!
# How the runs of a manager end

A manager asks the platform before it does anything else, and leaves faults alone.  So none of its
failures says that no platform was called.

Main definitions:

- `Call.isLook`: the calls with which a manager looks at its enclave.
- `EnclaveManager.IsAbout`: the calls that a manager makes at all.

Main results:

- `BuildStream.watch_ends`: the failures of a watched build.
- `EnclaveManager.prepare_ends`: the failures of a preparation.
- `EnclaveManager.inspect_only`: a manager that looks at its enclave does nothing else.
- `EnclaveManager.prepare_about`, `EnclaveManager.forceRestart_about`: a manager makes calls about
  its own enclave and network, so none about faults.
- `EnclaveManager.prepare_begins`: every preparation begins with a question to the platform.
-/

namespace DevnetChaos

open Run

/-- A failure of a backend is that of a call. -/
theorem Failure.isLate_ofPlatform (platform message : String) :
    (Failure.ofPlatform platform message).IsLate := by
  rw [ofPlatform]
  split <;> rfl

/-! ## Watching a build -/

theorem noteLines_ends {fails : Failure → Prop} (lines : List LogLine) :
    (noteLines lines).FailsWith fails := by
  induction lines with
  | nil => exact Ends.pure trivial
  | cons line rest ih => exact (FailsWith.note _).bind fun _ _ => ih

/-- A wait for an event fails because the build takes too long or was cancelled. -/
theorem awaitEvent_ends (delay : Nat) (time : Option TimeLeft) :
    (awaitEvent delay time).FailsWith Failure.IsLate := by
  cases time with
  | none =>
    refine (FailsWith.pause delay).bind fun how _ => ?_
    cases how with
    | elapsed => exact Ends.pure trivial
    | cancelled => exact Ends.fail rfl
  | some time =>
    refine (FailsWith.pause (min delay time.millis)).bind fun how _ => ?_
    cases how with
    | cancelled => exact Ends.fail rfl
    | elapsed =>
      dsimp only
      split
      · exact Ends.pure trivial
      · exact Ends.fail rfl

/-- A wait for an end that does not come fails because the build takes too long or was cancelled. -/
theorem awaitSilence_ends (time : Option TimeLeft) :
    (awaitSilence time).FailsWith Failure.IsLate := by
  cases time with
  | none => exact FailsWith.awaitCancellation.bind fun _ _ => Ends.fail rfl
  | some time =>
    refine (FailsWith.pause time.millis).bind fun how _ => ?_
    cases how with
    | elapsed => exact Ends.fail rfl
    | cancelled => exact Ends.fail rfl

/-- A build fails as its events say, as it is told, or as its waits do. -/
theorem watchEvents_ends (staysOpen : Bool) (reading : BuildReading) (time : Option TimeLeft)
    (events : List TimedEvent) :
    (watchEvents staysOpen reading time events).FailsWith Failure.IsLate := by
  induction events generalizing reading time with
  | nil =>
    rw [watchEvents]
    split
    · exact awaitSilence_ends time
    · exact Ends.fail rfl
  | cons e rest ih =>
    refine (awaitEvent_ends e.delay time).bind fun time' _ => ?_
    refine (noteLines_ends _).bind fun _ _ => ?_
    split
    · exact ih _ time'
    · exact Ends.pure trivial
    · exact Ends.fail rfl

/-- A build that is watched fails late. -/
theorem BuildStream.watch_ends (stream : BuildStream) (limit : Option Duration) :
    (stream.watch limit).FailsWith Failure.IsLate :=
  watchEvents_ends ..

/-! ## Looking at an enclave -/

/-- A question about an enclave, or a notification. -/
def Call.isLook : Call → Bool
  | .enclaveExists _ | .runningServices _ | .publish _ => true
  | _ => false

namespace EnclaveManager

variable (m : EnclaveManager)

/-! ## Failures -/

theorem observed_ends (observation : Observation) :
    (m.observed observation).FailsWith Failure.IsLate :=
  (FailsWith.publish _).bind fun _ _ => Ends.pure trivial

/-- What was found may not fit together, which is found out late. -/
theorem inspect_ends : m.inspect.FailsWith Failure.IsLate := by
  refine (FailsWith.enclaveExists m.enclave).bind fun found _ => ?_
  cases found with
  | false => exact m.observed_ends _
  | true =>
    refine (FailsWith.runningServices m.enclave).bind fun services _ => ?_
    dsimp only
    split
    · exact m.observed_ends _
    · refine Ends.bind (P := fun _ => True) ?_ fun running _ => m.observed_ends _
      refine Ends.ofExcept (fun failure h => ?_) fun _ _ => trivial
      rcases Topology.ofServices_eq_error h with ⟨name, rfl⟩ | ⟨flaw, rfl⟩
      · rfl
      · rfl

/-- Tearing an enclave down fails as the platform says or because it was cancelled. -/
theorem destroyAndSettle_ends : m.destroyAndSettle.FailsWith Failure.IsLate := by
  refine (FailsWith.destroyEnclave m.enclave).bind fun _ _ => ?_
  refine (FailsWith.publish _).bind fun _ _ => ?_
  exact (sleep_ends _ _).bind fun _ _ => FailsWith.publish _

/-- A build fails as the platform or its events say. -/
theorem build_ends : m.build.FailsWith Failure.IsLate := by
  refine (FailsWith.buildNetwork m.enclave m.network).bind fun stream _ => ?_
  exact (stream.watch_ends m.settings.buildLimit).bind fun _ _ => FailsWith.publish _

/-- An enclave that has not gone away is a failure of the platform. -/
theorem createAndBuild_ends : m.createAndBuild.FailsWith Failure.IsLate := by
  refine (FailsWith.enclaveExists m.enclave).bind fun found _ => ?_
  cases found with
  | true => exact Ends.fail (Failure.isLate_ofPlatform _ _)
  | false =>
    refine (FailsWith.createEnclave m.enclave).bind fun _ _ => ?_
    exact (FailsWith.publish _).bind fun _ _ => m.build_ends

/-- Making a devnet anew fails as its two halves do. -/
theorem rebuild_ends : m.rebuild.FailsWith Failure.IsLate := by
  refine (FailsWith.enclaveExists m.enclave).bind fun existed _ => ?_
  cases existed with
  | true =>
    refine m.destroyAndSettle_ends.bind fun _ _ => ?_
    exact m.createAndBuild_ends.bind fun _ _ => Ends.pure trivial
  | false => exact m.createAndBuild_ends.bind fun _ _ => Ends.pure trivial

/-- Whatever was found in the enclave, what follows fails late. -/
theorem prepareFrom_ends (observation : Observation) :
    (m.prepareFrom observation).FailsWith Failure.IsLate := by
  rw [prepareFrom]
  split
  · exact m.createAndBuild_ends.bind fun _ _ => Ends.pure trivial
  · exact m.build_ends.bind fun _ _ => Ends.pure trivial
  · exact (FailsWith.publish _).bind fun _ _ => Ends.pure trivial
  · exact Ends.fail rfl

/-- A preparation that fails has called the platform. -/
theorem prepare_ends (restart : Bool) : (m.prepare restart).FailsWith Failure.IsLate := by
  cases restart with
  | true =>
    refine m.rebuild_ends.bind fun existed _ => ?_
    cases existed <;> exact Ends.pure trivial
  | false => exact m.inspect_ends.bind fun observation _ => m.prepareFrom_ends observation

/-! ## Calls -/

/-- A call about the enclave and the network of a manager, a wait, or something written down. -/
def IsAbout (m : EnclaveManager) : Call → Prop
  | .enclaveExists enclave | .createEnclave enclave | .destroyEnclave enclave
  | .runningServices enclave => enclave = m.enclave
  | .buildNetwork enclave network => enclave = m.enclave ∧ network = m.network
  | .pause _ | .awaitCancellation | .note _ | .publish _ => True
  | _ => False

variable {m} in
/-- Watching a build makes no calls about enclaves. -/
theorem isAbout_of_isWatch {c : Call} (h : c.isWatch = true) : m.IsAbout c := by
  cases c with
  | pause | awaitCancellation | note => trivial
  | _ => cases h

variable {m} in
/-- No call of a manager is about faults. -/
theorem not_isFaultCall_of_isAbout {c : Call} (h : m.IsAbout c) : c.isFaultCall = false := by
  cases c with
  | submitFault | faultStatus => exact h.elim
  | _ => rfl

theorem observed_only (observation : Observation) :
    (m.observed observation).Only fun c => c.isLook = true ∧ m.IsAbout c :=
  Only.bind (Only.ask ⟨rfl, trivial⟩ fun _ => .pure _) fun _ => .pure _

/-- A manager that looks at its enclave asks about it and publishes what it found. -/
theorem inspect_only : m.inspect.Only fun c => c.isLook = true ∧ m.IsAbout c := by
  refine Only.bind (Only.ask ⟨rfl, rfl⟩ fun answer => .ofExcept answer) fun found => ?_
  cases found with
  | false => exact m.observed_only _
  | true =>
    refine Only.bind (Only.ask ⟨rfl, rfl⟩ fun answer => .ofExcept answer) fun services => ?_
    dsimp only
    split
    · exact m.observed_only _
    · exact Only.bind (.ofExcept _) fun running => m.observed_only _

/-- Looking at an enclave changes nothing. -/
theorem inspect_looks : m.inspect.Only fun c => c.isLook = true :=
  m.inspect_only.mono fun _ h => h.1

/-- A manager destroys its own enclave. -/
theorem destroyAndSettle_about : m.destroyAndSettle.Only m.IsAbout := by
  refine Only.bind (Only.ask rfl fun answer => .ofExcept answer) fun _ => ?_
  refine Only.bind (Only.ask trivial fun _ => .pure _) fun _ => ?_
  exact Only.bind (Only.sleep (fun _ => trivial) _ _) fun _ => Only.ask trivial fun _ => .pure _

/-- A manager builds its own network in its own enclave. -/
theorem build_about : m.build.Only m.IsAbout := by
  refine Only.bind (Only.ask ⟨rfl, rfl⟩ fun answer => .ofExcept answer) fun stream => ?_
  have hwatch := (stream.watch_only m.settings.buildLimit).mono fun _ => m.isAbout_of_isWatch
  exact hwatch.bind fun _ => Only.ask trivial fun _ => .pure _

/-- A manager creates its own enclave. -/
theorem createAndBuild_about : m.createAndBuild.Only m.IsAbout := by
  refine Only.bind (Only.ask rfl fun answer => .ofExcept answer) fun found => ?_
  cases found with
  | true => exact .fail _
  | false =>
    refine Only.bind (Only.ask rfl fun answer => .ofExcept answer) fun _ => ?_
    exact Only.bind (Only.ask trivial fun _ => .pure _) fun _ => m.build_about

/-- Making a devnet anew concerns one enclave alone. -/
theorem rebuild_about : m.rebuild.Only m.IsAbout := by
  refine Only.bind (Only.ask rfl fun answer => .ofExcept answer) fun existed => ?_
  cases existed with
  | true =>
    refine m.destroyAndSettle_about.bind fun _ => ?_
    exact m.createAndBuild_about.bind fun _ => .pure _
  | false => exact m.createAndBuild_about.bind fun _ => .pure _

/-- A forced restart concerns one enclave alone. -/
theorem forceRestart_about : m.forceRestart.Only m.IsAbout :=
  m.rebuild_about.bind fun _ => .pure _

/-- What follows a look concerns the enclave that was looked at. -/
theorem prepareFrom_about (observation : Observation) :
    (m.prepareFrom observation).Only m.IsAbout := by
  rw [prepareFrom]
  split
  · exact m.createAndBuild_about.bind fun _ => .pure _
  · exact m.build_about.bind fun _ => .pure _
  · exact Only.bind (Only.ask trivial fun _ => .pure _) fun _ => .pure _
  · exact .fail _

/-- A preparation is about the enclave and the network of its manager. -/
theorem prepare_about (restart : Bool) : (m.prepare restart).Only m.IsAbout := by
  cases restart with
  | true =>
    refine m.rebuild_about.bind fun existed => ?_
    cases existed <;> exact .pure _
  | false =>
    have hinspect := m.inspect_only.mono fun _ h => h.2
    exact hinspect.bind fun observation => m.prepareFrom_about observation

/-- A preparation leaves faults alone. -/
theorem prepare_only (restart : Bool) :
    (m.prepare restart).Only fun c => c.isFaultCall = false :=
  (m.prepare_about restart).mono fun _ => not_isFaultCall_of_isAbout

/-- Every preparation begins with a question to the platform. -/
theorem prepare_begins (restart : Bool) :
    ∃ next, m.prepare restart = .call (.enclaveExists m.enclave) next := by
  cases restart with
  | true => exact ⟨_, rfl⟩
  | false => exact ⟨_, rfl⟩

end EnclaveManager
end DevnetChaos
