import DevnetChaos.Enclave.BuildWatch
import DevnetChaos.Proofs.Run.Conduct
import DevnetChaos.Proofs.Run.Success
import Mathlib.Algebra.GroupWithZero.Nat

/-!
# What comes of watching a build

To watch a build is to wait and to write down what the platform says.  The watch comes to a report
only if the build succeeds, and it does come to one if the events are there in time.

Main definitions:

- `Call.isWatch`: the calls with which a build is watched.
- `Patient`: an environment in which waits pass and entries are written.
- `InTime`: events that come within a time limit.

Main results:

- `watchEvents_only`: a watch only waits and writes.
- `BuildReading.readAll_isOk`: a reading comes to a report exactly when the build succeeds.
- `watchEvents_gives_report`: a watch that comes to a report has read it.
- `watchEvents_gives`: a watch that comes to a report has seen the build succeed.
- `watchEvents_succeeds`: a watch of a build that succeeds in time comes to a report.
-/

namespace DevnetChaos

open Run

/-! ## The calls of a watch -/

/-- A wait or something written down. -/
def Call.isWatch : Call → Bool
  | .pause _ | .awaitCancellation | .note _ => true
  | _ => false

theorem noteLines_only (lines : List LogLine) :
    (noteLines lines).Only fun c => c.isWatch = true := by
  induction lines with
  | nil => exact .pure ()
  | cons line rest ih => exact Only.bind (Only.ask rfl fun _ => .pure _) fun _ => ih

/-- An event is waited for by a pause, or by none if it is there already. -/
theorem awaitEvent_only (delay : Nat) (time : Option TimeLeft) :
    (awaitEvent delay time).Only fun c => c.isWatch = true := by
  cases time with
  | none =>
    refine Only.bind (Only.ask rfl fun _ => .pure _) fun how => ?_
    cases how <;> trivial
  | some time =>
    refine Only.bind (Only.ask rfl fun _ => .pure _) fun how => ?_
    cases how with
    | cancelled => trivial
    | elapsed =>
      dsimp only
      split <;> trivial

/-- An end that does not come is waited for until the time is up or the run is cancelled. -/
theorem awaitSilence_only (time : Option TimeLeft) :
    (awaitSilence time).Only fun c => c.isWatch = true := by
  cases time with
  | none => exact Only.bind (Only.ask rfl fun _ => .pure _) fun _ => .fail _
  | some time =>
    refine Only.bind (Only.ask rfl fun _ => .pure _) fun how => ?_
    cases how <;> trivial

/-- A watch only waits and writes. -/
theorem watchEvents_only (staysOpen : Bool) (reading : BuildReading) (time : Option TimeLeft)
    (events : List TimedEvent) :
    (watchEvents staysOpen reading time events).Only fun c => c.isWatch = true := by
  induction events generalizing reading time with
  | nil =>
    rw [watchEvents]
    split
    · exact awaitSilence_only time
    · exact .fail _
  | cons e rest ih =>
    refine (awaitEvent_only e.delay time).bind fun time' => ?_
    refine (noteLines_only _).bind fun _ => ?_
    split
    · exact ih _ time'
    · exact .pure _
    · exact .fail _

/-- A build is watched with waits and entries in the journal alone. -/
theorem BuildStream.watch_only (stream : BuildStream) (limit : Option Duration) :
    (stream.watch limit).Only fun c => c.isWatch = true :=
  watchEvents_only ..

/-! ## Reports -/

/-- Silence is never a report. -/
theorem awaitSilence_gives {Q : BuildReport → Prop} (time : Option TimeLeft) :
    (awaitSilence time).Gives Q := by
  cases time with
  | none => exact (Gives.any _).bind fun _ _ => Gives.fail
  | some time =>
    refine (Gives.any _).bind fun how _ => ?_
    cases how <;> exact Gives.fail

/-- A reading comes to a report exactly when the build succeeds. -/
theorem BuildReading.readAll_isOk (r : BuildReading) (events : List BuildEvent) :
    (r.readAll events).2.isOk = buildSucceeds events := by
  induction events generalizing r with
  | nil => rfl
  | cons e rest ih =>
    cases e with
    | error message => rfl
    | finished successful output => cases successful <;> rfl
    | progress | info | warning | instruction => exact ih _

/-- A watch that comes to a report has read it. -/
theorem watchEvents_gives_report (staysOpen : Bool) (reading : BuildReading)
    (time : Option TimeLeft) (events : List TimedEvent) :
    (watchEvents staysOpen reading time events).Gives fun report =>
      (reading.readAll (events.map (·.event))).2 = .ok report := by
  induction events generalizing reading time with
  | nil =>
    rw [watchEvents]
    split
    · exact awaitSilence_gives time
    · exact Gives.fail
  | cons timed rest ih =>
    refine (Gives.any _).bind fun time' _ => (Gives.any _).bind fun _ _ => ?_
    rw [List.map_cons, BuildReading.readAll]
    cases reading.read timed.event with
    | more next => exact ih next time'
    | decided result =>
      cases result with
      | ok report => exact Gives.pure rfl
      | error flaw => exact Gives.fail

/-- A watch that comes to a report has seen the build succeed. -/
theorem watchEvents_gives (staysOpen : Bool) (reading : BuildReading) (time : Option TimeLeft)
    (events : List TimedEvent) :
    (watchEvents staysOpen reading time events).Gives fun _ =>
      buildSucceeds (events.map (·.event)) = true :=
  (watchEvents_gives_report staysOpen reading time events).mono fun report hread => by
    rw [← reading.readAll_isOk, hread]
    rfl

/-- A build that is watched to a report was a success. -/
theorem BuildStream.watch_gives (stream : BuildStream) (limit : Option Duration) :
    (stream.watch limit).Gives fun _ => buildSucceeds (stream.events.map (·.event)) = true :=
  watchEvents_gives ..

/-! ## Builds that succeed in time -/

/-- As long as a property of its state holds, an environment lets every wait pass and writes every
entry, and the property goes on to hold. -/
structure Patient {σ : Type} (env : Environment σ) (I : σ → Prop) : Prop where
  pause : ∀ s millis, I s → Succeeds env (Run.pause millis) s fun how s' => how = .elapsed ∧ I s'
  note : ∀ s entry, I s → Succeeds env (Run.note entry) s fun _ s' => I s'

/-- The events come within what is left of a time limit. -/
def InTime (time : Option TimeLeft) (events : List TimedEvent) : Prop :=
  ∀ t ∈ time, (events.map (·.delay)).sum ≤ t.millis

@[simp] theorem map_event_ofEvents (events : List BuildEvent) :
    (BuildStream.ofEvents events).events.map (·.event) = events := by
  simp [BuildStream.ofEvents, Function.comp_def]

/-- Events that are all there at once come within any time limit. -/
theorem inTime_ofEvents (time : Option TimeLeft) (events : List BuildEvent) :
    InTime time (BuildStream.ofEvents events).events := by
  intro t _
  have hzero : ((BuildStream.ofEvents events).events.map (·.delay)).sum = 0 := by
    simp [BuildStream.ofEvents, Function.comp_def, List.map_const']
  omega

section Patient

variable {σ : Type} {env : Environment σ} {I : σ → Prop} {s : σ}

/-- Lines are written down one by one. -/
theorem noteLines_succeeds (henv : Patient env I) (hs : I s) (lines : List LogLine) :
    Succeeds env (noteLines lines) s fun _ s' => I s' := by
  induction lines generalizing s with
  | nil => exact Succeeds.pure hs
  | cons line rest ih => exact (henv.note s (.line line) hs).bind fun _ _ hs' => ih hs'

/-- An event that comes in time leaves the time for those after it. -/
theorem awaitEvent_succeeds (henv : Patient env I) (hs : I s) (e : TimedEvent)
    {time : Option TimeLeft} {rest : List TimedEvent} (htime : InTime time (e :: rest)) :
    Succeeds env (awaitEvent e.delay time) s fun time' s' => InTime time' rest ∧ I s' := by
  cases time with
  | none =>
    refine (henv.pause s e.delay hs).bind fun how s' hwait => ?_
    rw [hwait.1]
    refine Succeeds.pure ⟨?_, hwait.2⟩
    intro t ht
    cases ht
  | some t =>
    have hsum : e.delay + (rest.map (·.delay)).sum ≤ t.millis := htime t rfl
    have hdelay : e.delay ≤ t.millis := by omega
    refine (henv.pause s (min e.delay t.millis) hs).bind fun how s' hwait => ?_
    rw [hwait.1]
    dsimp only
    rw [if_pos hdelay]
    refine Succeeds.pure ⟨?_, hwait.2⟩
    rintro _ ⟨⟩
    change (rest.map (·.delay)).sum ≤ t.millis - e.delay
    omega

/-- A watch of a build that succeeds in time comes to a report. -/
theorem watchEvents_succeeds (henv : Patient env I) (hs : I s) (staysOpen : Bool)
    (reading : BuildReading) {time : Option TimeLeft} {events : List TimedEvent}
    (htime : InTime time events) (hsucceeds : buildSucceeds (events.map (·.event)) = true) :
    Succeeds env (watchEvents staysOpen reading time events) s fun _ s' => I s' := by
  induction events generalizing reading time s with
  | nil => cases hsucceeds
  | cons timed rest ih =>
    refine (awaitEvent_succeeds henv hs timed htime).bind fun time₁ s₁ hafter => ?_
    refine (noteLines_succeeds henv hafter.2 _).bind fun _ s₂ hs₂ => ?_
    obtain ⟨delay, event⟩ := timed
    cases event with
    | progress | info | warning | instruction => exact ih hs₂ _ hafter.1 hsucceeds
    | error message => cases hsucceeds
    | finished successful output =>
      cases successful with
      | false => cases hsucceeds
      | true => exact Succeeds.pure hs₂

end Patient
end DevnetChaos
