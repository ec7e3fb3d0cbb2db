import DevnetChaos.Proofs.Enclave.BuildWatch

/-!
# Reading the events of a build

The event that decides a build is read twice: whoever builds looks for it in the list of events,
and whoever watches meets it in the stream.  Both come to the same decision, and neither looks at
what follows.

Main definitions:

- `BuildEvent.decides`: an event after which nothing is read.
- `BuildReading.ending`: how a watch ends that has come to a result.
- `Prompt`: an environment in which events that are there are read at once.

Main results:

- `buildSucceeds_append_cons`, `BuildReading.readAll_append_cons`: what comes after the event that
  decides changes nothing.
- `watch_execute`: a watch of events that are all there is the reading of their list.
-/

namespace DevnetChaos

open Run

/-! ## The event that decides -/

/-- Whether nothing is read after an event: an error, or the last event. -/
def BuildEvent.decides : BuildEvent → Bool
  | .error _ | .finished .. => true
  | _ => false

variable {e : BuildEvent}

/-- Whether a build succeeds does not depend on what comes after the event that decides. -/
theorem buildSucceeds_append_cons (he : e.decides = true) (front back back' : List BuildEvent) :
    buildSucceeds (front ++ e :: back) = buildSucceeds (front ++ e :: back') := by
  induction front with
  | nil =>
    cases e with
    | error | finished => rfl
    | progress | info | warning | instruction => cases he
  | cons f rest ih =>
    cases f with
    | error | finished => rfl
    | progress | info | warning | instruction => exact ih

namespace BuildReading

/-- An event that decides is the last one to be read. -/
theorem read_of_decides (he : e.decides = true) (r : BuildReading) :
    ∃ result, r.read e = .decided result := by
  cases e with
  | error message => exact ⟨_, rfl⟩
  | finished successful output => cases successful <;> exact ⟨_, rfl⟩
  | progress | info | warning | instruction => cases he

/-- What is read and what is logged does not depend on what comes after the event that decides. -/
theorem readAll_append_cons (he : e.decides = true) (r : BuildReading)
    (front back back' : List BuildEvent) :
    r.readAll (front ++ e :: back) = r.readAll (front ++ e :: back') := by
  induction front generalizing r with
  | nil =>
    obtain ⟨result, hread⟩ := r.read_of_decides he
    simp only [List.nil_append, readAll, hread]
  | cons f rest ih =>
    simp only [List.cons_append, readAll]
    cases r.read f with
    | decided result => rfl
    | more next => simp only [ih next]

/-! ## Watching events that are all there -/

/-- How a watch ends that has come to a result. -/
def ending : Except BuildFlaw BuildReport → Outcome BuildReport
  | .ok report => .done report
  | .error flaw => .failed (.buildFailed flaw)

/-- A build ends with a report if its events do. -/
theorem ending_eq_done {result : Except BuildFlaw BuildReport} :
    (∃ report, ending result = .done report) ↔ result.isOk = true := by
  cases result with
  | ok report => exact ⟨fun _ => rfl, fun _ => ⟨report, rfl⟩⟩
  | error flaw => exact ⟨fun ⟨_, h⟩ => (by cases h), fun h => (by cases h)⟩

/-- A build whose events end otherwise fails for what they say. -/
theorem ending_eq_failed {result : Except BuildFlaw BuildReport} (h : result.isOk = false) :
    ∃ flaw, ending result = .failed (.buildFailed flaw) := by
  cases result with
  | ok report => cases h
  | error flaw => exact ⟨flaw, rfl⟩

end BuildReading

/-- As long as a property of its state holds, an environment lets waits of no time pass at once and
writes lines in a given way. -/
structure Prompt {σ : Type} (env : Environment σ) (I : σ → Prop) (write : σ → LogLine → σ) :
    Prop where
  pause : ∀ s, I s → env (.pause 0) s = (some .elapsed, s)
  note : ∀ s line, I s → env (.note (.line line)) s = (some (), write s line)
  keep : ∀ s line, I s → I (write s line)

section Prompt

variable {σ : Type} {env : Environment σ} {I : σ → Prop} {write : σ → LogLine → σ} {s : σ}

theorem Prompt.keep_all (henv : Prompt env I write) (hs : I s) (lines : List LogLine) :
    I (lines.foldl write s) := by
  induction lines generalizing s with
  | nil => exact hs
  | cons line rest ih => exact ih (henv.keep s line hs)

theorem noteLines_execute (henv : Prompt env I write) (hs : I s) (lines : List LogLine) :
    (noteLines lines).execute env s = (.done (), lines.foldl write s) := by
  induction lines generalizing s with
  | nil => rfl
  | cons line rest ih =>
    have hnote : (Run.note (.line line)).execute env s = (.done (), write s line) :=
      execute_call (henv.note s line hs)
    exact (execute_bind_of_done hnote).trans (ih (henv.keep s line hs))

/-- An event that is there takes nothing of a time limit. -/
theorem awaitEvent_execute (henv : Prompt env I write) (hs : I s) (time : Option TimeLeft) :
    (awaitEvent 0 time).execute env s = (.done time, s) := by
  have hpause : (Run.pause 0).execute env s = (.done .elapsed, s) := execute_call (henv.pause s hs)
  cases time with
  | none => exact execute_bind_of_done hpause
  | some time =>
    have hzero : min 0 time.millis = 0 := Nat.zero_min _
    rw [awaitEvent, hzero]
    exact execute_bind_of_done hpause

/-- Events that are all there are read to the end, and their lines written down. -/
theorem watchEvents_execute (henv : Prompt env I write) (hs : I s) (reading : BuildReading)
    (time : Option TimeLeft) (events : List BuildEvent) :
    (watchEvents false reading time (BuildStream.ofEvents events).events).execute env s =
      (BuildReading.ending (reading.readAll events).2,
        (reading.readAll events).1.foldl write s) := by
  induction events generalizing reading s with
  | nil => rfl
  | cons e rest ih =>
    change (awaitEvent 0 time >>= fun time => noteLines (reading.logLines e) >>= fun _ => _).execute
      env s = _
    rw [execute_bind_of_done (awaitEvent_execute henv hs time),
      execute_bind_of_done (noteLines_execute henv hs (reading.logLines e)), BuildReading.readAll]
    cases reading.read e with
    | decided result => cases result <;> rfl
    | more next =>
      dsimp only
      rw [List.foldl_append]
      exact ih (henv.keep_all hs (reading.logLines e)) next

/-- A watch of events that are all there comes to what the reading of their list comes to, within
any time limit, and leaves nothing but its lines. -/
theorem watch_execute (henv : Prompt env I write) (hs : I s) (events : List BuildEvent)
    (limit : Option Duration) :
    ((BuildStream.ofEvents events).watch limit).execute env s =
      (BuildReading.ending (BuildReading.start.readAll events).2,
        (BuildReading.start.readAll events).1.foldl write s) :=
  watchEvents_execute henv hs .start (limit.map .ofLimit) events

end Prompt
end DevnetChaos
