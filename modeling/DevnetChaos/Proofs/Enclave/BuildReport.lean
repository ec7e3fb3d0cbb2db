import DevnetChaos.Proofs.Enclave.BuildReading
import DevnetChaos.Simulation.Time

/-!
# What is reported about a build

A watch reports the events up to the one that decides, and it logs each line of progress once: the
number of lines seen is the length of the longest list of steps so far, and it never goes back when
a shorter list comes late.

Main definitions:

- `BuildEvent.undecided`, `BuildEvent.stepLists`: the events before the one that decides, and the
  lists of steps among them.
- `Reports`: what the report of a build is made of.
- `chapters`, `progressLines`: the lines written about each event, and about progress.
- `IsLongest`: the longest of some lists that are prefixes of one list.
- `Undisturbed`: a watch that is neither cancelled nor cut short.
- `BuildStream.Watched`: what a watch comes to and what it writes down.

Main results:

- `BuildReading.readAll_eq_ok`: a reading comes to a report exactly when the events report it.
- `BuildReading.progressLines_chapters`: the lines of progress of a reading.
- `watchEvents_chapters`: a watch writes down the lines of its reading.
- `BuildStream.watch_watched`: the report and the lines of progress of a watch on every path.
-/

namespace DevnetChaos

open Run Simulation

/-! ## Events -/

namespace BuildEvent

/-- The steps that a progress event lists. -/
def steps? : BuildEvent → Option (List String)
  | .progress steps => some steps
  | _ => none

/-- The message of a warning. -/
def warning? : BuildEvent → Option String
  | .warning message => some message
  | _ => none

/-- The events before the one that decides. -/
def undecided (events : List BuildEvent) : List BuildEvent := events.takeWhile fun e => !e.decides

/-- The lists of steps that come before the event that decides. -/
def stepLists (events : List BuildEvent) : List (List String) := (undecided events).filterMap steps?

/-- Events after one that decides do not count. -/
theorem undecided_of_decides {e : BuildEvent} (he : e.decides = true) (rest : List BuildEvent) :
    undecided (e :: rest) = [] := by
  simp [undecided, he]

/-- Until an event decides, each one counts. -/
theorem undecided_of_not_decides {e : BuildEvent} (he : e.decides = false)
    (rest : List BuildEvent) : undecided (e :: rest) = e :: undecided rest := by
  simp [undecided, he]

end BuildEvent

/-- The events end a build well and report about it: the number of the final event, the warnings
before it, and its output. -/
def Reports (events : List BuildEvent) (report : BuildReport) : Prop :=
  ∃ front output back, events = front ++ .finished true output :: back ∧
    (∀ e ∈ front, e.decides = false) ∧
    report = ⟨front.length + 1, front.filterMap BuildEvent.warning?, output⟩

/-! ## Reading -/

namespace BuildReading

variable {r : BuildReading} {e : BuildEvent}

/-- An event that does not decide is counted, and a warning is kept. -/
theorem read_of_not_decides (he : e.decides = false) (r : BuildReading) :
    r.read e = .more ⟨r.events + 1, r.warnings ++ e.warning?.toList,
      max r.linesSeen (e.steps?.getD []).length⟩ := by
  cases e with
  | error | finished => cases he
  | progress | info | warning | instruction => simp [read, BuildEvent.warning?, BuildEvent.steps?]

/-- A reading comes to a report exactly when the events report it. -/
theorem readAll_eq_ok (r : BuildReading) (events : List BuildEvent) (report : BuildReport) :
    (r.readAll events).2 = .ok report ↔
      ∃ front output back, events = front ++ .finished true output :: back ∧
        (∀ e ∈ front, e.decides = false) ∧
        report = ⟨r.events + front.length + 1,
          r.warnings ++ front.filterMap BuildEvent.warning?, output⟩ := by
  constructor
  · intro h
    induction events generalizing r with
    | nil => cases h
    | cons e rest ih =>
      cases he : e.decides with
      | true =>
        cases e with
        | error message => cases h
        | finished successful output =>
          cases successful with
          | false => cases h
          | true =>
            cases h
            exact ⟨[], output, rest, rfl, by simp, by simp⟩
        | progress | info | warning | instruction => cases he
      | false =>
        simp only [readAll, read_of_not_decides he] at h
        obtain ⟨front, output, back, rfl, hfront, rfl⟩ := ih _ h
        refine ⟨e :: front, output, back, rfl, by simpa [he] using hfront, ?_⟩
        cases hwarning : e.warning? with
        | none => simp [hwarning]; omega
        | some message => simp [hwarning]; omega
  · rintro ⟨front, output, back, rfl, hfront, rfl⟩
    induction front generalizing r with
    | nil => simp [readAll, read]
    | cons e front ih =>
      have he : e.decides = false := hfront e (by simp)
      simp only [List.cons_append, readAll, read_of_not_decides he]
      rw [ih _ fun e' he' => hfront e' (by simp [he'])]
      cases hwarning : e.warning? with
      | none => simp [hwarning]; omega
      | some message => simp [hwarning]; omega

/-- A build is read to a report exactly when its events report it. -/
theorem readAll_start_eq_ok {events : List BuildEvent} {report : BuildReport} :
    (start.readAll events).2 = .ok report ↔ Reports events report := by
  rw [readAll_eq_ok]
  simp [Reports, start]

/-- The log lines of each event up to the one that decides. -/
def chapters : BuildReading → List BuildEvent → List (List LogLine)
  | _, [] => []
  | r, e :: rest =>
      r.logLines e ::
        match r.read e with
        | .decided _ => []
        | .more next => next.chapters rest

/-- An event that does not decide is followed by the next one. -/
theorem chapters_of_not_decides (he : e.decides = false) (r : BuildReading)
    (rest : List BuildEvent) :
    r.chapters (e :: rest) = r.logLines e :: BuildReading.chapters ⟨r.events + 1,
      r.warnings ++ e.warning?.toList, max r.linesSeen (e.steps?.getD []).length⟩ rest := by
  rw [chapters, read_of_not_decides he]

end BuildReading

/-! ## Lines of progress -/

/-- The lines about progress among those that are written about each event. -/
def progressLines (events : List BuildEvent) (written : List (List LogLine)) : List LogLine :=
  (((BuildEvent.undecided events).zip written).filter (·.1.steps?.isSome)).flatMap (·.2)

/-- One of some lists is the longest: all of them are prefixes of it. -/
def IsLongest (longest : List String) (lists : List (List String)) : Prop :=
  longest ∈ lists ∧ ∀ steps ∈ lists, steps <+: longest

/-- A single list is the longest one. -/
theorem IsLongest.singleton (steps : List String) : IsLongest steps [steps] := by
  simp [IsLongest]

/-- A list that is not longer than another one changes nothing. -/
theorem IsLongest.cons_prefix {longest steps seen : List String} {lists : List (List String)}
    (h : IsLongest longest (seen :: lists)) (hsteps : steps <+: seen) :
    IsLongest longest (seen :: steps :: lists) := by
  obtain ⟨hmem, hbegins⟩ := h
  have hseen : seen <+: longest := hbegins seen (by simp)
  refine ⟨?_, ?_⟩
  · rw [List.mem_cons] at hmem
    rcases hmem with rfl | hmem
    · exact List.mem_cons_self
    · simp [hmem]
  · intro l hl
    rw [List.mem_cons, List.mem_cons] at hl
    rcases hl with rfl | rfl | hl
    · exact hseen
    · exact hsteps.trans hseen
    · exact hbegins l (by simp [hl])

/-- The shorter of two lists may be put in front as well. -/
theorem IsLongest.cons_longer {longest steps seen : List String} {lists : List (List String)}
    (h : IsLongest longest (steps :: lists)) (hseen : seen <+: steps) :
    IsLongest longest (seen :: steps :: lists) := by
  obtain ⟨hmem, hbegins⟩ := h
  refine ⟨List.mem_cons_of_mem _ hmem, ?_⟩
  intro l hl
  rw [List.mem_cons] at hl
  rcases hl with rfl | hl
  · exact hseen.trans (hbegins steps (by simp))
  · exact hbegins l hl

/-- After an event that decides no more lines are expected. -/
theorem progressLines_of_decides {e : BuildEvent} (he : e.decides = true)
    (rest : List BuildEvent) (written : List (List LogLine)) :
    progressLines (e :: rest) written = [] := by
  simp [progressLines, BuildEvent.undecided_of_decides he]

/-- An event that does not decide is followed by the lines of its steps, if it has any. -/
theorem progressLines_of_not_decides {e : BuildEvent} (he : e.decides = false)
    (rest : List BuildEvent) (lines : List LogLine) (written : List (List LogLine)) :
    progressLines (e :: rest) (lines :: written) =
      (if e.steps?.isSome then lines else []) ++ progressLines rest written := by
  cases h : e.steps?.isSome <;>
    simp [progressLines, BuildEvent.undecided_of_not_decides he, h]

/-- What a longer list adds to the lines seen, and what a still longer one adds to that. -/
theorem drop_append_drop {seen steps longest : List String} (hseen : seen <+: steps)
    (hsteps : steps <+: longest) :
    steps.drop seen.length ++ longest.drop steps.length = longest.drop seen.length := by
  obtain ⟨more, rfl⟩ := hseen
  obtain ⟨most, rfl⟩ := hsteps
  simp

/-- The number of lines seen is the length of the longest list so far, and what is logged about
progress from there on is what the longest list of all adds to it. -/
theorem BuildReading.progressLines_chapters (r : BuildReading) {script seen : List String}
    (hseen : seen <+: script) (hcount : r.linesSeen = seen.length) {events : List BuildEvent}
    (hlists : ∀ steps ∈ BuildEvent.stepLists events, steps <+: script) :
    ∃ longest, IsLongest longest (seen :: BuildEvent.stepLists events) ∧
      progressLines events (r.chapters events) =
        (longest.drop seen.length).map (.said .info) := by
  induction events generalizing r seen with
  | nil => exact ⟨seen, .singleton seen, by simp [progressLines, BuildEvent.undecided]⟩
  | cons e rest ih =>
    cases he : e.decides with
    | true =>
      refine ⟨seen, ?_, ?_⟩
      · rw [BuildEvent.stepLists, BuildEvent.undecided_of_decides he]
        exact .singleton seen
      · rw [progressLines_of_decides he]
        simp
    | false =>
      rw [chapters_of_not_decides he, progressLines_of_not_decides he]
      cases hsteps : e.steps? with
      | none =>
        have hrest : BuildEvent.stepLists (e :: rest) = BuildEvent.stepLists rest := by
          simp [BuildEvent.stepLists, BuildEvent.undecided_of_not_decides he, hsteps]
        rw [hrest] at hlists ⊢
        exact ih _ hseen (by simp [hcount]) hlists
      | some steps =>
        have hrest : BuildEvent.stepLists (e :: rest) = steps :: BuildEvent.stepLists rest := by
          simp [BuildEvent.stepLists, BuildEvent.undecided_of_not_decides he, hsteps]
        have hlines : r.logLines e = (steps.drop seen.length).map (.said .info) := by
          cases e <;> cases hsteps
          rw [logLines, hcount]
        rw [hrest] at hlists ⊢
        have hscript : steps <+: script := hlists steps List.mem_cons_self
        have hlater := fun l hl => hlists l (List.mem_cons_of_mem steps hl)
        rw [hlines]
        rcases List.prefix_or_prefix_of_prefix hseen hscript with hlonger | hshorter
        · have hmax : max r.linesSeen steps.length = steps.length := by
            rw [hcount]
            exact Nat.max_eq_right hlonger.length_le
          obtain ⟨longest, hlongest, hlog⟩ := ih ⟨r.events + 1,
            r.warnings ++ e.warning?.toList, max r.linesSeen steps.length⟩ hscript hmax hlater
          refine ⟨longest, hlongest.cons_longer hlonger, ?_⟩
          simp only [Option.isSome_some, if_true, Option.getD_some, hlog]
          rw [← List.map_append, drop_append_drop hlonger (hlongest.2 steps List.mem_cons_self)]
        · have hmax : max r.linesSeen steps.length = seen.length := by
            rw [hcount]
            exact Nat.max_eq_left hshorter.length_le
          obtain ⟨longest, hlongest, hlog⟩ := ih ⟨r.events + 1,
            r.warnings ++ e.warning?.toList, max r.linesSeen steps.length⟩ hseen hmax hlater
          refine ⟨longest, hlongest.cons_prefix hshorter, ?_⟩
          have hnothing : steps.drop seen.length = [] :=
            List.drop_eq_nil_of_le hshorter.length_le
          simp only [Option.isSome_some, if_true, Option.getD_some, hlog, hnothing, List.map_nil,
            List.nil_append]

/-! ## Watching -/

/-- The lines at the head of a history. -/
def leadingLines : List Exchange → List LogLine
  | ⟨.note (.line line), _⟩ :: rest => line :: leadingLines rest
  | _ => []

/-- The lines that are written after each wait. -/
def chapters : List Exchange → List (List LogLine)
  | [] => []
  | ⟨.pause _, _⟩ :: rest => leadingLines rest :: chapters rest
  | _ :: rest => chapters rest

/-- A line that is written. -/
def Exchange.written (line : LogLine) : Exchange := ⟨.note (.line line), some ()⟩

/-- Lines that are written come first. -/
theorem leadingLines_written (lines : List LogLine) (rest : List Exchange) :
    leadingLines (lines.map Exchange.written ++ rest) = lines ++ leadingLines rest := by
  induction lines with
  | nil => rfl
  | cons line lines ih => exact congrArg (line :: ·) ih

/-- Lines that are written begin no chapter. -/
theorem chapters_written (lines : List LogLine) (rest : List Exchange) :
    chapters (lines.map Exchange.written ++ rest) = chapters rest := by
  induction lines with
  | nil => rfl
  | cons line lines ih => exact ih

/-- A wait begins a chapter with the lines that follow it. -/
theorem chapters_waited (millis : Nat) (lines : List LogLine) (rest : List Exchange) :
    chapters (⟨.pause millis, some .elapsed⟩ :: (lines.map Exchange.written ++ rest)) =
      (lines ++ leadingLines rest) :: chapters rest := by
  rw [chapters, leadingLines_written, chapters_written]

/-- Whether an exchange lets a watch go on: a wait has passed, an entry is written. -/
def Exchange.passes : Exchange → Bool
  | ⟨.pause _, some .elapsed⟩ => true
  | ⟨.pause _, _⟩ | ⟨.note _, none⟩ => false
  | _ => true

/-- A watch that is neither cancelled nor left while it reads, and does not run out of time. -/
structure Undisturbed (exchanges : List Exchange) (outcome : Outcome BuildReport) : Prop where
  passes : ∀ x ∈ exchanges, x.passes = true
  inTime : ∀ limit, outcome ≠ .failed (.buildFailed (.timedOut limit))

variable {exchanges : List Exchange} {outcome : Outcome BuildReport}

/-- Lines that are written one after another. -/
theorem noteLines_path {lines : List LogLine} {ended : Outcome Unit}
    (hpath : Path (noteLines lines) exchanges ended) (hpasses : ∀ x ∈ exchanges, x.passes = true) :
    ended = .done () ∧ exchanges = lines.map Exchange.written := by
  induction lines generalizing exchanges with
  | nil => cases hpath; exact ⟨rfl, rfl⟩
  | cons line lines ih =>
    cases hpath with
    | unanswered => cases hpasses _ List.mem_cons_self
    | answered hrest =>
      obtain ⟨hended, rfl⟩ := ih hrest fun x hx => hpasses x (List.mem_cons_of_mem _ hx)
      exact ⟨hended, rfl⟩

/-- A wait for an event that is not cancelled passes, unless it runs out of time. -/
theorem awaitEvent_path {delay : Nat} {time : Option TimeLeft} {ended : Outcome (Option TimeLeft)}
    (hpath : Path (awaitEvent delay time) exchanges ended)
    (hpasses : ∀ x ∈ exchanges, x.passes = true) :
    (∃ millis, exchanges = [⟨.pause millis, some .elapsed⟩]) ∧
      ((∃ time', ended = .done time') ∨
        ∃ limit, ended = .failed (.buildFailed (.timedOut limit))) := by
  cases time with
  | none =>
    cases hpath with
    | unanswered => cases hpasses _ List.mem_cons_self
    | @answered _ _ how _ _ hrest =>
      cases how with
      | cancelled => cases hpasses _ List.mem_cons_self
      | elapsed => cases hrest; exact ⟨⟨_, rfl⟩, .inl ⟨_, rfl⟩⟩
  | some time =>
    cases hpath with
    | unanswered => cases hpasses _ List.mem_cons_self
    | @answered _ _ how _ _ hrest =>
      cases how with
      | cancelled => cases hpasses _ List.mem_cons_self
      | elapsed =>
        by_cases hdelay : delay ≤ time.millis
        · change Path (if delay ≤ time.millis then _ else _) _ _ at hrest
          rw [if_pos hdelay] at hrest
          cases hrest
          exact ⟨⟨_, rfl⟩, .inl ⟨_, rfl⟩⟩
        · change Path (if delay ≤ time.millis then _ else _) _ _ at hrest
          rw [if_neg hdelay] at hrest
          cases hrest
          exact ⟨⟨_, rfl⟩, .inr ⟨_, rfl⟩⟩

/-- Nothing is written while nothing happens. -/
theorem awaitSilence_path {time : Option TimeLeft}
    (hpath : Path (awaitSilence time) exchanges outcome) (h : Undisturbed exchanges outcome) :
    leadingLines exchanges = [] ∧ chapters exchanges = [] := by
  cases time with
  | none =>
    cases hpath with
    | unanswered => exact ⟨rfl, rfl⟩
    | answered hrest => cases hrest; exact ⟨rfl, rfl⟩
  | some time =>
    cases hpath with
    | unanswered => cases h.passes _ List.mem_cons_self
    | @answered _ _ how _ _ hrest =>
      cases how with
      | cancelled => cases h.passes _ List.mem_cons_self
      | elapsed => cases hrest; exact absurd rfl (h.inTime _)

/-- A watch that is not disturbed writes down the lines of its reading, and comes to the report of
its reading if there is one. -/
theorem watchEvents_chapters {staysOpen : Bool} {reading : BuildReading} {time : Option TimeLeft}
    {events : List TimedEvent}
    (hpath : Path (watchEvents staysOpen reading time events) exchanges outcome)
    (h : Undisturbed exchanges outcome) :
    leadingLines exchanges = [] ∧
      chapters exchanges = reading.chapters (events.map (·.event)) ∧
      ∀ report, (reading.readAll (events.map (·.event))).2 = .ok report →
        outcome = .done report := by
  induction events generalizing reading time exchanges with
  | nil =>
    refine (and_assoc.1 ⟨?_, fun report hreport => by cases hreport⟩)
    rw [watchEvents] at hpath
    split at hpath
    · exact awaitSilence_path hpath h
    · cases hpath; exact ⟨rfl, rfl⟩
  | cons timed rest ih =>
    obtain ⟨delay, e⟩ := timed
    rcases path_bind hpath with ⟨failure, hwait, rfl⟩ | ⟨hwait, rfl⟩ |
      ⟨time', waiting, _, hwait, hlater, rfl⟩
    · rcases (awaitEvent_path hwait h.passes).2 with ⟨_, hdone⟩ | ⟨limit, hlate⟩
      · cases hdone
      · cases hlate
        exact absurd rfl (h.inTime limit)
    · rcases (awaitEvent_path hwait h.passes).2 with ⟨_, hdone⟩ | ⟨_, hlate⟩
      · cases hdone
      · cases hlate
    have hpasses := List.forall_mem_append.1 h.passes
    obtain ⟨⟨millis, rfl⟩, -⟩ := awaitEvent_path hwait hpasses.1
    rcases path_bind hlater with ⟨_, hnotes, rfl⟩ | ⟨hnotes, rfl⟩ |
      ⟨_, writing, after, hnotes, hafter, rfl⟩
    · cases (noteLines_path hnotes hpasses.2).1
    · cases (noteLines_path hnotes hpasses.2).1
    have hpasses' := List.forall_mem_append.1 hpasses.2
    obtain ⟨-, rfl⟩ := noteLines_path hnotes hpasses'.1
    have h' : Undisturbed after outcome := ⟨hpasses'.2, h.inTime⟩
    refine ⟨rfl, ?_⟩
    rw [List.singleton_append, chapters_waited, List.map_cons, BuildReading.chapters,
      BuildReading.readAll]
    cases hread : reading.read e with
    | more next =>
      simp only [hread] at hafter
      obtain ⟨hleading, hrest, hreport⟩ := ih hafter h'
      rw [hleading, hrest, List.append_nil]
      exact ⟨rfl, hreport⟩
    | decided result =>
      simp only [hread] at hafter
      cases result with
      | ok report =>
        cases hafter
        refine ⟨by simp [leadingLines, chapters], ?_⟩
        rintro _ ⟨⟩
        rfl
      | error flaw =>
        cases hafter
        refine ⟨by simp [leadingLines, chapters], ?_⟩
        rintro _ ⟨⟩

/-- What a watch comes to and what it writes down about the events of a build. -/
structure BuildStream.Watched (stream : BuildStream) (exchanges : List Exchange)
    (outcome : Outcome BuildReport) : Prop where
  /-- A report that is returned is the one that the events make. -/
  report : ∀ report, outcome = .done report → Reports (stream.events.map (·.event)) report
  /-- A watch that is not disturbed returns it. -/
  returned : Undisturbed exchanges outcome → ∀ report,
    Reports (stream.events.map (·.event)) report → outcome = .done report
  /-- If the steps listed before the event that decides are all prefixes of one list, the lines
  written about progress are the longest of them. -/
  progress : Undisturbed exchanges outcome → ∀ script,
    (∀ steps ∈ BuildEvent.stepLists (stream.events.map (·.event)), steps <+: script) →
    ∃ longest, IsLongest longest ([] :: BuildEvent.stepLists (stream.events.map (·.event))) ∧
      progressLines (stream.events.map (·.event)) (chapters exchanges) =
        longest.map (.said .info)

/-- Each line of progress is logged once and in order, and the report is that of the events. -/
theorem BuildStream.watch_watched {stream : BuildStream} {limit : Option Duration}
    (hpath : Path (stream.watch limit) exchanges outcome) : stream.Watched exchanges outcome where
  report := by
    rintro report rfl
    exact BuildReading.readAll_start_eq_ok.1 ((watchEvents_gives_report _ _ _ _).path hpath)
  returned := by
    intro h report hreports
    exact (watchEvents_chapters hpath h).2.2 report (BuildReading.readAll_start_eq_ok.2 hreports)
  progress := by
    intro h script hlists
    obtain ⟨longest, hlongest, hlines⟩ :=
      BuildReading.start.progressLines_chapters (List.nil_prefix (l := script)) rfl hlists
    refine ⟨longest, hlongest, ?_⟩
    rw [(watchEvents_chapters hpath h).2.1, hlines, List.length_nil, List.drop_zero]

/-- A build in which a shorter list of steps comes late and events follow the final one. -/
def BuildStream.repeating : BuildStream := .ofEvents
  [.progress ["upload", "genesis"], .warning "slow", .progress ["upload"], .info "root computed",
    .progress ["upload", "genesis", "launch"], .progress ["upload", "genesis"],
    .finished true "started", .progress ["late"]]

/-- Its three lines of progress are logged once, and its final event is the seventh. -/
theorem BuildStream.watch_watched_repeating :
    ∃ exchanges, Path (BuildStream.repeating.watch none) exchanges
        (.done ⟨7, ["slow"], "started"⟩) ∧
      progressLines (BuildStream.repeating.events.map (·.event)) (chapters exchanges) =
        ["upload", "genesis", "launch"].map (.said .info) ∧
      BuildStream.repeating.Watched exchanges (.done ⟨7, ["slow"], "started"⟩) := by
  have hpath := path_trace (World.respond ⟨0, false⟩) (BuildStream.repeating.watch none)
    (World.empty .standard false)
  exact ⟨_, hpath, by decide +kernel, watch_watched hpath⟩

end DevnetChaos
