import DevnetChaos.Proofs.Simulation.FaultEngine
import Mathlib.Logic.Function.Iterate

/-!
# Scripts of submissions

The simulated fault platform hands its scripts out to submissions: each submission that reaches it
takes the first script that is left, or the default script if none is, and from then on the
questions about its handle are answered from that script alone.  Histories are listed with the last
step first, and what a platform answers is compared with what can be read off its history.

Main definitions:

- `EngineStep`, `FaultEngine.after`: what is done with a platform, and the platform afterwards.
- `EngineHistory.nextScript`: the script that the next submission takes.
- `EngineHistory.asked`: how often a handle was asked about since it was given out.
- `EngineHistory.Scripted`: a history after which every answer comes from the right script.
- `EngineHistory.Numbered`: a history in which the platform names the submissions itself.

Main results:

- `FaultEngine.nextStatus_leftOver`: the answers of a script one after the other.
- `EngineHistory.nextScript_after`: scripts are handed out in order, one for each submission.
- `EngineHistory.running_after`: what is left of a script depends on its own questions only.
- `EngineHistory.scripted_of_handlesDistinct`: every history with different handles is scripted.
- `EngineHistory.Numbered.ownHandles`: the platform itself gives out different handles.
-/

namespace DevnetChaos

/-! ## Steps -/

/-- Something that is done with a fault platform. -/
inductive EngineStep where
  /-- A script is queued. -/
  | script (script : SubmissionScript)
  | setDefault (script : SubmissionScript)
  | setReachable (reachable : Bool)
  /-- A fault is submitted, with the handle that it gets if it is accepted. -/
  | submit (handle : FaultHandle) (fault : Fault)
  /-- The status of a handle is asked for. -/
  | ask (handle : FaultHandle)
  deriving DecidableEq, Repr

/-- What was done with a platform, the last step first. -/
abbrev EngineHistory := List EngineStep

namespace FaultEngine

/-- The platform after one more step. -/
def take (e : FaultEngine) : EngineStep → FaultEngine
  | .script script => e.addScript script
  | .setDefault script => { e with defaultScript := script }
  | .setReachable reachable => { e with reachable }
  | .submit handle fault => (e.submitAs handle fault).2
  | .ask handle => (e.status handle).2

/-- The platform after a history. -/
def after (past : EngineHistory) : FaultEngine := past.foldr (fun step e => e.take step) .empty

/-- The handles that were given out differ. -/
def HandlesDistinct (e : FaultEngine) : Prop := (e.accepted.map (·.handle)).Nodup

instance (e : FaultEngine) : Decidable e.HandlesDistinct :=
  inferInstanceAs (Decidable (e.accepted.map (·.handle)).Nodup)

end FaultEngine

namespace SubmissionScript

/-- The answer to a submission that takes a script. -/
def verdict (script : SubmissionScript) (handle : FaultHandle) :
    Except Failure (FaultHandle × Option PodPhase) :=
  match script.rejection with
  | some reason => .error (.ofPlatform FaultEngine.platform reason)
  | none => .ok (handle, script.podPhase)

/-- The answer to a question after some others: the next status, or the last one when there is no
other; without any status the fault is complete. -/
def told (script : SubmissionScript) (before : Nat) : FaultStatus :=
  script.statuses.getD before (script.statuses.getLastD .complete)

end SubmissionScript

/-! ## Reading a history -/

namespace EngineHistory

/-- Whether the platform can be reached. -/
def isReachable : EngineHistory → Bool
  | [] => true
  | .setReachable reachable :: _ => reachable
  | _ :: past => isReachable past

/-- The default script in force. -/
def defaultScript : EngineHistory → SubmissionScript
  | [] => .completes
  | .setDefault script :: _ => script
  | _ :: past => defaultScript past

/-- The scripts that were queued, in order. -/
def queued : EngineHistory → List SubmissionScript
  | [] => []
  | .script script :: past => queued past ++ [script]
  | _ :: past => queued past

/-- How many of them were taken: each submission that reached the platform took one, if one was
left. -/
def taken : EngineHistory → Nat
  | [] => 0
  | .submit .. :: past =>
      if isReachable past ∧ taken past < (queued past).length then taken past + 1 else taken past
  | _ :: past => taken past

/-- The script that the next submission takes: the first one that is left, or the default. -/
def nextScript (past : EngineHistory) : SubmissionScript :=
  past.queued[past.taken]?.getD past.defaultScript

/-- Whether the next submission is accepted. -/
def accepts (past : EngineHistory) : Bool := past.isReachable && past.nextScript.rejection.isNone

/-- The faults of the accepted submissions, in order. -/
def acceptedFaults : EngineHistory → List Fault
  | [] => []
  | .submit _ fault :: past =>
      acceptedFaults past ++ if accepts past then [fault] else []
  | _ :: past => acceptedFaults past

/-- How often a handle was asked about while the platform could be reached, as it could when the
handle was given out. -/
def asked (handle : FaultHandle) : EngineHistory → Nat
  | [] => 0
  | .ask other :: since =>
      asked handle since + if isReachable since ∧ other = handle then 1 else 0
  | _ :: since => asked handle since

end EngineHistory

/-! ## One call -/

/-- A handle is nothing but its text. -/
theorem FaultHandle.eq_of_text {a b : FaultHandle} (h : a.text = b.text) : a = b := by
  cases a
  cases b
  cases h
  rfl

namespace FaultEngine

/-- Whether the next submission is accepted. -/
def accepts (e : FaultEngine) : Bool := e.reachable && e.nextScript.1.rejection.isNone

/-- The script that is taken is the first one, or the default script. -/
theorem nextScript_fst (e : FaultEngine) :
    e.nextScript.1 = e.scripts.headD e.defaultScript := by
  unfold nextScript
  cases e.scripts <;> rfl

/-- Taking a script changes nothing but the scripts. -/
theorem nextScript_snd (e : FaultEngine) :
    e.nextScript.2 = { e with scripts := e.scripts.tail } := by
  cases e with
  | mk scripts => cases scripts <;> rfl

/-- A platform that cannot be reached is not changed by a submission. -/
theorem submitAs_of_not_reachable {e : FaultEngine} (h : e.reachable = false)
    (handle : FaultHandle) (fault : Fault) :
    e.submitAs handle fault = (.error unreachable, e) := by
  simp [submitAs, h]

/-- Nor by a question. -/
theorem status_of_not_reachable {e : FaultEngine} (h : e.reachable = false)
    (handle : FaultHandle) : e.status handle = (.error unreachable, e) := by
  simp [status, answer, h]

section Submission

variable (e : FaultEngine) (handle : FaultHandle) (fault : Fault)

/-- A submission that is accepted is recorded with its handle, under which the answers of its script
are kept. -/
def acceptAs (statuses : List FaultStatus) : FaultEngine :=
  { e.record (some handle) fault with running := e.running.insert handle.text statuses }

/-- All that a submission can do. -/
theorem submitAs_cases :
    (e.reachable = false ∧ e.submitAs handle fault = (.error unreachable, e)) ∨
      (∃ reason, e.reachable = true ∧ e.nextScript.1.rejection = some reason ∧
        e.submitAs handle fault =
          (.error (.ofPlatform platform reason), e.nextScript.2.record none fault)) ∨
      (e.reachable = true ∧ e.nextScript.1.rejection = none ∧
        e.submitAs handle fault = (.ok (handle, e.nextScript.1.podPhase),
          e.nextScript.2.acceptAs handle fault e.nextScript.1.statuses)) := by
  cases hreach : e.reachable with
  | false => exact .inl ⟨rfl, submitAs_of_not_reachable hreach handle fault⟩
  | true =>
    right
    cases hrejection : e.nextScript.1.rejection with
    | some reason =>
      left
      exact ⟨reason, rfl, rfl, by simp [submitAs, hreach, hrejection]⟩
    | none =>
      right
      exact ⟨rfl, rfl, by simp [submitAs, hreach, hrejection, acceptAs, record]⟩

/-- A submission that reaches the platform is answered by the next script. -/
theorem submitAs_fst (h : e.reachable = true) :
    (e.submitAs handle fault).1 = e.nextScript.1.verdict handle := by
  rcases e.submitAs_cases handle fault with ⟨hreach, -⟩ | ⟨_, -, hrejection, heq⟩ |
    ⟨-, hrejection, heq⟩
  · simp [h] at hreach
  · simp [heq, SubmissionScript.verdict, hrejection]
  · simp [heq, SubmissionScript.verdict, hrejection]

@[simp]
theorem submitAs_reachable : (e.submitAs handle fault).2.reachable = e.reachable := by
  rcases e.submitAs_cases handle fault with ⟨-, heq⟩ | ⟨_, -, -, heq⟩ | ⟨-, -, heq⟩ <;>
    simp [heq, nextScript_snd, record, acceptAs]

@[simp]
theorem submitAs_defaultScript :
    (e.submitAs handle fault).2.defaultScript = e.defaultScript := by
  rcases e.submitAs_cases handle fault with ⟨-, heq⟩ | ⟨_, -, -, heq⟩ | ⟨-, -, heq⟩ <;>
    simp [heq, nextScript_snd, record, acceptAs]

/-- A submission takes a script if it reaches the platform, whether it is accepted or not. -/
@[simp]
theorem submitAs_scripts :
    (e.submitAs handle fault).2.scripts = if e.reachable then e.scripts.tail else e.scripts := by
  rcases e.submitAs_cases handle fault with ⟨hreach, heq⟩ | ⟨_, hreach, -, heq⟩ |
    ⟨hreach, -, heq⟩ <;>
    simp [heq, hreach, nextScript_snd, record, acceptAs]

/-- Only an accepted submission is counted as such. -/
@[simp]
theorem submitAs_accepted :
    (e.submitAs handle fault).2.accepted =
      e.accepted ++ if e.accepts then [⟨some handle, fault⟩] else [] := by
  rcases e.submitAs_cases handle fault with ⟨hreach, heq⟩ | ⟨_, hreach, hrejection, heq⟩ |
    ⟨hreach, hrejection, heq⟩ <;>
    simp [accepts, nextScript_snd, record, acceptAs, accepted, *]

/-- An accepted submission is answered from its script, and no other handle is touched. -/
@[simp]
theorem submitAs_get? (text : String) :
    (e.submitAs handle fault).2.running.get? text =
      if e.accepts ∧ text = handle.text then some e.nextScript.1.statuses
      else e.running.get? text := by
  rcases e.submitAs_cases handle fault with ⟨hreach, heq⟩ | ⟨_, hreach, hrejection, heq⟩ |
    ⟨hreach, hrejection, heq⟩ <;>
    simp [accepts, nextScript_snd, record, acceptAs, TextMap.get?_insert, *]

end Submission

section Question

variable (e : FaultEngine) (handle : FaultHandle)

/-- A question changes nothing but the answers that are left, and the count of questions. -/
theorem status_frame : ∃ running queries,
    (e.status handle).2 = { e with running := running, statusQueries := queries } := by
  unfold status answer
  split
  · exact ⟨_, _, rfl⟩
  · dsimp only
    split <;> exact ⟨_, _, rfl⟩

@[simp]
theorem status_reachable : (e.status handle).2.reachable = e.reachable := by
  obtain ⟨_, _, h⟩ := e.status_frame handle
  rw [h]

@[simp]
theorem status_defaultScript : (e.status handle).2.defaultScript = e.defaultScript := by
  obtain ⟨_, _, h⟩ := e.status_frame handle
  rw [h]

@[simp]
theorem status_scripts : (e.status handle).2.scripts = e.scripts := by
  obtain ⟨_, _, h⟩ := e.status_frame handle
  rw [h]

@[simp]
theorem status_accepted : (e.status handle).2.accepted = e.accepted := by
  obtain ⟨_, _, h⟩ := e.status_frame handle
  rw [h]
  rfl

/-- A question takes an answer of its own handle, and no other handle is touched. -/
@[simp]
theorem status_get? (text : String) :
    (e.status handle).2.running.get? text =
      if e.reachable ∧ text = handle.text then
        (e.running.get? text).map fun statuses => (nextStatus statuses).2
      else e.running.get? text := by
  by_cases h : e.reachable = true
  · cases hget : e.running.get? handle.text with
    | none =>
      by_cases htext : text = handle.text <;> simp [status, answer, h, hget, htext]
    | some statuses =>
      by_cases htext : text = handle.text <;>
        simp [status, answer, h, hget, htext, TextMap.get?_insert]
  · simp [status, answer, h]

/-- A handle with answers left is told the next of them. -/
theorem status_fst {statuses : List FaultStatus} (h : e.reachable = true)
    (hget : e.running.get? handle.text = some statuses) :
    (e.status handle).1 = .ok (nextStatus statuses).1 := by
  simp [status, answer, h, hget]

end Question

/-! ## The answers of one script -/

/-- What is left of some answers when a number of them was told. -/
def leftOver (statuses : List FaultStatus) (told : Nat) : List FaultStatus :=
  (fun left => (nextStatus left).2)^[told] statuses

/-- What is left after one more answer is what that answer leaves. -/
theorem leftOver_succ (statuses : List FaultStatus) (told : Nat) :
    leftOver statuses (told + 1) = (nextStatus (leftOver statuses told)).2 :=
  Function.iterate_succ_apply' _ _ _

/-- The answers of a script are told one after the other, the last one for ever. -/
theorem nextStatus_leftOver (script : SubmissionScript) (told : Nat) :
    (nextStatus (leftOver script.statuses told)).1 = script.told told := by
  unfold SubmissionScript.told
  generalize script.statuses = statuses
  induction told generalizing statuses with
  | zero =>
    rcases statuses with _ | ⟨status, _ | ⟨next, rest⟩⟩ <;> rfl
  | succ told ih =>
    have hstep : leftOver statuses (told + 1) = leftOver (nextStatus statuses).2 told := rfl
    rw [hstep, ih]
    rcases statuses with _ | ⟨status, _ | ⟨next, rest⟩⟩
    · rfl
    · cases told <;> simp [nextStatus]
    · simp [nextStatus]

end FaultEngine

/-! ## Histories -/

namespace EngineHistory

open FaultEngine

/-- The engine after a history has taken its last step after all others. -/
@[simp]
theorem after_cons (step : EngineStep) (past : EngineHistory) :
    after (step :: past) = (after past).take step := rfl

/-- Whether an engine can be reached is told by its history. -/
@[simp]
theorem reachable_after (past : EngineHistory) : (after past).reachable = past.isReachable := by
  induction past with
  | nil => rfl
  | cons step past ih => cases step <;> simp [take, addScript, isReachable, ih]

/-- The standing script of an engine is the last one of its history. -/
@[simp]
theorem defaultScript_after (past : EngineHistory) :
    (after past).defaultScript = past.defaultScript := by
  induction past with
  | nil => rfl
  | cons step past ih => cases step <;> simp [take, addScript, defaultScript, ih]

/-- No more scripts are taken than were queued. -/
theorem taken_le (past : EngineHistory) : past.taken ≤ past.queued.length := by
  induction past with
  | nil => exact Nat.le_refl _
  | cons step past ih =>
    cases step with
    | submit =>
      simp only [taken, queued]
      split <;> omega
    | script => simp only [taken, queued, List.length_append]; omega
    | _ => exact ih

/-- The scripts that were queued and not taken are waiting, in order. -/
theorem scripts_after (past : EngineHistory) :
    (after past).scripts = past.queued.drop past.taken := by
  induction past with
  | nil => rfl
  | cons step past ih =>
    have hle := taken_le past
    cases step with
    | script script =>
      simp [take, addScript, queued, taken, ih, List.drop_append_of_le_length hle]
    | submit handle fault =>
      by_cases hreach : isReachable past = true
      · by_cases hleft : taken past < (queued past).length
        · simp [take, queued, taken, ih, hreach, hleft]
        · have hall : taken past = (queued past).length := by omega
          simp [take, queued, taken, ih, hreach, hall]
      · simp [take, queued, taken, ih, hreach]
    | _ => simp [take, queued, taken, ih]

/-- Scripts are handed out in the order in which they were queued, one for each submission. -/
theorem nextScript_after (past : EngineHistory) :
    (after past).nextScript.1 = past.nextScript := by
  rw [nextScript_fst, nextScript, scripts_after, defaultScript_after]
  simp [List.headD_eq_head?_getD]

/-- Whether the next submission is accepted is told by the history. -/
@[simp]
theorem accepts_after (past : EngineHistory) : (after past).accepts = past.accepts := by
  rw [FaultEngine.accepts, accepts, nextScript_after, reachable_after]

/-- The accepted submissions are recorded in order. -/
theorem submittedFaults_after (past : EngineHistory) :
    (after past).submittedFaults = past.acceptedFaults := by
  unfold submittedFaults
  induction past with
  | nil => rfl
  | cons step past ih =>
    cases step with
    | submit handle fault =>
      by_cases haccepts : accepts past = true <;> simp [take, acceptedFaults, ih, haccepts]
    | ask handle => simpa [take, acceptedFaults] using ih
    | _ => exact ih

/-! ## Questions about one handle -/

/-- No step takes an accepted submission away. -/
theorem accepted_take (e : FaultEngine) (step : EngineStep) :
    e.accepted <+: (e.take step).accepted := by
  cases step with
  | submit => simp [take]
  | ask => simp [take]
  | _ => exact List.prefix_rfl

/-- What was accepted stays accepted, whatever happens since. -/
theorem accepted_after_append (since past : EngineHistory) :
    (after past).accepted <+: (after (since ++ past)).accepted := by
  induction since with
  | nil => exact List.prefix_rfl
  | cons step since ih => exact ih.trans (accepted_take _ step)

/-- Handles that differ in the end differ before. -/
theorem handlesDistinct_of_cons {step : EngineStep} {past : EngineHistory}
    (h : (after (step :: past)).HandlesDistinct) : (after past).HandlesDistinct :=
  h.sublist ((accepted_take _ step).sublist.map _)

/-- Whether the platform can be reached is settled after a time at which it could be. -/
theorem isReachable_append (since : EngineHistory) {past : EngineHistory}
    (h : past.isReachable = true) : isReachable (since ++ past) = isReachable since := by
  induction since with
  | nil => exact h
  | cons step since ih => cases step <;> simp [isReachable, ih]

/-- A handle that was given out is not given out again. -/
theorem ne_of_handlesDistinct {since past : EngineHistory} {handle other : FaultHandle}
    {fault fault' : Fault} (haccepts : past.accepts = true)
    (hagain : accepts (since ++ .submit handle fault :: past) = true)
    (h : (after
      (.submit other fault' :: (since ++ .submit handle fault :: past))).HandlesDistinct) :
    handle.text ≠ other.text := by
  have hgiven : some handle ∈
      (after (since ++ .submit handle fault :: past)).accepted.map (·.handle) := by
    have hfirst : (⟨some handle, fault⟩ : Submission) ∈
        (after (.submit handle fault :: past)).accepted := by
      simp [take, haccepts]
    exact List.mem_map_of_mem ((accepted_after_append since _).subset hfirst)
  rw [HandlesDistinct, after_cons, take, submitAs_accepted, accepts_after, if_pos hagain,
    List.map_append, List.nodup_append] at h
  intro htext
  obtain rfl := FaultHandle.eq_of_text htext
  exact h.2.2 _ hgiven _ (by simp) rfl

/-- What is left of the answers about a handle depends on the script of its submission and on how
often it was asked about, and on nothing that was done to other handles. -/
theorem running_after {since past : EngineHistory} {handle : FaultHandle} {fault : Fault}
    (haccepts : past.accepts = true)
    (h : (after (since ++ .submit handle fault :: past)).HandlesDistinct) :
    (after (since ++ .submit handle fault :: past)).running.get? handle.text =
      some (leftOver past.nextScript.statuses (asked handle since)) := by
  have hreach : past.isReachable = true := by
    simp only [accepts, Bool.and_eq_true] at haccepts
    exact haccepts.1
  induction since with
  | nil => simp [take, haccepts, nextScript_after, asked, leftOver]
  | cons step since ih =>
    have hbefore := ih (handlesDistinct_of_cons h)
    rw [List.cons_append, after_cons]
    cases step with
    | submit other fault' =>
      rw [take, submitAs_get?, accepts_after, if_neg]
      · exact hbefore
      · rintro ⟨hagain, htext⟩
        exact ne_of_handlesDistinct haccepts hagain h htext
    | ask other =>
      have hsince := isReachable_append since
        (show isReachable (.submit handle fault :: past) = true from hreach)
      rw [take, status_get?, reachable_after, hsince, hbefore, asked]
      by_cases hasked : isReachable since = true ∧ other = handle
      · obtain ⟨hnow, rfl⟩ := hasked
        simp [hnow, leftOver_succ]
      · rw [if_neg hasked, if_neg]
        · rfl
        · rintro ⟨hnow, htext⟩
          exact hasked ⟨hnow, (FaultHandle.eq_of_text htext).symm⟩
    | _ => exact hbefore

end EngineHistory

/-! ## Handles of the platform itself -/

namespace FaultEngine

/-- The handles that were given out differ and count the accepted submissions. -/
structure OwnHandles (e : FaultEngine) : Prop where
  distinct : e.HandlesDistinct
  issued : ∀ s ∈ e.accepted, ∃ handle, s.handle = some handle ∧ e.Issued handle

/-- Whose handles the accepted submissions have is read off them alone. -/
theorem OwnHandles.of_accepted_eq {e e' : FaultEngine} (h : e.OwnHandles)
    (haccepted : e'.accepted = e.accepted) : e'.OwnHandles := by
  constructor
  · rw [HandlesDistinct, haccepted]
    exact h.distinct
  · intro s hs
    rw [haccepted] at hs
    obtain ⟨handle, hhandle, hissued⟩ := h.issued s hs
    exact ⟨handle, hhandle, hissued.mono (Nat.le_of_eq (by rw [haccepted]))⟩

/-- A submission under the next handle keeps the handles different. -/
theorem OwnHandles.submit {e : FaultEngine} (h : e.OwnHandles) (fault : Fault) :
    (e.submit fault).2.OwnHandles := by
  have haccepted := e.submitAs_accepted (e.nextHandle fault) fault
  by_cases haccepts : e.accepts = true
  · rw [if_pos haccepts] at haccepted
    have hlength : (e.submit fault).2.accepted.length = e.accepted.length + 1 := by
      rw [FaultEngine.submit, haccepted]
      simp
    constructor
    · rw [FaultEngine.submit, HandlesDistinct, haccepted, List.map_append, List.nodup_append]
      refine ⟨h.distinct, by simp, ?_⟩
      intro given hgiven new hnew
      obtain ⟨s, hs, rfl⟩ := List.mem_map.1 hgiven
      obtain ⟨handle, hhandle, hissued⟩ := h.issued s hs
      rw [List.map_singleton, List.mem_singleton] at hnew
      rw [hhandle, hnew]
      intro hsame
      exact hissued.ne_nextHandle fault (congrArg (·.text) (Option.some.inj hsame))
    · intro s hs
      rw [FaultEngine.submit, haccepted, List.mem_append] at hs
      rcases hs with hold | hnew
      · obtain ⟨handle, hhandle, hissued⟩ := h.issued s hold
        exact ⟨handle, hhandle, hissued.mono (by omega)⟩
      · rw [List.mem_singleton.1 hnew]
        exact ⟨_, rfl, fault, e.accepted.length + 1, rfl, by omega⟩
  · rw [if_neg haccepts, List.append_nil] at haccepted
    exact h.of_accepted_eq haccepted

end FaultEngine

namespace EngineHistory

open FaultEngine

/-- A history in which every submission has the handle that the platform itself gives it. -/
def Numbered : EngineHistory → Prop
  | [] => True
  | .submit handle fault :: past => handle = (after past).nextHandle fault ∧ Numbered past
  | _ :: past => Numbered past

/-- The platform itself gives out different handles. -/
theorem Numbered.ownHandles {past : EngineHistory} (h : past.Numbered) :
    (after past).OwnHandles := by
  induction past with
  | nil => exact ⟨List.nodup_nil, by simp [after, FaultEngine.empty, accepted]⟩
  | cons step past ih =>
    cases step with
    | submit handle fault =>
      obtain ⟨rfl, hpast⟩ := h
      exact (ih hpast).submit fault
    | ask handle => exact (ih h).of_accepted_eq (status_accepted _ handle)
    | _ => exact (ih h).of_accepted_eq rfl

/-! ## Every history -/

/-- After a history every answer comes from the script of its own submission.  A submission takes
the first script that is left, or the default script; the questions about an accepted one are told
the statuses of its script in order, the last one for ever, whatever else was done in between; what
does not reach the platform has no effect; and the accepted faults are listed in order. -/
structure Scripted (past : EngineHistory) : Prop where
  submission : ∀ handle fault, past.isReachable = true →
    ((after past).submitAs handle fault).1 = past.nextScript.verdict handle
  question : ∀ (since before : EngineHistory) (handle : FaultHandle) (fault : Fault),
    past = since ++ .submit handle fault :: before → before.accepts = true →
      past.isReachable = true →
        ((after past).status handle).1 = .ok (before.nextScript.told (asked handle since))
  unreachable : past.isReachable = false → ∀ handle fault,
    (after past).submitAs handle fault = (.error unreachable, after past) ∧
      (after past).status handle = (.error unreachable, after past)
  submitted : (after past).submittedFaults = past.acceptedFaults

/-- A history in which different handles are given out is scripted. -/
theorem scripted_of_handlesDistinct {past : EngineHistory} (h : (after past).HandlesDistinct) :
    past.Scripted where
  submission := by
    intro handle fault hreach
    rw [submitAs_fst _ _ _ (by rw [reachable_after, hreach]), nextScript_after]
  question := by
    rintro since before handle fault rfl haccepts hreach
    rw [status_fst _ _ (by rw [reachable_after, hreach]) (running_after haccepts h),
      nextStatus_leftOver]
  unreachable := by
    intro hreach handle fault
    have hengine : (after past).reachable = false := by rw [reachable_after, hreach]
    exact ⟨submitAs_of_not_reachable hengine handle fault,
      status_of_not_reachable hengine handle⟩
  submitted := submittedFaults_after past

/-- Two scripts, the second of which refuses, are taken by the first two of four submissions; the
third one takes the default script, and the fourth one does not reach the platform.  Of three
questions one does not reach it either. -/
def interleaved : EngineHistory :=
  let first : FaultHandle := ⟨"pod-restart-#1"⟩
  let second : FaultHandle := ⟨"pod-restart-#2"⟩
  let third : FaultHandle := ⟨"pod-restart-#3"⟩
  [.ask second, .setReachable true, .ask first, .submit third (.podRestart []),
    .setReachable false, .ask second, .ask first, .submit second (.podRestart []),
    .setDefault (.errors "out of memory"), .submit second (.podRestart []),
    .submit first (.podRestart []), .script (.rejected "denied"), .script (.pendingFor 1)]

/-- Two faults that are asked about in turn each have the answers of their own script. -/
theorem scripted_interleaved :
    (after interleaved).HandlesDistinct ∧ interleaved.Scripted ∧
      ((after interleaved).status ⟨"pod-restart-#1"⟩).1 = .ok .complete ∧
      ((after interleaved).status ⟨"pod-restart-#2"⟩).1 = .ok (.error "out of memory") := by
  have hnumbered : interleaved.Numbered := ⟨rfl, rfl, rfl, rfl, trivial⟩
  have hdistinct := hnumbered.ownHandles.distinct
  have hscripted := scripted_of_handlesDistinct hdistinct
  refine ⟨hdistinct, hscripted, ?_, ?_⟩
  · exact hscripted.question (interleaved.take 10) (interleaved.drop 11) _ _ rfl rfl rfl
  · exact hscripted.question (interleaved.take 7) (interleaved.drop 8) _ _ rfl rfl rfl

end EngineHistory
end DevnetChaos
