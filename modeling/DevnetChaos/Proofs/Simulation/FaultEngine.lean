import DevnetChaos.Run.TestRun
import DevnetChaos.Simulation.FaultEngine
import Mathlib.Data.List.Basic
import Mathlib.Data.List.Nodup

/-!
# Faults that complete

What the simulated fault platform does while it can be reached and its scripts let every fault
complete: submissions get handles that no earlier one has, and each question brings a fault nearer
to its completion.

Main definitions:

- `CompletesWithin`: answers that come to completion, and are pending before.
- `SubmissionScript.Harmless`, `FaultEngine.Calm`: scripts and platforms under which every fault
  completes.
- `FaultEngine.Awaits`: faults that complete within some questions.

Main results:

- `FaultEngine.handleText_inj`: handles with one text have one number.
- `FaultEngine.Awaits.accept`: an accepted submission has a handle of its own.
- `FaultEngine.submit_calm`: a submission is accepted and joins the faults that complete.
- `FaultEngine.status_calm`: a question is answered with completion or brings it nearer.
-/

namespace DevnetChaos

/-! ## Answers that come to completion -/

/-- Questions are answered with completion after at most `n` answers that the fault is pending. -/
inductive CompletesWithin : Nat → List FaultStatus → Prop where
  | complete {n : Nat} {statuses : List FaultStatus} :
      (FaultEngine.nextStatus statuses).1 = .complete → CompletesWithin n statuses
  | pending {n : Nat} {statuses : List FaultStatus} :
      (FaultEngine.nextStatus statuses).1 = .pending →
        CompletesWithin n (FaultEngine.nextStatus statuses).2 → CompletesWithin (n + 1) statuses

/-- What completes within some questions does so within more. -/
theorem CompletesWithin.mono {n m : Nat} {statuses : List FaultStatus}
    (h : CompletesWithin n statuses) (hle : n ≤ m) : CompletesWithin m statuses := by
  induction h generalizing m with
  | complete hnext => exact .complete hnext
  | pending hnext _ ih =>
    obtain ⟨m, rfl⟩ := Nat.exists_eq_add_one_of_ne_zero (show m ≠ 0 by omega)
    exact .pending hnext (ih (by omega))

/-- A script that is pending for some questions completes after them. -/
theorem completesWithin_pendingFor (polls : Nat) :
    CompletesWithin polls (SubmissionScript.pendingFor polls).statuses := by
  induction polls with
  | zero => exact .complete rfl
  | succ polls ih =>
    have hstatuses : (SubmissionScript.pendingFor (polls + 1)).statuses =
        .pending :: (SubmissionScript.pendingFor polls).statuses := rfl
    have hnext : FaultEngine.nextStatus (SubmissionScript.pendingFor (polls + 1)).statuses =
        (.pending, (SubmissionScript.pendingFor polls).statuses) := by
      rw [hstatuses]
      cases polls <;> rfl
    exact .pending (by rw [hnext]) (by rw [hnext]; exact ih)

/-- A script under which a submission is accepted, touches no pod, and completes within `n`
questions. -/
structure SubmissionScript.Harmless (n : Nat) (script : SubmissionScript) : Prop where
  accepted : script.rejection = none
  podPhase : script.podPhase = none
  completes : CompletesWithin n script.statuses

namespace FaultEngine

/-! ## Handles -/

/-- The text of a handle: the kind of the fault and a number. -/
def handleText (fault : Fault) (number : Nat) : String :=
  fault.kind ++ "-#" ++ toString number

theorem nextHandle_text (e : FaultEngine) (fault : Fault) :
    (e.nextHandle fault).text = handleText fault (e.accepted.length + 1) := rfl

/-- The next handle does not depend on the scripts. -/
theorem nextHandle_nextScript (e : FaultEngine) (fault : Fault) :
    e.nextScript.2.nextHandle fault = e.nextHandle fault := by
  unfold nextScript
  split <;> rfl

/-- No number sign stands in front of the one that begins a number. -/
theorem hash_not_mem_kind (fault : Fault) : '#' ∉ fault.kind.toList ++ ['-'] := by
  cases fault <;> simp [Fault.kind]

/-- Handles with one text have one number. -/
theorem handleText_inj {fault fault' : Fault} {i j : Nat}
    (h : handleText fault i = handleText fault' j) : i = j := by
  have hlist : ∀ (f : Fault) (n : Nat), (handleText f n).toList =
      (f.kind.toList ++ ['-']) ++ '#' :: Nat.toDigits 10 n := by
    intro f n
    simp [handleText, Nat.toString_eq_repr]
  have hdigits : '#' ∉ Nat.toDigits 10 i := fun hmem =>
    absurd (Nat.isDigit_of_mem_toDigits (by decide) (by decide) hmem) (by decide)
  have hsplit := congrArg String.toList h
  rw [hlist, hlist, List.append_cons_inj_of_notMem (hash_not_mem_kind fault) hdigits] at hsplit
  have hvalue := congrArg (fun cs => Nat.ofDigitChars 10 cs 0) hsplit.2.2
  simpa using hvalue

/-- A handle that was given out to one of the accepted submissions. -/
def Issued (e : FaultEngine) (handle : FaultHandle) : Prop :=
  ∃ fault number, handle.text = handleText fault number ∧ number ≤ e.accepted.length

/-- A handle stays issued while submissions are added. -/
theorem Issued.mono {e e' : FaultEngine} {handle : FaultHandle} (h : e.Issued handle)
    (hle : e.accepted.length ≤ e'.accepted.length) : e'.Issued handle := by
  obtain ⟨fault, number, htext, hnumber⟩ := h
  exact ⟨fault, number, htext, Nat.le_trans hnumber hle⟩

/-- The next handle differs from every issued one. -/
theorem Issued.ne_nextHandle {e : FaultEngine} {handle : FaultHandle} (h : e.Issued handle)
    (fault : Fault) : handle.text ≠ (e.nextHandle fault).text := by
  obtain ⟨other, number, htext, hnumber⟩ := h
  intro hsame
  rw [htext, nextHandle_text] at hsame
  have := handleText_inj hsame
  omega

/-! ## Calm platforms -/

/-- A platform that can be reached and under whose scripts every fault completes within `n`
questions. -/
structure Calm (n : Nat) (e : FaultEngine) : Prop where
  reachable : e.reachable = true
  scripts : ∀ script ∈ e.defaultScript :: e.scripts, script.Harmless n

/-- A submission that completes within `n` questions. -/
def CompletesIn (e : FaultEngine) (n : Nat) (handle : FaultHandle) : Prop :=
  ∃ statuses, e.running.get? handle.text = some statuses ∧ CompletesWithin n statuses

/-- When a submission completes depends only on the answers that are still to be told about it. -/
theorem CompletesIn.of_get?_eq {e e' : FaultEngine} {n : Nat} {handle : FaultHandle}
    (h : e.CompletesIn n handle)
    (hget : e'.running.get? handle.text = e.running.get? handle.text) :
    e'.CompletesIn n handle := by
  obtain ⟨statuses, hstatuses, hcompletes⟩ := h
  exact ⟨statuses, hget.trans hstatuses, hcompletes⟩

/-- Submitted faults with handles of their own that complete within `n` questions each. -/
structure Awaits (e : FaultEngine) (n : Nat) (faults : List OutstandingFault) : Prop where
  distinct : (faults.map (·.handle.text)).Nodup
  issued : ∀ f ∈ faults, e.Issued f.handle
  completes : ∀ f ∈ faults, e.CompletesIn n f.handle

theorem awaits_nil (e : FaultEngine) (n : Nat) : e.Awaits n [] :=
  ⟨List.nodup_nil, by simp, by simp⟩

/-- Some of the faults, which may have come nearer to their completion without a submission. -/
theorem Awaits.sublist {e e' : FaultEngine} {n k : Nat} {faults left : List OutstandingFault}
    (h : e.Awaits n faults) (hleft : left.Sublist faults)
    (hsubmissions : e'.submissions = e.submissions)
    (hcompletes : ∀ f ∈ left, e'.CompletesIn k f.handle) : e'.Awaits k left := by
  have haccepted : e'.accepted = e.accepted := by rw [accepted, accepted, hsubmissions]
  refine ⟨h.distinct.sublist (hleft.map _), ?_, hcompletes⟩
  intro f hf
  exact (h.issued f (hleft.subset hf)).mono (Nat.le_of_eq (congrArg List.length haccepted.symm))

/-! ## Submissions -/

/-- The platform after it has accepted a submission under the next handle. -/
def accept (e : FaultEngine) (fault : Fault) (statuses : List FaultStatus) : FaultEngine :=
  { e.record (some (e.nextHandle fault)) fault with
    running := e.running.insert (e.nextHandle fault).text statuses }

/-- One more submission is accepted. -/
theorem length_accepted_accept (e : FaultEngine) (fault : Fault) (statuses : List FaultStatus) :
    (e.accept fault statuses).accepted.length = e.accepted.length + 1 := by
  have hsubmissions : (e.accept fault statuses).submissions =
      e.submissions ++ [⟨some (e.nextHandle fault), fault⟩] := rfl
  simp [accepted, hsubmissions, List.filter_append]

/-- An accepted submission joins the faults that complete. -/
theorem Awaits.accept {e : FaultEngine} {n : Nat} {faults : List OutstandingFault}
    (h : e.Awaits n faults) (fault : Fault) {statuses : List FaultStatus}
    (hstatuses : CompletesWithin n statuses) :
    (e.accept fault statuses).Awaits n (faults ++ [⟨e.nextHandle fault, fault.kind⟩]) := by
  have hlength := e.length_accepted_accept fault statuses
  have hget : ∀ text, (e.accept fault statuses).running.get? text =
      if text = (e.nextHandle fault).text then some statuses else e.running.get? text :=
    fun text => TextMap.get?_insert ..
  refine ⟨?_, ?_, ?_⟩
  · rw [List.map_append, List.map_singleton]
    refine List.nodup_append.2 ⟨h.distinct, List.nodup_singleton _, ?_⟩
    intro text htext new hnew
    obtain ⟨f, hf, rfl⟩ := List.mem_map.1 htext
    rw [List.mem_singleton.1 hnew]
    exact (h.issued f hf).ne_nextHandle fault
  · intro f hf
    rcases List.mem_append.1 hf with hf | hf
    · exact (h.issued f hf).mono (by omega)
    · rw [List.mem_singleton.1 hf]
      exact ⟨fault, e.accepted.length + 1, rfl, Nat.le_of_eq hlength.symm⟩
  · intro f hf
    rcases List.mem_append.1 hf with hf | hf
    · refine (h.completes f hf).of_get?_eq ?_
      rw [hget, if_neg ((h.issued f hf).ne_nextHandle fault)]
    · rw [List.mem_singleton.1 hf]
      exact ⟨statuses, by rw [hget, if_pos rfl], hstatuses⟩

/-- In a calm platform the next script is harmless, and so are all that are left. -/
theorem nextScript_calm {n : Nat} {e : FaultEngine} (h : e.Calm n) :
    e.nextScript.1.Harmless n ∧ e.nextScript.2.Calm n ∧
      e.nextScript.2.submissions = e.submissions ∧ e.nextScript.2.running = e.running := by
  unfold nextScript
  cases hscripts : e.scripts with
  | nil => exact ⟨h.scripts _ List.mem_cons_self, h, rfl, rfl⟩
  | cons script rest =>
    have hmem : ∀ s ∈ e.defaultScript :: rest, s.Harmless n := by
      intro s hs
      refine h.scripts s ?_
      rw [hscripts]
      rcases List.mem_cons.1 hs with rfl | hs
      · exact List.mem_cons_self
      · exact List.mem_cons_of_mem _ (List.mem_cons_of_mem _ hs)
    refine ⟨h.scripts script ?_, ⟨h.reachable, hmem⟩, rfl, rfl⟩
    rw [hscripts]
    exact List.mem_cons_of_mem _ List.mem_cons_self

/-- A submission is accepted under a new handle and joins the faults that complete. -/
theorem submit_calm {n : Nat} {e : FaultEngine} (h : e.Calm n) (fault : Fault)
    {faults : List OutstandingFault} (hawaits : e.Awaits n faults) :
    ∃ handle e', e.submit fault = (.ok (handle, none), e') ∧ e'.Calm n ∧
      e'.Awaits n (faults ++ [⟨handle, fault.kind⟩]) := by
  obtain ⟨hscript, hcalm, hsubmissions, hrunning⟩ := nextScript_calm h
  have hhandle := nextHandle_nextScript e fault
  rcases hnext : e.nextScript with ⟨script, e₁⟩
  rw [hnext] at hscript hcalm hsubmissions hrunning hhandle
  have hbefore : e₁.Awaits n faults := by
    refine hawaits.sublist (List.Sublist.refl faults) hsubmissions fun f hf => ?_
    exact (hawaits.completes f hf).of_get?_eq (congrArg (·.get? f.handle.text) hrunning)
  have hsubmit : e.submit fault =
      (.ok (e₁.nextHandle fault, none), e₁.accept fault script.statuses) := by
    have haccepted : script.rejection = none := hscript.accepted
    have hphase : script.podPhase = none := hscript.podPhase
    rw [submit, submitAs, h.reachable, hnext, ← hhandle]
    simp only [haccepted, hphase]
    rfl
  exact ⟨_, _, hsubmit, ⟨hcalm.reachable, hcalm.scripts⟩, hbefore.accept fault hscript.completes⟩

/-! ## Questions -/

/-- A question about a fault that completes is answered with completion or brings it nearer, and
leaves all other faults alone. -/
theorem status_calm {n k : Nat} {e : FaultEngine} (h : e.Calm n) {handle : FaultHandle}
    (hcompletes : e.CompletesIn k handle) :
    ∃ answer e', e.status handle = (.ok answer, e') ∧ e'.Calm n ∧
      e'.submissions = e.submissions ∧
      (∀ text, text ≠ handle.text → e'.running.get? text = e.running.get? text) ∧
      (answer = .complete ∨ answer = .pending ∧ ∃ j, k = j + 1 ∧ e'.CompletesIn j handle) := by
  obtain ⟨statuses, hget, hstatuses⟩ := hcompletes
  let e' : FaultEngine :=
    { e with
      statusQueries := e.statusQueries + 1
      running := e.running.insert handle.text (nextStatus statuses).2 }
  have hothers : ∀ text, text ≠ handle.text → e'.running.get? text = e.running.get? text := by
    intro text hne
    rw [TextMap.get?_insert, if_neg hne]
  have hself : e'.running.get? handle.text = some (nextStatus statuses).2 := by
    rw [TextMap.get?_insert, if_pos rfl]
  refine ⟨(nextStatus statuses).1, e', ?_, ⟨h.reachable, h.scripts⟩, rfl, hothers, ?_⟩
  · rw [status, FaultEngine.answer, if_neg (by simp [h.reachable])]
    simp only [hget]
    rfl
  · cases hstatuses with
    | complete hnext => exact .inl hnext
    | pending hnext hlater => exact .inr ⟨hnext, _, rfl, _, hself, hlater⟩

end FaultEngine
end DevnetChaos
