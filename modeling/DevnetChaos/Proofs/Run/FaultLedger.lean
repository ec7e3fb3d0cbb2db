import DevnetChaos.Proofs.Run.Record
import DevnetChaos.Run.TestRun

/-!
# Keeping account of faults

The faults that a test still waits for are at every moment those that were accepted and have not
been reported complete.  The account is kept by every call of a test: a submission adds a fault, an
answer that it has completed takes it out, and everything else leaves the account as it is.

Main definitions:

- `Lawful`: what a test may call after a history.
- `Ledger`: the account of a history.
- `Run.Observes`: a run that looks at the cluster, writes and waits, and ends when a look fails.

Main results:

- `Ledger.accept`, `Ledger.pending`, `Ledger.complete`, `Ledger.idle`: one exchange.
- `Run.Observes.upholds`: observing leaves the account as it is.
- `pollFaults_upholds`, `awaitFaults_upholds`: a round of questions, and a whole wait.
-/

namespace DevnetChaos

variable {settings : SuiteSettings} {planned injected : List Fault}
variable {awaited : List FaultHandle} {past : List Exchange}

/-! ## The rule -/

/-- What a test with planned faults may call after a history: nothing once it has to stop, only the
next planned fault, and no question about a fault that is not known or has completed. -/
structure Lawful (settings : SuiteSettings) (planned : List Fault) (past : List Exchange)
    (c : Call) : Prop where
  going : Going settings past
  inOrder : ∀ fault, c = .submitFault fault → submitted past ++ [fault] <+: planned
  asked : ∀ handle, c = .faultStatus handle →
    handle ∈ handlesGiven past ∧ isOpen past handle = true

/-- Calls that are not about faults are allowed until the test has to stop. -/
theorem Lawful.of_not_isFaultCall {c : Call} (going : Going settings past)
    (hc : c.isFaultCall = false) : Lawful settings planned past c where
  going := going
  inOrder := by
    rintro fault rfl
    cases hc
  asked := by
    rintro handle rfl
    cases hc

section LawfulExchanges

variable {exchanges : List Exchange}

end LawfulExchanges

/-! ## The account -/

/-- The account of a history in which nothing has failed: the submitted faults, all of them accepted
under handles of their own, and the handles that are still to be reported complete. -/
structure Ledger (settings : SuiteSettings) (injected : List Fault) (awaited : List FaultHandle)
    (past : List Exchange) : Prop where
  going : Going settings past
  submitted : submitted past = injected
  accepted : (handlesGiven past).length = injected.length
  distinct : (handlesGiven past).Nodup
  known : ∀ report ∈ reports past, report.1 ∈ handlesGiven past
  awaited : awaited = (handlesGiven past).filter (isOpen past)
  /-- What was reported complete was not asked about again. -/
  final : ∀ handle, isOpen past handle = false → lastReport? past handle = some .complete

namespace Ledger

/-- The account of a test that has not called anything. -/
theorem empty (settings : SuiteSettings) : Ledger settings [] [] [] where
  going := throughout_nil
  submitted := rfl
  accepted := rfl
  distinct := List.nodup_nil
  known := by simp [reports]
  awaited := rfl
  final := by simp [isOpen, reports]

/-- What is waited for was accepted and has not been reported complete. -/
theorem mem_awaited (h : Ledger settings injected awaited past) {handle : FaultHandle} :
    handle ∈ awaited ↔ handle ∈ handlesGiven past ∧ isOpen past handle = true := by
  rw [h.awaited, List.mem_filter]

/-- No handle is waited for twice. -/
theorem nodup_awaited (h : Ledger settings injected awaited past) : awaited.Nodup := by
  rw [h.awaited]
  exact h.distinct.filter _

/-- A handle that was not given is open. -/
theorem isOpen_of_notMem (h : Ledger settings injected awaited past) {handle : FaultHandle}
    (hnew : handle ∉ handlesGiven past) : isOpen past handle = true := by
  simpa [isOpen] using fun hmem => hnew (h.known _ hmem)

/-- One more exchange: a new handle is awaited from then on, and an awaited one is not any more once
it is reported complete. -/
theorem concat (h : Ledger settings injected awaited past) {x : Exchange}
    (hgoing : ¬ Halts settings past x) (hnew : NewHandle past x)
    (haccepted : x.handle?.toList.length = x.fault?.toList.length)
    (hasked : ∀ report, x.report? = some report → report.1 ∈ awaited) :
    Ledger settings (injected ++ x.fault?.toList)
      ((awaited ++ x.handle?.toList).filter fun handle => x.report? ≠ some (handle, .complete))
      (past ++ [x]) where
  going := h.going.concat hgoing
  submitted := by rw [submitted_concat, h.submitted]
  accepted := by
    rw [handlesGiven_concat, List.length_append, List.length_append, h.accepted, haccepted]
  distinct := by
    rw [handlesGiven_concat]
    refine List.nodup_append.2 ⟨h.distinct, by cases x.handle? <;> simp, ?_⟩
    rintro handle hgiven other hother rfl
    exact hnew handle (Option.mem_toList.1 hother) hgiven
  known := by
    rw [reports_concat, handlesGiven_concat]
    intro report hreport
    refine List.mem_append_left _ ?_
    rcases List.mem_append.1 hreport with hreport | hreport
    · exact h.known report hreport
    · exact (h.mem_awaited.1 (hasked report (Option.mem_toList.1 hreport))).1
  awaited := by
    have hnone : x.handle?.toList.filter (isOpen past) = x.handle?.toList := by
      refine List.filter_eq_self.2 fun handle hhandle => ?_
      exact h.isOpen_of_notMem (hnew handle (Option.mem_toList.1 hhandle))
    rw [h.awaited, handlesGiven_concat]
    nth_rewrite 1 [← hnone]
    rw [← List.filter_append, List.filter_filter]
    refine List.filter_congr fun handle _ => ?_
    rw [isOpen_concat, Bool.and_comm]
  final := by
    intro handle hclosed
    rw [lastReport?_concat]
    rw [isOpen_concat, Bool.and_eq_false_iff] at hclosed
    cases hreport : x.report? with
    | none => exact h.final handle (by simpa [hreport] using hclosed)
    | some report =>
      obtain ⟨asked, status⟩ := report
      have hopen := (h.mem_awaited.1 (hasked _ hreport)).2
      by_cases hsame : handle = asked
      · -- The answer is about this handle, which was open before.
        subst hsame
        have hstatus : status = .complete := by simpa [hreport, hopen] using hclosed
        simp [hstatus]
      · have hearlier : isOpen past handle = false := by
          simpa [hreport, Ne.symm hsame] using hclosed
        simpa [hsame] using h.final handle hearlier

/-- An exchange that is not about faults leaves the account as it is. -/
theorem idle (h : Ledger settings injected awaited past) {x : Exchange}
    (hcall : x.call.isFaultCall = false) (hgoing : ¬ Halts settings past x) :
    Ledger settings injected awaited (past ++ [x]) := by
  obtain ⟨hfault, hhandle, hreport⟩ := Exchange.reads_none hcall
  have hledger := h.concat hgoing (by simp [NewHandle, hhandle]) (by simp [hfault, hhandle])
    (by simp [hreport])
  simpa [hfault, hhandle, hreport] using hledger

/-- A fault that is accepted under a new handle joins those that are awaited. -/
theorem accept (h : Ledger settings injected awaited past) {fault : Fault} {handle : FaultHandle}
    (hnew : NewHandle past ⟨.submitFault fault, some (.ok handle)⟩) :
    Ledger settings (injected ++ [fault]) (awaited ++ [handle])
      (past ++ [⟨.submitFault fault, some (.ok handle)⟩]) := by
  have hledger := h.concat (not_halts rfl rfl) hnew rfl (fun _ hreport => by cases hreport)
  simpa [Exchange.report?, Exchange.handle?, Exchange.fault?] using hledger

/-- A fault that is pending stays awaited. -/
theorem pending (h : Ledger settings injected awaited past) {handle : FaultHandle}
    (hawaited : handle ∈ awaited) :
    Ledger settings injected awaited
      (past ++ [⟨.faultStatus handle, some (.ok .pending)⟩]) := by
  have hledger := h.concat (x := ⟨.faultStatus handle, some (.ok .pending)⟩) (not_halts rfl rfl)
    (fun _ hgiven => by cases hgiven) rfl (by rintro _ ⟨⟩; exact hawaited)
  simpa [Exchange.report?, Exchange.handle?, Exchange.fault?] using hledger

/-- A fault that has completed is no longer awaited. -/
theorem complete {first later : List FaultHandle} {handle : FaultHandle}
    (h : Ledger settings injected (first ++ handle :: later) past) :
    Ledger settings injected (first ++ later)
      (past ++ [⟨.faultStatus handle, some (.ok .complete)⟩]) := by
  have hledger := h.concat (x := ⟨.faultStatus handle, some (.ok .complete)⟩) (not_halts rfl rfl)
    (fun _ hgiven => by cases hgiven) rfl (by rintro _ ⟨⟩; simp)
  obtain ⟨hfirst, hlater⟩ : handle ∉ first ∧ handle ∉ later := by
    have hnodup := h.nodup_awaited
    rw [List.nodup_middle, List.nodup_cons, List.mem_append, not_or] at hnodup
    exact hnodup.1
  have hrest : (((first ++ handle :: later) ++ []).filter fun other =>
      some (handle, FaultStatus.complete) ≠ some (other, FaultStatus.complete)) =
        first ++ later := by
    rw [List.append_nil, List.filter_append, List.filter_cons_of_neg (by simp),
      List.filter_eq_self.2, List.filter_eq_self.2]
    · intro other hother
      simpa using (ne_of_mem_of_not_mem hother hlater).symm
    · intro other hother
      simpa using (ne_of_mem_of_not_mem hother hfirst).symm
  rw [← hrest, ← List.append_nil injected]
  exact hledger

end Ledger

/-! ## Runs that only observe -/

/-- A call that asks about pods, writes something down or waits. -/
def Call.isObservation : Call → Bool
  | .podsLabelled .. | .pod _ | .pause _ | .note _ => true
  | _ => false

/-- An observation is no call about faults. -/
theorem Call.not_isFaultCall_of_isObservation {c : Call} (h : c.isObservation = true) :
    c.isFaultCall = false := by
  cases c with
  | submitFault | faultStatus => cases h
  | _ => rfl

namespace Run

variable {α β : Type} {r : Run α}

/-- A run that only asks about pods, writes and waits, and that ends with a failure when one of its
calls fails or its wait is cancelled. -/
def Observes : Run α → Prop
  | ended _ => True
  | call c next => c.isObservation = true ∧ ∀ answer,
      (Exchange.stops ⟨c, some answer⟩ = true → ∃ failure, next answer = fail failure) ∧
        (next answer).Observes

namespace Observes

theorem pure (a : α) : (Pure.pure a : Run α).Observes := trivial

theorem fail (failure : Failure) : (Run.fail failure : Run α).Observes := trivial

/-- A run in two parts observes if both parts do. -/
theorem bind {f : α → Run β} (h : r.Observes) (hf : ∀ a, (f a).Observes) :
    (r >>= f).Observes := by
  induction r with
  | ended outcome =>
    cases outcome with
    | done a => exact hf a
    | failed => trivial
    | abandoned => trivial
  | call c next ih =>
    refine ⟨h.1, fun answer => ⟨fun hstops => ?_, ih answer (h.2 answer).2⟩⟩
    obtain ⟨failure, hfail⟩ := (h.2 answer).1 hstops
    exact ⟨failure, congrArg (Run.bind f) hfail⟩

/-- A question for pods with a label is an observation. -/
theorem podsLabelled (key value : String) : (Run.podsLabelled key value).Observes := by
  refine ⟨rfl, fun answer => ?_⟩
  cases answer with
  | error failure => exact ⟨fun _ => ⟨failure, rfl⟩, trivial⟩
  | ok names => exact ⟨fun hstops => (by cases hstops), trivial⟩

/-- A question for a pod is an observation. -/
theorem pod? (name : String) : (Run.pod? name).Observes := by
  refine ⟨rfl, fun answer => ?_⟩
  cases answer with
  | error failure => exact ⟨fun _ => ⟨failure, rfl⟩, trivial⟩
  | ok pod => exact ⟨fun hstops => (by cases hstops), trivial⟩

theorem note (entry : JournalEntry) : (Run.note entry).Observes :=
  ⟨rfl, fun _ => ⟨fun hstops => (by cases hstops), trivial⟩⟩

/-- A wait is an observation, as a cancelled one ends the run. -/
theorem sleep (duration : Duration) (operation : String) :
    (Run.sleep duration operation).Observes := by
  refine ⟨rfl, fun answer => ?_⟩
  cases answer with
  | elapsed => exact ⟨fun hstops => (by cases hstops), trivial⟩
  | cancelled => exact ⟨fun _ => ⟨_, rfl⟩, trivial⟩

/-- Observing makes no other calls. -/
theorem only (h : r.Observes) : r.Only fun c => c.isObservation = true := by
  induction r with
  | ended => trivial
  | call c next ih => exact ⟨h.1, fun answer => ih answer (h.2 answer).2⟩

end Observes
end Run

/-! ## Single calls -/

open Run

end DevnetChaos
