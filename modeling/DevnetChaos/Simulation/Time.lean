import DevnetChaos.Simulation.Perform

/-!
# Simulated time

Time passes only while something waits, and then exactly as long as the wait.  Appointments that
fall into a wait are kept in the order of their times; those of the very moment at which the wait
ends are kept by the next wait.  A wait beyond the deadline is left at the deadline.

Main definitions:

- `World.appoint`: makes an appointment.
- `World.wait`: lets time pass until a moment, or until something has happened.
- `World.respond`: the answers to all calls, waits included.
-/

namespace DevnetChaos
namespace Simulation
namespace World

/-- Puts an appointment behind those that are not later. -/
def insertAppointment (a : Appointment) : List Appointment → List Appointment
  | [] => [a]
  | b :: rest => if b.due ≤ a.due then b :: insertAppointment a rest else a :: b :: rest

/-- Makes an appointment for the time after some milliseconds. -/
def appoint (w : World) (millis : Nat) (action : Action) : World :=
  { w with agenda := insertAppointment ⟨w.now + millis, action⟩ w.agenda }

/-- Keeps appointments in order before a moment, without a moment all of them.  Says whether a
condition has come true on the way; what is left of the agenda stays. -/
def keepAppointments (stop : World → Bool) (moment : Option Nat) :
    List Appointment → World → Bool × World
  | [], w => (false, { w with agenda := [], now := moment.getD w.now })
  | a :: rest, w =>
      if moment.any (· ≤ a.due) then
        (false, { w with agenda := a :: rest, now := moment.getD w.now })
      else
        let w := (perform a.action { w with now := a.due, agenda := rest }).2
        if stop w then (true, w) else keepAppointments stop moment rest w

/-- The moment at which a wait ends at the latest, and whether the wait is left then. -/
def waitEnd (target deadline : Option Nat) : Option Nat × Bool :=
  match target, deadline with
  | some t, some d => if t ≤ d then (some t, false) else (some d, true)
  | some t, none => (some t, false)
  | none, d => (d, true)

/-- Waits until a moment or until a condition is true.  Says whether it is, or nothing if the wait
was left. -/
def wait (stop : World → Bool) (target : Option Nat) (w : World) : Option Bool × World :=
  if stop w then (some true, w)
  else
    let (moment, isLeft) := waitEnd target w.deadline
    let (stopped, w) := keepAppointments stop moment w.agenda w
    (if stopped then some true else if isLeft then none else some false, w)

/-- Waits for some milliseconds unless a token is cancelled. -/
def pause (token millis : Nat) (w : World) : Option WaitEnd × World :=
  let (stopped, w) := w.wait (·.isCancelled token) (some (w.now + millis))
  (stopped.map fun s => if s then .cancelled else .elapsed, w)

/-- Waits until a token is cancelled. -/
def awaitCancellation (token : Nat) (w : World) : Option Unit × World :=
  let (stopped, w) := w.wait (·.isCancelled token) none
  (stopped.map fun _ => (), w)

/-- The answers to all calls. -/
def respond (caller : Caller) : Environment World := fun call w =>
  match call with
  | .pause millis => w.pause caller.token millis
  | .awaitCancellation => w.awaitCancellation caller.token
  | other => respondAtOnce caller other w

/-- Carries a run out. -/
def carryOut {α : Type} (w : World) (caller : Caller) (r : Run α) : Outcome α × World :=
  r.execute (respond caller) w

end World
end Simulation
end DevnetChaos
