import DevnetChaos.Enclave.State

/-!
# The notification bus

A reader finds the notifications published since it last looked.  The bus keeps the newest ones, a
power of two of them, and counts what a slow reader missed.

Main definitions:

- `Bus`: the notifications kept for the reader.
- `Bus.publish`, `Bus.markRead`: the two ends of the bus.
-/

namespace DevnetChaos

/-- Notifications on their way to a reader. -/
structure Bus where
  capacity : Nat
  /-- Whether there is a reader. -/
  subscribed : Bool
  /-- The kept notifications that were not read, oldest first. -/
  unread : List Notification
  /-- The number of notifications that were neither read nor kept. -/
  missed : Nat
  sent : Nat
  /-- The number of notifications published without a reader. -/
  dropped : Nat
  deriving DecidableEq, Repr

namespace Bus

/-- The smallest power of two that is not less than a number, found by doubling at most `fuel`
times. -/
def powerAtLeast (n : Nat) : Nat → Nat → Nat
  | 0, power => power
  | fuel + 1, power => if n ≤ power then power else powerAtLeast n fuel (2 * power)

/-- A bus with a reader.  It keeps at least one notification. -/
def ofCapacity (capacity : Nat) : Bus where
  capacity := powerAtLeast (max 1 capacity) 64 1
  subscribed := true
  unread := []
  missed := 0
  sent := 0
  dropped := 0

/-- Publishes a notification, which never fails. -/
def publish (b : Bus) (n : Notification) : Bus :=
  let b := { b with sent := b.sent + 1 }
  if b.subscribed then
    let unread := b.unread ++ [n]
    let excess := unread.length - b.capacity
    { b with unread := unread.drop excess, missed := b.missed + excess }
  else { b with dropped := b.dropped + 1 }

/-- The bus after everything was read. -/
def markRead (b : Bus) : Bus := { b with unread := [], missed := 0 }

/-- The bus after its reader went away. -/
def unsubscribe (b : Bus) : Bus := { b.markRead with subscribed := false }

end Bus
end DevnetChaos
