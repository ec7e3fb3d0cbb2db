import DevnetChaos.Decimal.Layout
import DevnetChaos.Planner.Config

/-!
# Network size

How many nodes a generated network has, not counting the bootnode.

Main definitions:

- `NetworkSize`: the nodes with the target client, and the nodes after padding.
- `SizingPolicy.size`: the size for a number of clients on the other side.

Main results:

- `NetworkSize.base_le_target`: padding never takes nodes away.
-/

namespace DevnetChaos

/-- Number of nodes before and after padding. -/
structure NetworkSize where
  base : Nat
  target : Nat
  base_le_target : base ≤ target

/-- A floating-point number as a count: cut at zero and at the largest word, zero for what is not a
number. -/
def countOfFloat (x : Float) : Nat := x.toUInt64.toNat

/-- The share, rounded up to whole nodes, that `base` nodes are of the whole network.  A trillionth
is taken off first, so that noise such as `10.000000000000002` does not add a node. -/
def networkOf (base : Nat) (share : Float) : Nat :=
  let raw := (UInt64.ofNat base).toFloat / share
  countOfFloat (raw - raw * 1e-12).ceil

namespace SizingPolicy

/-- Whether a share can be asked for: at least nothing and less than everything. -/
def validShare (share : Float) : Bool := 0.0 ≤ share && share < 1.0

/-- The size of a network with `counterparts` clients on the other side.  A share of zero cannot
size anything and is ignored. -/
def size (policy : SizingPolicy) (counterparts : Nat) : Except Failure NetworkSize :=
  if policy.factor = 0 then .error (.configuration .zeroMultiplier)
  else
    let base := wrap64 (policy.factor.toNat * counterparts)
    match policy.share with
    | none => .ok ⟨base, base, Nat.le_refl _⟩
    | some share =>
        if !validShare share then
          .error (.configuration (.shareOutOfRange (Decimal.Layout.message.render share)))
        else if share == 0.0 then .ok ⟨base, base, Nat.le_refl _⟩
        else .ok ⟨base, max (networkOf base share) base, Nat.le_max_right _ _⟩

end SizingPolicy
end DevnetChaos
