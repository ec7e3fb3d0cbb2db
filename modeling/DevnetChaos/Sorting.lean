/-!
# Sorting by a number

Stable insertion sort of a list by a numeric key.

Main results:

- `sortOn_perm`: sorting neither loses nor adds an element.
- `sortOn_sorted`: the keys of a sorted list do not decrease.
-/

namespace DevnetChaos

variable {α : Type}

/-- Puts an element in front of the first one with a larger or equal key. -/
def insertOn (key : α → Nat) (x : α) : List α → List α
  | [] => [x]
  | y :: rest => if key x ≤ key y then x :: y :: rest else y :: insertOn key x rest

/-- The elements in order of their keys; elements with one key keep their order. -/
def sortOn (key : α → Nat) : List α → List α
  | [] => []
  | x :: rest => insertOn key x (sortOn key rest)

theorem insertOn_perm (key : α → Nat) (x : α) (xs : List α) :
    (insertOn key x xs).Perm (x :: xs) := by
  induction xs with
  | nil => exact .refl _
  | cons y rest ih =>
    rw [insertOn]
    split
    · exact .refl _
    · exact (ih.cons y).trans (.swap x y rest)

/-- Sorting neither loses nor adds an element. -/
theorem sortOn_perm (key : α → Nat) (xs : List α) : (sortOn key xs).Perm xs := by
  induction xs with
  | nil => exact .refl _
  | cons x rest ih => exact (insertOn_perm key x _).trans (ih.cons x)

theorem insertOn_sorted (key : α → Nat) (x : α) {xs : List α}
    (h : xs.Pairwise fun a b => key a ≤ key b) :
    (insertOn key x xs).Pairwise fun a b => key a ≤ key b := by
  induction xs with
  | nil => simp [insertOn]
  | cons y rest ih =>
    obtain ⟨hy, hr⟩ := List.pairwise_cons.1 h
    rw [insertOn]
    split
    · next hle =>
      refine List.pairwise_cons.2 ⟨fun z hz => ?_, h⟩
      rcases List.mem_cons.1 hz with rfl | hz
      · exact hle
      · exact Nat.le_trans hle (hy z hz)
    · next hgt =>
      refine List.pairwise_cons.2 ⟨fun z hz => ?_, ih hr⟩
      rcases List.mem_cons.1 ((insertOn_perm key x rest).mem_iff.1 hz) with rfl | hz
      · omega
      · exact hy z hz

/-- The keys of a sorted list do not decrease. -/
theorem sortOn_sorted (key : α → Nat) (xs : List α) :
    (sortOn key xs).Pairwise fun a b => key a ≤ key b := by
  induction xs with
  | nil => exact .nil
  | cons x rest ih => exact insertOn_sorted key x ih

end DevnetChaos
