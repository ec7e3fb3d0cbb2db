import DevnetChaos.Planner.Vocabulary
import Mathlib.Algebra.Order.Field.Basic
import Mathlib.Algebra.Order.Ring.Rat
import Mathlib.Data.Rat.Cast.Order
import Mathlib.Order.Bounds.Basic

/-!
# Attack sizes and their bands

An attack size stands for a band of shares of the candidates.  The one count that is tried for it
is the largest in its band for a minority and the smallest in its band for the larger sizes, so a
size for which it is refused cannot be satisfied by any count.

Main definitions:

- `AttackSize.Band`: the shares that a size stands for.
- `AttackSize.counts`: the counts of attacked nodes with such a share.
- `AttackSize.Takes`: the one of these counts that a size asks for.

Main results:

- `AttackSize.nodeCount_bounds`: an attack hits at least one candidate and at most all.
- `AttackSize.inBand_iff`: the test on words is the test on shares.
- `AttackSize.candidate_takes`: the count that is tried is the one that is asked for.
- `AttackSize.nodeCount_exact`: the count of a size is the one that it asks for, and there is none
  exactly if its band is empty.
-/

namespace DevnetChaos
namespace AttackSize

/-! ## Bounds -/

/-- A third, rounded up, in whole numbers. -/
theorem thirdUp_le_iff {n k : Nat} : thirdUp n ≤ k ↔ n ≤ 3 * k := by
  unfold thirdUp
  omega

theorem thirdUp_pos {n : Nat} (hn : n ≠ 0) : 1 ≤ thirdUp n := by
  unfold thirdUp
  omega

/-- An attack hits at least one candidate and at most all, if twice their number fits a word. -/
theorem nodeCount_bounds {size : AttackSize} {n k : Nat} (hfits : 2 * n < wordCount)
    (h : size.nodeCount n = some k) : 1 ≤ k ∧ k ≤ n := by
  unfold nodeCount at h
  split at h
  · cases h
  · next hn =>
    simp only [Option.ite_none_right_eq_some, Bool.and_eq_true, decide_eq_true_eq,
      Option.some.injEq] at h
    obtain ⟨⟨hband, hle⟩, rfl⟩ := h
    refine ⟨?_, hle⟩
    cases size with
    | one => exact Nat.le_refl 1
    | minority =>
      simp only [inBand, Bool.and_eq_true, decide_eq_true_eq] at hband
      exact hband.1
    | superminority => exact thirdUp_pos hn
    | majority => exact Nat.le_add_left 1 _
    | supermajority =>
      rw [candidate, wrap64_of_lt hfits]
      exact thirdUp_pos (by omega)
    | all => exact Nat.one_le_iff_ne_zero.2 hn

/-! ## Bands -/

/-- The shares of the candidates that a size stands for. -/
def Band : AttackSize → ℚ → Prop
  | one, _ | all, _ => True
  | minority, share => share < 1 / 3
  | superminority, share => 1 / 3 ≤ share ∧ share < 1 / 2
  | majority, share => 1 / 2 < share ∧ share < 2 / 3
  | supermajority, share => 2 / 3 ≤ share ∧ share < 1

/-- The counts of attacked nodes, among `n` candidates, whose share lies in the band of a size. -/
def counts (size : AttackSize) (n : Nat) : Set Nat :=
  {k | 1 ≤ k ∧ k ≤ n ∧ size.Band ((k : ℚ) / n)}

/-- A count is the one that a size asks for among `n` candidates: the largest in the band of a
minority, the smallest in the bands above it. -/
def Takes (size : AttackSize) (n k : Nat) : Prop :=
  match size with
  | one => k ∈ counts one n ∧ k = 1
  | minority => IsGreatest (counts minority n) k
  | superminority => IsLeast (counts superminority n) k
  | majority => IsLeast (counts majority n) k
  | supermajority => IsLeast (counts supermajority n) k
  | all => k ∈ counts all n ∧ k = n

/-! ## Bands in whole numbers -/

/-- A share that lies below a fraction, in whole numbers. -/
theorem share_lt_iff {n : Nat} (hn : 0 < n) (k a b : Nat) (hb : 0 < b) :
    (k : ℚ) / n < a / b ↔ b * k < a * n := by
  have hn' : (0 : ℚ) < n := Nat.cast_pos.2 hn
  have hb' : (0 : ℚ) < b := Nat.cast_pos.2 hb
  rw [div_lt_div_iff₀ hn' hb', mul_comm (k : ℚ)]
  exact_mod_cast Iff.rfl

theorem lt_share_iff {n : Nat} (hn : 0 < n) (k a b : Nat) (hb : 0 < b) :
    (a : ℚ) / b < k / n ↔ a * n < b * k := by
  have hn' : (0 : ℚ) < n := Nat.cast_pos.2 hn
  have hb' : (0 : ℚ) < b := Nat.cast_pos.2 hb
  rw [div_lt_div_iff₀ hb' hn', mul_comm (k : ℚ)]
  exact_mod_cast Iff.rfl

/-- The band of a size as a comparison of multiples. -/
def Within (size : AttackSize) (n k : Nat) : Prop :=
  match size with
  | one | all => True
  | minority => 3 * k < n
  | superminority => n ≤ 3 * k ∧ 2 * k < n
  | majority => n < 2 * k ∧ 3 * k < 2 * n
  | supermajority => 2 * n ≤ 3 * k ∧ k < n

/-- The band of a size, in whole numbers. -/
theorem band_iff (size : AttackSize) {n : Nat} (hn : 0 < n) (k : Nat) :
    size.Band ((k : ℚ) / n) ↔ size.Within n k := by
  have hthird : (k : ℚ) / n < 1 / 3 ↔ 3 * k < n := by simpa using share_lt_iff hn k 1 3 (by decide)
  have hhalf : (k : ℚ) / n < 1 / 2 ↔ 2 * k < n := by simpa using share_lt_iff hn k 1 2 (by decide)
  have htwoThirds : (k : ℚ) / n < 2 / 3 ↔ 3 * k < 2 * n := share_lt_iff hn k 2 3 (by decide)
  have hwhole : (k : ℚ) / n < 1 ↔ k < n := by simpa using share_lt_iff hn k 1 1 (by decide)
  have hoverHalf : 1 / 2 < (k : ℚ) / n ↔ n < 2 * k := by
    simpa using lt_share_iff hn k 1 2 (by decide)
  cases size with
  | one | all => exact Iff.rfl
  | minority => exact hthird
  | superminority => exact and_congr (by rw [← not_lt, hthird, not_lt]) hhalf
  | majority => exact and_congr hoverHalf htwoThirds
  | supermajority => exact and_congr (by rw [← not_lt, htwoThirds, not_lt]) hwhole

/-- The counts of a size are the attainable ones whose share lies in its band. -/
theorem mem_counts {size : AttackSize} {n k : Nat} :
    k ∈ size.counts n ↔ 1 ≤ k ∧ k ≤ n ∧ size.Within n k :=
  and_congr_right fun hpos => and_congr_right fun hle =>
    size.band_iff (Nat.lt_of_lt_of_le hpos hle) k

/-- The test in words is the band, as no multiple of a count is too large for a word. -/
theorem inBand_iff {size : AttackSize} {n k : Nat} (hfits : 3 * n < wordCount) (hpos : 1 ≤ k)
    (hle : k ≤ n) : size.inBand n k = true ↔ size.Within n k := by
  have hthree : wrap64 (3 * k) = 3 * k := wrap64_of_lt (by omega)
  have htwo : wrap64 (2 * k) = 2 * k := wrap64_of_lt (by omega)
  have hdouble : wrap64 (2 * n) = 2 * n := wrap64_of_lt (by omega)
  cases size <;> simp [inBand, Within, hthree, htwo, hdouble, hpos]

/-! ## The count of a size -/

section Count

variable {size : AttackSize} {n j k : Nat}

/-- A size has a count exactly if the one that is tried for it lies in its band. -/
theorem nodeCount_eq_some (hfits : 3 * n < wordCount) :
    size.nodeCount n = some k ↔ k = size.candidate n ∧ k ∈ size.counts n := by
  rw [mem_counts]
  constructor
  · intro h
    obtain ⟨hpos, hle⟩ := nodeCount_bounds (by omega) h
    rw [nodeCount, if_neg (by omega)] at h
    simp only [Option.ite_none_right_eq_some, Bool.and_eq_true, Option.some.injEq] at h
    obtain ⟨⟨hband, -⟩, rfl⟩ := h
    exact ⟨rfl, hpos, hle, (inBand_iff hfits hpos hle).1 hband⟩
  · rintro ⟨rfl, hpos, hle, hband⟩
    rw [nodeCount, if_neg (by omega)]
    simp [(inBand_iff hfits hpos hle).2 hband, hle]

/-- A band that opens at a count and is bounded above has that count for its least, if it has
any. -/
theorem isLeast_counts {first : Nat} {below : Nat → Prop} (hfirst : 1 ≤ first)
    (hband : ∀ k, size.Within n k ↔ first ≤ k ∧ below k)
    (hbelow : ∀ i k, i ≤ k → below k → below i) (hj : j ∈ size.counts n) :
    IsLeast (size.counts n) first := by
  obtain ⟨-, hle, hjBand⟩ := mem_counts.1 hj
  obtain ⟨hopen, hjBelow⟩ := (hband j).1 hjBand
  constructor
  · have hin : size.Within n first := (hband first).2 ⟨Nat.le_refl first, hbelow _ _ hopen hjBelow⟩
    exact mem_counts.2 ⟨hfirst, Nat.le_trans hopen hle, hin⟩
  · intro i hi
    exact ((hband i).1 (mem_counts.1 hi).2.2).1

/-- The count that is tried is the one that a size asks for, if the size allows any. -/
theorem candidate_takes (hfits : 3 * n < wordCount) (hj : j ∈ size.counts n) :
    size.Takes n (size.candidate n) := by
  obtain ⟨hpos, hle, hband⟩ := mem_counts.1 hj
  have hn : n ≠ 0 := by omega
  cases size with
  | one => exact ⟨mem_counts.2 ⟨Nat.le_refl 1, by rw [candidate]; omega, trivial⟩, rfl⟩
  | minority =>
    -- Below a third means in front of the third rounded up.
    have hbelow (k : Nat) : minority.Within n k ↔ k < thirdUp n := by
      rw [← not_le, thirdUp_le_iff, not_le]
      rfl
    have hthird : thirdUp n ≤ n := thirdUp_le_iff.2 (by omega)
    have hbefore := (hbelow j).1 hband
    rw [Takes, candidate]
    constructor
    · exact mem_counts.2 ⟨by omega, by omega, (hbelow _).2 (by omega)⟩
    · intro i hi
      exact Nat.le_sub_one_of_lt ((hbelow i).1 (mem_counts.1 hi).2.2)
  | superminority =>
    refine isLeast_counts (thirdUp_pos hn) (fun k => and_congr_left' thirdUp_le_iff.symm) ?_ hj
    omega
  | majority =>
    rw [Takes, candidate]
    refine isLeast_counts (Nat.le_add_left 1 _) (fun k => and_congr_left' ?_) ?_ hj <;> omega
  | supermajority =>
    rw [Takes, candidate, wrap64_of_lt (by omega)]
    refine isLeast_counts (thirdUp_pos (by omega))
      (fun k => and_congr_left' thirdUp_le_iff.symm) ?_ hj
    omega
  | all => exact ⟨mem_counts.2 ⟨by rw [candidate]; omega, Nat.le_refl n, trivial⟩, rfl⟩

theorem Takes.mem (h : size.Takes n k) : k ∈ size.counts n := by
  cases size with
  | one | all => exact h.1
  | minority => exact h.1
  | superminority | majority | supermajority => exact h.1

/-- A size asks for one count at most. -/
theorem Takes.unique (hj : size.Takes n j) (hk : size.Takes n k) : j = k := by
  cases size with
  | one | all => exact hj.2.trans hk.2.symm
  | minority => exact IsGreatest.unique hj hk
  | superminority | majority | supermajority => exact IsLeast.unique hj hk

end Count

/-- What the number of attacked nodes comes to among `n` candidates. -/
structure ExactCount (size : AttackSize) (n : Nat) : Prop where
  none_iff : size.nodeCount n = none ↔ size.counts n = ∅
  some_iff : ∀ k, size.nodeCount n = some k ↔ size.Takes n k
  enough : ∀ (candidates : List Nat) (k : Nat), candidates.length = n →
    size.nodeCount n = some k → (candidates.take k).length = k

/-- The number of attacked nodes is the one that the size asks for, and there is none exactly if no
count lies in the band. -/
theorem nodeCount_exact (size : AttackSize) {n : Nat} (hfits : 3 * n < wordCount) :
    size.ExactCount n where
  none_iff := by
    rw [Set.eq_empty_iff_forall_notMem]
    constructor
    · intro hnone j hj
      have hsome := (nodeCount_eq_some hfits).2 ⟨rfl, (candidate_takes hfits hj).mem⟩
      rw [hnone] at hsome
      cases hsome
    · intro hempty
      refine Option.eq_none_iff_forall_ne_some.2 fun k hk => ?_
      exact hempty k ((nodeCount_eq_some hfits).1 hk).2
  some_iff := by
    intro k
    rw [nodeCount_eq_some hfits]
    constructor
    · rintro ⟨rfl, hk⟩
      exact candidate_takes hfits hk
    · intro htakes
      exact ⟨htakes.unique (candidate_takes hfits htakes.mem), htakes.mem⟩
  enough := by
    rintro candidates k rfl hk
    obtain ⟨-, hle⟩ := nodeCount_bounds (by omega) hk
    exact List.length_take_of_le hle

/-- A majority of six would have to be four, which is two thirds already, and one of seven is
four. -/
theorem nodeCount_exact_majorities :
    3 * 6 < wordCount ∧ majority.ExactCount 6 ∧ majority.nodeCount 6 = none ∧
      3 * 7 < wordCount ∧ majority.ExactCount 7 ∧ majority.nodeCount 7 = some 4 :=
  ⟨by decide, nodeCount_exact majority (by decide), by decide, by decide,
    nodeCount_exact majority (by decide), by decide⟩

end AttackSize
end DevnetChaos
