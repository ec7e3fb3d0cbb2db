/-!
# Machine words

Counts, indices and seconds are natural numbers here.  Where a product or a sum of counts is kept
in a 64-bit word it is taken modulo the number of its values, and `wrap64` says so.  Arithmetic that
is checked stops at that point instead: what is said of such counts asks that they fit, or shows it,
and the durations that somebody wrote are never wrapped (`Duration.ofProduct`).
-/

namespace DevnetChaos

/-- The number of values of a 64-bit word. -/
def wordCount : Nat := 18446744073709551616

/-- A natural number as a 64-bit word holds it. -/
def wrap64 (n : Nat) : Nat := n % wordCount

theorem wrap64_lt (n : Nat) : wrap64 n < wordCount :=
  Nat.mod_lt n (by decide)

theorem wrap64_of_lt {n : Nat} (h : n < wordCount) : wrap64 n = n :=
  Nat.mod_eq_of_lt h

end DevnetChaos
