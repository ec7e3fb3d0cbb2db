import DevnetChaos.Duration
import DevnetChaos.Proofs.Text.Digits

/-!
# Durations as numbers

A duration is its number of nanoseconds.  Its text in documents counts milliseconds, or seconds
where it can, so some durations have a text that holds them and others do not.  Texts of segments
are read from the front, one segment after the other.

Main definitions:

- `Duration.Writable`: a duration that its text holds.

Main results:

- `Duration.ofNanos?_eq_some`, `Duration.nanos_ofSeconds`, `Duration.nanos_ofMillis`: durations of
  a number of nanoseconds, seconds or milliseconds.
- `Duration.ofProduct_eq`: a product of seconds is taken exactly or not at all.
- `Duration.parseSegments_front`: what is read of a segment at the front of a text.
-/

namespace DevnetChaos
namespace Duration

/-- A duration is its nanoseconds. -/
theorem eq_of_nanos {a b : Duration} (h : a.nanos = b.nanos) : a = b := by
  cases a
  cases b
  cases h
  rfl

theorem ofNanos?_eq_some {n : Nat} {d : Duration} : ofNanos? n = some d ↔ d.nanos = n := by
  rw [ofNanos?]
  split
  · exact ⟨fun h => Option.some.inj h ▸ rfl, fun h => congrArg some (eq_of_nanos h.symm)⟩
  · next hbound => exact ⟨fun h => (nomatch h), fun h => absurd (h ▸ d.inRange) hbound⟩

/-- A count of nanoseconds is refused if it reaches the bound. -/
theorem ofNanos?_eq_none {n : Nat} : ofNanos? n = none ↔ durationBound ≤ n := by
  rw [ofNanos?]
  split
  · next hfits => exact ⟨fun h => (nomatch h), fun h => absurd hfits (Nat.not_lt.2 h)⟩
  · next hbound => exact ⟨fun _ => Nat.le_of_not_lt hbound, fun _ => rfl⟩

/-- A span that a duration holds has its number of nanoseconds. -/
theorem elim_ofNanos?_eq_ok {n : Nat} {d : Duration} :
    (ofNanos? n).elim (.error .overflow) .ok = (.ok d : Except ParseFault Duration) ↔
      d.nanos = n := by
  rw [← ofNanos?_eq_some]
  cases ofNanos? n with
  | none => exact ⟨fun h => (nomatch h), fun h => nomatch h⟩
  | some span => exact ⟨congrArg _ ∘ Except.ok.inj, congrArg _ ∘ Option.some.inj⟩

/-- A span that no duration holds is too large. -/
theorem elim_ofNanos?_eq_error {n : Nat} :
    (ofNanos? n).elim (.error .overflow) .ok = (.error .overflow : Except ParseFault Duration) ↔
      durationBound ≤ n := by
  rw [← ofNanos?_eq_none]
  cases ofNanos? n with
  | none => exact ⟨fun _ => rfl, fun _ => rfl⟩
  | some span => exact ⟨fun h => (nomatch h), fun h => nomatch h⟩

/-- Seconds that fit a word are not wrapped. -/
theorem nanos_ofSeconds {seconds : Nat} (h : seconds < wordCount) :
    (ofSeconds seconds).nanos = seconds * 1000000000 :=
  congrArg (· * 1000000000) (wrap64_of_lt h)

theorem nanos_ofMillis {millis : Nat} (h : millis < wordCount) :
    (ofMillis millis).nanos = millis * 1000000 :=
  congrArg (· * 1000000) (wrap64_of_lt h)

/-- A duration that its text in documents holds: whole milliseconds, and either whole seconds or a
number of milliseconds that a 64-bit word holds. -/
structure Writable (d : Duration) : Prop where
  wholeMillis : d.nanos % 1000000 = 0
  counted : d.nanos % 1000000000 = 0 ∨ d.millis < wordCount

instance (d : Duration) : Decidable d.Writable :=
  decidable_of_iff (d.nanos % 1000000 = 0 ∧ (d.nanos % 1000000000 = 0 ∨ d.millis < wordCount))
    ⟨fun h => ⟨h.1, h.2⟩, fun h => ⟨h.wholeMillis, h.counted⟩⟩

/-! ## Segments -/

/-- A count is read if its digits are those of a number that fits a word. -/
theorem word?_eq_some {digits : List Char} {n : Nat} :
    word? digits = some n ↔ Text.natOfDigits? digits = some n ∧ n < wordCount := by
  simp [word?, Option.filter_eq_some_iff]

/-- A product of seconds is taken exactly, or no duration holds it. -/
theorem ofProduct_eq (seconds : Nat) :
    ofProduct seconds = (ofNanos? (seconds * 1000000000)).elim (.error .overflow) .ok := by
  unfold ofProduct
  split
  · next hword =>
    have hspan := ofNanos?_eq_some.2 (nanos_ofSeconds hword)
    rw [hspan, Option.elim_some]
  · next hlong =>
    have hbound : durationBound ≤ seconds * 1000000000 :=
      Nat.mul_le_mul_right _ (Nat.le_of_not_lt hlong)
    rw [ofNanos?_eq_none.2 hbound, Option.elim_none]

/-- A segment at the front, with its exact span unless that is too large, is added to the segments
before it, or the sum goes beyond what a duration holds. -/
theorem parseSegments_front {total : Duration} {n span : Nat} {digits unit rest : List Char}
    (fuel : Nat) (hn : word? digits = some n) (hne : unit ≠ [])
    (hunit : ∀ c ∈ unit, Text.isLetter c = true)
    (hspan : segment n unit = (ofNanos? span).elim (.error .overflow) .ok)
    (hrest : Text.Stops Text.isLetter rest) :
    parseSegments (fuel + 1) total (digits ++ (unit ++ rest)) =
      (ofNanos? (total.nanos + span)).elim (.error .overflow) fun sum =>
        parseSegments fuel sum rest := by
  obtain ⟨hsome, hdigits, -⟩ := Text.natOfDigits?_eq_some.1 (word?_eq_some.1 hn).1
  have hstop : Text.Stops Text.isDigit (unit ++ rest) :=
    Text.stops_append hne fun c hc => Text.isDigit_eq_false (hunit c hc)
  rw [parseSegments]
  · simp only [Text.takeWhile_append_of_stops hdigits hstop,
      Text.dropWhile_append_of_stops hdigits hstop, Text.takeWhile_append_of_stops hunit hrest,
      Text.dropWhile_append_of_stops hunit hrest, hn, hspan]
    cases hheld : ofNanos? span with
    | none =>
      -- What no duration holds by itself is too large in a sum.
      have hbound : durationBound ≤ total.nanos + span :=
        Nat.le_add_left_of_le (ofNanos?_eq_none.1 hheld)
      rw [ofNanos?_eq_none.2 hbound]
      rfl
    | some d =>
      simp only [Option.elim_some, ofNanos?_eq_some.1 hheld]
      cases ofNanos? (total.nanos + span) <;> rfl
  · exact List.append_ne_nil_of_left_ne_nil hsome _

end Duration
end DevnetChaos
