import DevnetChaos.Proofs.Duration.Reading

/-!
# What the text of a duration keeps

The text of a duration in documents counts milliseconds, or hours, minutes and seconds where no
millisecond is left over.  It consists of segments, which are added up to the duration again
without going out of range on the way.  What is lost below a millisecond does not come back, and a
count of milliseconds has to fit a word; every other duration is read back from its text.

Main definitions:

- `Duration.Segment.ofCount`: the segment that writes a number of units.
- `Duration.InRange`: segments that are added up without leaving a machine word or a duration.
- `Duration.floorMillis`: a duration without what is below a millisecond.
- `Duration.ofText?`: a duration from its text, however large the numbers in it are.
- `Duration.respell`: a text that is read and written anew.

Main results:

- `Duration.segments_of_formatUnits`: the text of a number of seconds consists of segments that
  come to it.
- `Duration.segments_of_format`: so does the text of a duration, at millisecond resolution.
- `Duration.ofText?_format`: the text of a duration tells all of its whole milliseconds.
- `Duration.read_format`: a writable duration is read back from its text.
- `Duration.format_lossless`: it is read back in range, and no other duration is.
-/

namespace DevnetChaos

/-- How many seconds one unit is, or milliseconds for the smallest: what a number of units is
multiplied by, in words, when it is read. -/
def TimeUnit.factor : TimeUnit → Nat
  | hour => 3600
  | minute => 60
  | second => 1
  | milli => 1

/-- The unit of some letters. -/
def TimeUnit.ofLetters? (letters : List Char) : Option TimeUnit :=
  [hour, minute, second, milli].find? fun unit => unit.letters == letters

/-- A unit is found by its letters. -/
theorem TimeUnit.ofLetters?_letters (unit : TimeUnit) : ofLetters? unit.letters = some unit := by
  cases unit <;> rfl

namespace Duration

/-! ## Ranges -/

/-- The product that is taken in words when a segment is read. -/
def Segment.product (g : Segment) : Nat := g.count * g.unit.factor

/-- Segments that are added up in range: every number and every product with a unit fits a word,
and a duration holds the sum wherever adding up has got to. -/
structure InRange (segments : List Segment) : Prop where
  inWords : InWords segments
  products : ∀ g ∈ segments, g.product < wordCount
  sums : ∀ front, front <+: segments → sum Segment.nanos front < durationBound

/-- The segments at the front do not come to more than all of them. -/
theorem sum_le_of_isPrefix (worth : Segment → Nat) {front segments : List Segment}
    (h : front <+: segments) : sum worth front ≤ sum worth segments := by
  induction front generalizing segments with
  | nil => exact Nat.zero_le _
  | cons g front ih =>
    obtain ⟨later, rfl, hlater⟩ := List.cons_prefix_iff.1 h
    rw [sum_cons, sum_cons]
    exact Nat.add_le_add_left (ih hlater) _

/-- Only the whole sum has to be looked at. -/
theorem InRange.of_sum {segments : List Segment} (hwords : InWords segments)
    (hproducts : ∀ g ∈ segments, g.product < wordCount)
    (hsum : sum Segment.nanos segments < durationBound) : InRange segments where
  inWords := hwords
  products := hproducts
  sums := fun _ hfront => Nat.lt_of_le_of_lt (sum_le_of_isPrefix _ hfront) hsum

/-! ## Written segments -/

/-- The segment that writes a number of units. -/
def Segment.ofCount (count : Nat) (unit : TimeUnit) : Segment where
  digits := Nat.toDigits 10 count
  unit := unit
  digits_ne_nil := Nat.toDigits_ne_nil
  isDigit := fun _ hc => Text.isDigit_of_mem_toDigits hc

@[simp] theorem Segment.count_ofCount (count : Nat) (unit : TimeUnit) :
    (ofCount count unit).count = count :=
  Nat.ofDigitChars_toDigits (by decide) (by decide)

@[simp] theorem Segment.product_ofCount (count : Nat) (unit : TimeUnit) :
    (ofCount count unit).product = count * unit.factor := by
  rw [product, count_ofCount]
  rfl

@[simp] theorem Segment.nanos_ofCount (count : Nat) (unit : TimeUnit) :
    (ofCount count unit).nanos = count * unit.nanos := by
  rw [nanos, count_ofCount]
  rfl

/-- A unit that seconds are written in, and what it is read as. -/
structure Spells (written : String × Nat) (unit : TimeUnit) : Prop where
  letters : written.1.toList = unit.letters
  factor : written.2 = unit.factor
  nanos : unit.nanos = written.2 * 1000000000

/-- Each unit that durations are written with is one that they are read with. -/
theorem exists_spells {written : String × Nat} (h : written ∈ units) :
    ∃ unit, Spells written unit := by
  simp only [units, List.mem_cons, List.not_mem_nil, or_false] at h
  rcases h with rfl | rfl | rfl
  · exact ⟨.hour, rfl, rfl, rfl⟩
  · exact ⟨.minute, rfl, rfl, rfl⟩
  · exact ⟨.second, rfl, rfl, rfl⟩

/-- The seconds that are left when no more whole units can be taken. -/
def leftOver (us : List (String × Nat)) (seconds : Nat) : Nat :=
  us.foldl (fun s u => s % u.2) seconds

/-- A number of units, the unit, and what is left in smaller ones. -/
theorem toList_formatUnits_cons {unit : String} {size seconds : Nat}
    (us : List (String × Nat)) (h : size ≤ seconds) :
    (formatUnits ((unit, size) :: us) seconds).toList =
      Nat.toDigits 10 (seconds / size) ++
        (unit.toList ++ (formatUnits us (seconds % size)).toList) := by
  rw [formatUnits, if_pos h]
  simp [Nat.toString_eq_repr]

/-- The text of a number of seconds consists of segments that come to it, but for what no unit
divides; none of them counts more than there are seconds. -/
theorem segments_of_formatUnits {us : List (String × Nat)}
    (hunits : ∀ u ∈ us, ∃ unit, Spells u unit) (seconds : Nat) :
    ∃ segments, (formatUnits us seconds).toList = spelled segments ∧
      (∀ g ∈ segments, g.count ≤ seconds ∧ g.product ≤ seconds) ∧
      sum Segment.nanos segments + leftOver us seconds * 1000000000 = seconds * 1000000000 := by
  induction us generalizing seconds with
  | nil =>
    refine ⟨[], ?_, ?_, ?_⟩
    · rw [formatUnits, String.toList_empty]
      rfl
    · intro g hg
      cases hg
    · exact Nat.zero_add _
  | cons u us ih =>
    obtain ⟨letters, size⟩ := u
    obtain ⟨⟨unit, hspells⟩, hlater⟩ := List.forall_mem_cons.1 hunits
    obtain ⟨later, htext, hcounts, hsum⟩ := ih hlater (seconds % size)
    by_cases hsize : size ≤ seconds
    · -- The whole units make one segment, and the rest of the seconds make the others.
      have hparts : seconds / size * size + seconds % size = seconds := Nat.div_add_mod' _ _
      refine ⟨.ofCount (seconds / size) unit :: later, ?_, ?_, ?_⟩
      · rw [toList_formatUnits_cons us hsize, htext, hspells.letters, spelled_cons,
          Segment.chars, List.append_assoc]
        rfl
      · intro g hg
        rcases List.mem_cons.1 hg with rfl | hg
        · rw [Segment.count_ofCount, Segment.product_ofCount, ← hspells.factor]
          exact ⟨Nat.div_le_self _ _, Nat.div_mul_le_self _ _⟩
        · have hmod : seconds % size ≤ seconds := Nat.mod_le _ _
          obtain ⟨hcount, hproduct⟩ := hcounts g hg
          exact ⟨Nat.le_trans hcount hmod, Nat.le_trans hproduct hmod⟩
      · calc sum Segment.nanos (.ofCount (seconds / size) unit :: later) +
              leftOver us (seconds % size) * 1000000000
            = seconds / size * (size * 1000000000) +
                (sum Segment.nanos later + leftOver us (seconds % size) * 1000000000) := by
              rw [sum_cons, Segment.nanos_ofCount, hspells.nanos, Nat.add_assoc]
          _ = (seconds / size * size + seconds % size) * 1000000000 := by
              rw [hsum, Nat.add_mul, Nat.mul_assoc]
          _ = seconds * 1000000000 := by rw [hparts]
    · have hkeep : seconds % size = seconds := Nat.mod_eq_of_lt (Nat.lt_of_not_le hsize)
      have hleft : leftOver ((letters, size) :: us) seconds = leftOver us (seconds % size) := rfl
      rw [formatUnits, if_neg hsize, hleft]
      rw [hkeep] at htext hcounts hsum ⊢
      exact ⟨later, htext, hcounts, hsum⟩

/-- The text of a duration consists of segments that come to its milliseconds.  They are in range
unless a count of milliseconds does not fit a word. -/
theorem segments_of_format (d : Duration) :
    ∃ segments, d.format.toList = spelled segments ∧ segments ≠ [] ∧
      sum Segment.nanos segments = d.millis * 1000000 ∧
      (d.millis % 1000 = 0 ∨ d.millis < wordCount → InRange segments) ∧
      (InWords segments → d.millis % 1000 = 0 ∨ d.millis < wordCount) := by
  have hrange : d.nanos < 18446744073709551616 * 1000000000 := d.inRange
  have hholds : d.millis * 1000000 < durationBound :=
    Nat.lt_of_le_of_lt (Nat.div_mul_le_self _ _) d.inRange
  have hone (count : Nat) (unit : TimeUnit) :
      sum Segment.nanos [.ofCount count unit] = count * unit.nanos := by
    rw [sum_cons, Segment.nanos_ofCount]
    rfl
  unfold format
  simp only [beq_iff_eq, bne_iff_ne]
  split
  · next hzero =>
    rw [hzero]
    refine ⟨[.ofCount 0 .second], rfl, List.cons_ne_nil _ _, rfl, fun _ => ?_, fun _ => .inl rfl⟩
    refine .of_sum ?_ ?_ (by decide)
    · exact List.forall_mem_singleton.2 (by decide)
    · exact List.forall_mem_singleton.2 (by decide)
  · next hsome =>
    split
    · next hodd =>
      refine ⟨[.ofCount d.millis .milli], ?_, List.cons_ne_nil _ _, hone _ _, ?_, ?_⟩
      · simp [Nat.toString_eq_repr, spelled, Segment.chars, Segment.ofCount, TimeUnit.letters]
      · intro hcounted
        have hword : d.millis < wordCount := hcounted.resolve_left hodd
        refine .of_sum ?_ ?_ (by rwa [hone])
        · exact List.forall_mem_singleton.2 (by rwa [Segment.count_ofCount])
        · refine List.forall_mem_singleton.2 ?_
          rwa [Segment.product_ofCount, TimeUnit.factor, Nat.mul_one]
      · intro hwords
        have hword := hwords _ List.mem_cons_self
        rw [Segment.count_ofCount] at hword
        exact .inr hword
    · next heven =>
      have hunits : ∀ u ∈ units, ∃ unit, Spells u unit := fun _ hu => exists_spells hu
      obtain ⟨segments, htext, hcounts, hsum⟩ := segments_of_formatUnits hunits d.seconds
      have hleft : leftOver units d.seconds = 0 := Nat.mod_one _
      have hseconds : d.seconds * 1000000000 = d.millis * 1000000 := by
        simp only [seconds, millis] at heven ⊢
        omega
      have hfits : d.seconds < wordCount := by
        rw [seconds, wordCount]
        omega
      rw [hleft, Nat.zero_mul, Nat.add_zero, hseconds] at hsum
      refine ⟨segments, htext, ?_, hsum, fun _ => ?_, fun _ => .inl (by omega)⟩
      · rintro rfl
        have hnone : 0 = d.millis * 1000000 := hsum
        omega
      · refine .of_sum ?_ ?_ (by rwa [hsum])
        · exact fun g hg => Nat.lt_of_le_of_lt (hcounts g hg).1 hfits
        · exact fun g hg => Nat.lt_of_le_of_lt (hcounts g hg).2 hfits

/-! ## Whole milliseconds -/

/-- A duration without what is below a millisecond. -/
def floorMillis (d : Duration) : Duration :=
  ⟨d.millis * 1000000, Nat.lt_of_le_of_lt (Nat.div_mul_le_self _ _) d.inRange⟩

/-- A duration of whole milliseconds loses nothing. -/
theorem floorMillis_eq_self {d : Duration} (h : d.nanos % 1000000 = 0) : d.floorMillis = d := by
  apply eq_of_nanos
  simp only [floorMillis, millis]
  omega

/-- What is below a millisecond is not written. -/
theorem format_floorMillis (d : Duration) : d.floorMillis.format = d.format := by
  have hmillis : d.floorMillis.millis = d.millis := by
    simp only [floorMillis, millis]
    omega
  have hseconds : d.floorMillis.seconds = d.seconds := by
    simp only [floorMillis, millis, seconds]
    omega
  rw [format, format, hmillis, hseconds]

/-- Nanoseconds of segments, at most `fuel` of them.  Unlike in a document, a number need not fit a
word. -/
def segmentNanos? : Nat → List Char → Option Nat
  | _, [] => some 0
  | 0, _ :: _ => none
  | fuel + 1, cs => do
      let rest := cs.dropWhile Text.isDigit
      let count ← Text.natOfDigits? (cs.takeWhile Text.isDigit)
      let unit ← TimeUnit.ofLetters? (rest.takeWhile Text.isLetter)
      let later ← segmentNanos? fuel (rest.dropWhile Text.isLetter)
      return count * unit.nanos + later

/-- The duration that a text of segments comes to. -/
def ofText? (text : String) : Option Duration :=
  (segmentNanos? text.toList.length text.toList).bind ofNanos?

/-- The worth of a written duration is the sum of its segments. -/
theorem segmentNanos?_spelled {segments : List Segment} {fuel : Nat}
    (h : (spelled segments).length ≤ fuel) :
    segmentNanos? fuel (spelled segments) = some (sum Segment.nanos segments) := by
  induction segments generalizing fuel with
  | nil => cases fuel <;> rfl
  | cons g later ih =>
    have hpos := List.length_pos_iff.2 g.chars_ne_nil
    rw [spelled_cons, List.length_append] at h
    obtain ⟨fuel, rfl⟩ : ∃ n, fuel = n + 1 := ⟨fuel - 1, by omega⟩
    have hlater : Text.Stops Text.isLetter (spelled later) := by
      simpa only [List.append_nil] using stops_spelled later Text.stops_nil
    have hcount : Text.natOfDigits? g.digits = some g.count :=
      Text.natOfDigits?_eq_some.2 ⟨g.digits_ne_nil, g.isDigit, rfl⟩
    have hletters : ∀ c ∈ g.unit.letters, Text.isLetter c = true :=
      fun _ hc => TimeUnit.isLetter_of_mem_letters hc
    have hrest : segmentNanos? fuel (spelled later) = some (sum Segment.nanos later) :=
      ih (by omega)
    rw [spelled_cons, Segment.chars, List.append_assoc, segmentNanos?]
    · simp only [Text.takeWhile_append_of_stops g.isDigit (g.stops_letters _),
        Text.dropWhile_append_of_stops g.isDigit (g.stops_letters _),
        Text.takeWhile_append_of_stops hletters hlater,
        Text.dropWhile_append_of_stops hletters hlater, hcount, TimeUnit.ofLetters?_letters, hrest,
        Option.bind_eq_bind, Option.bind_some, Option.pure_def, sum_cons, Segment.nanos]
    · exact List.append_ne_nil_of_left_ne_nil g.digits_ne_nil _

/-- The text of a duration tells all of its whole milliseconds. -/
theorem ofText?_format (d : Duration) : ofText? d.format = some d.floorMillis := by
  obtain ⟨segments, htext, -, hsum, -, -⟩ := segments_of_format d
  rw [ofText?, htext, segmentNanos?_spelled (Nat.le_refl _), hsum, Option.bind_some,
    ofNanos?_eq_some]
  rfl

/-! ## Reading back -/

/-- There is no blank in segments. -/
theorem trimChars_spelled (segments : List Segment) :
    Text.trimChars (spelled segments) = spelled segments := by
  apply Text.trimChars_eq_self
  intro c hc
  obtain ⟨g, -, hc⟩ := List.mem_flatMap.1 hc
  apply Text.isBlank_eq_false
  rcases List.mem_append.1 hc with hdigit | hletter
  · exact .inl (g.isDigit c hdigit)
  · exact .inr (TimeUnit.isLetter_of_mem_letters hletter)

/-- What the text of a writable duration counts is all there is to it. -/
theorem writable_iff {d : Duration} :
    d.Writable ↔
      d.millis * 1000000 = d.nanos ∧ (d.millis % 1000 = 0 ∨ d.millis < wordCount) := by
  constructor
  · rintro ⟨hmillis, hcounted⟩
    refine ⟨by rw [millis]; omega, hcounted.imp_left fun hseconds => ?_⟩
    rw [millis]
    omega
  · rintro ⟨hmillis, hcounted⟩
    refine ⟨by omega, hcounted.imp_left fun hseconds => ?_⟩
    omega

/-- A duration is read back from its text exactly if it is writable. -/
theorem read_format_iff {d : Duration} : read d.format = .ok d ↔ d.Writable := by
  obtain ⟨segments, htext, hne, hsum, hrange, hword⟩ := segments_of_format d
  have hholds : sum Segment.nanos segments < durationBound := by
    rw [hsum]
    exact Nat.lt_of_le_of_lt (Nat.div_mul_le_self _ _) d.inRange
  rw [read_eq_ok, htext, trimChars_spelled, means_spelled_iff hne, writable_iff]
  constructor
  · rintro ⟨hwords, -, hnanos⟩
    exact ⟨hsum.symm.trans hnanos, hword hwords⟩
  · rintro ⟨hnanos, hcounted⟩
    exact ⟨(hrange hcounted).inWords, hholds, hsum.trans hnanos⟩

/-- A writable duration is read back from its text. -/
theorem read_format {d : Duration} (h : d.Writable) : read d.format = .ok d :=
  read_format_iff.2 h

/-- What is written is read back as the same duration exactly when it is writable. -/
theorem duration_format_iff {d : Duration} : Input.duration d.format = .ok d ↔ d.Writable := by
  rw [duration_eq_ok, ← read_eq_ok, read_format_iff]

/-- A text of a duration, written anew. -/
def respell (text : String) : Input String := do return (← Input.duration text).format

/-- A text that is read is respelled as its duration is written. -/
theorem respell_of_ok {text : String} {d : Duration} (h : Input.duration text = .ok d) :
    respell text = .ok d.format := by
  rw [respell, h]
  rfl

/-- Writing a duration loses nothing that its text can hold.  A duration is read back from its text
exactly if it has whole milliseconds, and either whole seconds or a number of milliseconds that fits
a word.  Its text then consists of segments that are added up to it without going out of range on
the way.  So a text that is read as such a duration means the same when it is written anew, and
writing it anew once more does not change it. -/
theorem format_lossless (d : Duration) :
    (Input.duration d.format = .ok d ↔ d.Writable) ∧
      (d.Writable → ∃ segments, d.format.toList = spelled segments ∧ InRange segments ∧
        sum Segment.nanos segments = d.nanos) ∧
      ∀ text, Input.duration text = .ok d → d.Writable →
        respell text = .ok d.format ∧
          (respell text >>= Input.duration) = Input.duration text ∧
          (respell text >>= respell) = respell text := by
  refine ⟨duration_format_iff, fun h => ?_, fun text htext h => ?_⟩
  · obtain ⟨segments, hspelled, -, hsum, hrange, -⟩ := segments_of_format d
    obtain ⟨hnanos, hcounted⟩ := writable_iff.1 h
    exact ⟨segments, hspelled, hrange hcounted, hsum.trans hnanos⟩
  · have hback := duration_format_iff.2 h
    have hrespelled := respell_of_ok htext
    refine ⟨hrespelled, ?_, ?_⟩
    · rw [hrespelled, htext]
      exact hback
    · rw [hrespelled]
      exact respell_of_ok hback

/-- The longest duration of whole seconds, from a text that counts it in seconds, and the longest
one that is written in milliseconds. -/
theorem format_lossless_longest :
    (respell "18446744073709551615" = .ok "5124095576030431h15s" ∧
        (respell "18446744073709551615" >>= Input.duration) =
          Input.duration "18446744073709551615" ∧
        (respell "18446744073709551615" >>= respell) = respell "18446744073709551615") ∧
      Input.duration (ofMillis 18446744073709551615).format =
        .ok (ofMillis 18446744073709551615) := by
  have hseconds : (ofSeconds 18446744073709551615).Writable := by decide
  have hmillis : (ofMillis 18446744073709551615).Writable := by decide
  have hread : Input.duration "18446744073709551615" = .ok (ofSeconds 18446744073709551615) := rfl
  exact ⟨(format_lossless _).2.2 _ hread hseconds, (format_lossless _).1.2 hmillis⟩

end Duration
end DevnetChaos
