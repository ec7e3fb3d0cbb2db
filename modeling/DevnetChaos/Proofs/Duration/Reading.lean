import DevnetChaos.Input
import DevnetChaos.Proofs.Duration

/-!
# What a text says about a time span

A text spells a time span as a bare number of seconds or as segments of a number and a unit.  Every
spelled number has to fit a word, and so has the total in seconds.  Reading gives the exact span of
every such text.  Of the other texts it refuses those that do not have the form of a time span, but
the product of a number and its unit and the sum of the segments are taken unchecked: a text whose
segments come to too much stops the program instead of being refused.

Main definitions:

- `TimeUnit`, `Duration.Segment`: the units and the segments of a text.
- `Duration.Means`: the span that a text stands for.
- `Duration.Overruns`: a text whose segments come to more than a duration holds.
- `Duration.ReadsExactly`: reading gives exactly the span that the text spells, and refuses every
  other text.

Main results:

- `TimeUnit.segment_letters`: a segment is read as its exact span, or no duration holds it.
- `Duration.parseSegments_spelled`: segments are added up until they come to too much.
- `Duration.spelled_of_parseSegments`: what is read consists of segments.
- `Duration.spelled_injective`: a text spells one list of segments at most.
- `Duration.readsExactly_iff`: reading is exact but for texts that overrun.
- `Duration.duration_reads`: what every text is read as.
-/

namespace DevnetChaos

/-! ## Units -/

/-- The units of a time span. -/
inductive TimeUnit where
  | hour
  | minute
  | second
  | milli
  deriving DecidableEq, Repr

namespace TimeUnit

/-- How a unit is spelled. -/
def letters : TimeUnit → List Char
  | hour => ['h']
  | minute => ['m']
  | second => ['s']
  | milli => ['m', 's']

/-- Nanoseconds of one unit. -/
def nanos : TimeUnit → Nat
  | hour => 3600 * 1000000000
  | minute => 60 * 1000000000
  | second => 1000000000
  | milli => 1000000

/-- Every unit has letters. -/
theorem letters_ne_nil (unit : TimeUnit) : unit.letters ≠ [] := by
  cases unit <;> decide

theorem isLetter_of_mem_letters {unit : TimeUnit} {c : Char} (h : c ∈ unit.letters) :
    Text.isLetter c = true := by
  have hall : unit.letters.all Text.isLetter = true := by cases unit <;> rfl
  exact List.all_eq_true.1 hall c h

/-- Different units have different letters. -/
theorem letters_injective : Function.Injective letters := by
  intro a b h
  cases a <;> cases b <;> first | rfl | cases h

/-- A number of units is read as its exact span, or no duration holds it. -/
theorem segment_letters (unit : TimeUnit) {count : Nat} (hcount : count < wordCount) :
    Duration.segment count unit.letters =
      (Duration.ofNanos? (count * unit.nanos)).elim (.error .overflow) .ok := by
  have hproduct (size : Nat) : Duration.ofProduct (count * size) =
      (Duration.ofNanos? (count * (size * 1000000000))).elim (.error .overflow) .ok := by
    rw [Duration.ofProduct_eq, Nat.mul_assoc]
  cases unit with
  | hour => exact hproduct 3600
  | minute => exact hproduct 60
  | second =>
    have hspan := Duration.ofNanos?_eq_some.2 (Duration.nanos_ofSeconds hcount)
    rw [nanos, hspan, Option.elim_some]
    rfl
  | milli =>
    have hspan := Duration.ofNanos?_eq_some.2 (Duration.nanos_ofMillis hcount)
    rw [nanos, hspan, Option.elim_some]
    rfl

/-- Only the spelled units are read. -/
theorem exists_unit {count : Nat} {letters : List Char}
    (h : Duration.segment count letters ≠ .error .malformed) :
    ∃ unit : TimeUnit, letters = unit.letters := by
  unfold Duration.segment at h
  split at h
  · exact ⟨hour, rfl⟩
  · exact ⟨minute, rfl⟩
  · exact ⟨second, rfl⟩
  · exact ⟨milli, rfl⟩
  · exact absurd rfl h

end TimeUnit

namespace Duration

/-! ## Segments -/

/-- A number, in digits, with a unit. -/
structure Segment where
  digits : List Char
  unit : TimeUnit
  digits_ne_nil : digits ≠ []
  isDigit : ∀ c ∈ digits, Text.isDigit c = true

namespace Segment

/-- The number in front of the unit. -/
def count (g : Segment) : Nat := Nat.ofDigitChars 10 g.digits 0

/-- How a segment is spelled. -/
def chars (g : Segment) : List Char := g.digits ++ g.unit.letters

/-- Nanoseconds that a segment stands for. -/
def nanos (g : Segment) : Nat := g.count * g.unit.nanos

/-- Every segment is written with some character. -/
theorem chars_ne_nil (g : Segment) : g.chars ≠ [] :=
  List.append_ne_nil_of_left_ne_nil g.digits_ne_nil _

/-- A unit stops the digits in front of it. -/
theorem stops_letters (g : Segment) (rest : List Char) :
    Text.Stops Text.isDigit (g.unit.letters ++ rest) :=
  Text.stops_append g.unit.letters_ne_nil fun _ hc =>
    Text.isDigit_eq_false (TimeUnit.isLetter_of_mem_letters hc)

end Segment

/-- The text of segments one after the other. -/
def spelled (segments : List Segment) : List Char := segments.flatMap Segment.chars

/-- What segments come to, given what each of them is worth. -/
def sum (worth : Segment → Nat) (segments : List Segment) : Nat :=
  segments.foldr (fun g total => worth g + total) 0

/-- Every number of some segments fits a word. -/
def InWords (segments : List Segment) : Prop := ∀ g ∈ segments, g.count < wordCount

/-- The nanoseconds that a text stands for: a bare number of seconds, or segments whose sum a
duration holds. -/
inductive Means : List Char → Nat → Prop
  | bare {digits : List Char} (ne_nil : digits ≠ [])
      (isDigit : ∀ c ∈ digits, Text.isDigit c = true)
      (inWord : Nat.ofDigitChars 10 digits 0 < wordCount) :
      Means digits (Nat.ofDigitChars 10 digits 0 * 1000000000)
  | segments {segments : List Segment} (ne_nil : segments ≠ []) (inWords : InWords segments)
      (fits : sum Segment.nanos segments < durationBound) :
      Means (spelled segments) (sum Segment.nanos segments)

/-- Reading gives exactly the spans that texts spell: a text is read as the span that it stands
for, and every other text is refused with itself in the message. -/
structure ReadsExactly (text : String) : Prop where
  ok_iff : ∀ d : Duration,
    Input.duration text = .ok d ↔ Means (Text.trimChars text.toList) d.nanos
  refused : (∀ n, ¬ Means (Text.trimChars text.toList) n) →
    Input.duration text = Input.refuse (.badDuration text)

/-- A text begins with segments that come to more than a duration holds, whatever comes after
them. -/
def Overruns (cs : List Char) : Prop :=
  ∃ segments rest, cs = spelled segments ++ rest ∧ InWords segments ∧
    Text.Stops Text.isLetter rest ∧ durationBound ≤ sum Segment.nanos segments

/-! ## Adding up -/

theorem spelled_cons (g : Segment) (segments : List Segment) :
    spelled (g :: segments) = g.chars ++ spelled segments := rfl

theorem sum_cons (worth : Segment → Nat) (g : Segment) (segments : List Segment) :
    sum worth (g :: segments) = worth g + sum worth segments := rfl

/-- Counts fit words when the first one and all others do. -/
theorem inWords_cons {g : Segment} {segments : List Segment} :
    InWords (g :: segments) ↔ g.count < wordCount ∧ InWords segments :=
  List.forall_mem_cons

theorem inWords_nil : InWords [] := fun _ hg => nomatch hg

/-- In front of segments there is no letter. -/
theorem stops_spelled (segments : List Segment) {rest : List Char}
    (hrest : Text.Stops Text.isLetter rest) :
    Text.Stops Text.isLetter (spelled segments ++ rest) := by
  cases segments with
  | nil => exact hrest
  | cons g later =>
    rw [spelled_cons, Segment.chars, List.append_assoc, List.append_assoc]
    exact Text.stops_append g.digits_ne_nil fun c hc => Text.isLetter_eq_false (g.isDigit c hc)

/-- A segment at the front is added to the sum, or makes it too large. -/
theorem parseSegments_chars (fuel : Nat) (total : Duration) (g : Segment) {rest : List Char}
    (hword : g.count < wordCount) (hrest : Text.Stops Text.isLetter rest) :
    parseSegments (fuel + 1) total (g.chars ++ rest) =
      (ofNanos? (total.nanos + g.nanos)).elim (.error .overflow) fun sum =>
        parseSegments fuel sum rest := by
  have hcount : word? g.digits = some g.count :=
    word?_eq_some.2 ⟨Text.natOfDigits?_eq_some.2 ⟨g.digits_ne_nil, g.isDigit, rfl⟩, hword⟩
  rw [Segment.chars, List.append_assoc]
  exact parseSegments_front fuel hcount g.unit.letters_ne_nil
    (fun c hc => TimeUnit.isLetter_of_mem_letters hc) (g.unit.segment_letters hword) hrest

/-- Segments are added up until the sum is too large. -/
theorem parseSegments_spelled {segments : List Segment} {rest : List Char} {fuel : Nat}
    (total : Duration) (hwords : InWords segments) (hrest : Text.Stops Text.isLetter rest)
    (hfuel : (spelled segments ++ rest).length ≤ fuel) :
    (∃ sum' fuel', rest.length ≤ fuel' ∧
        sum'.nanos = total.nanos + sum Segment.nanos segments ∧
        parseSegments fuel total (spelled segments ++ rest) = parseSegments fuel' sum' rest) ∨
      durationBound ≤ total.nanos + sum Segment.nanos segments ∧
        parseSegments fuel total (spelled segments ++ rest) = .error .overflow := by
  induction segments generalizing fuel total with
  | nil => exact .inl ⟨total, fuel, hfuel, rfl, rfl⟩
  | cons g later ih =>
    obtain ⟨hword, hlater⟩ := inWords_cons.1 hwords
    have hpos := List.length_pos_iff.2 g.chars_ne_nil
    rw [spelled_cons, List.append_assoc, List.length_append] at hfuel
    obtain ⟨fuel, rfl⟩ : ∃ n, fuel = n + 1 := ⟨fuel - 1, by omega⟩
    rw [spelled_cons, List.append_assoc, parseSegments_chars fuel total g hword
      (stops_spelled later hrest), sum_cons, ← Nat.add_assoc]
    cases hsum : ofNanos? (total.nanos + g.nanos) with
    | none =>
      have hbound := ofNanos?_eq_none.1 hsum
      exact .inr ⟨Nat.le_add_right_of_le hbound, rfl⟩
    | some sum' =>
      have hleft : (spelled later ++ rest).length ≤ fuel := by omega
      rw [← ofNanos?_eq_some.1 hsum]
      exact ih sum' hlater hleft

/-- What is read from the front of a text is a segment, with its exact span unless that is too
large. -/
theorem exists_segment {cs : List Char} {count : Nat}
    (hcount : word? (cs.takeWhile Text.isDigit) = some count)
    (hunit : segment count ((cs.dropWhile Text.isDigit).takeWhile Text.isLetter) ≠
      .error .malformed) :
    ∃ g : Segment, cs = g.chars ++ (cs.dropWhile Text.isDigit).dropWhile Text.isLetter ∧
      g.count < wordCount ∧
        segment count ((cs.dropWhile Text.isDigit).takeWhile Text.isLetter) =
          (ofNanos? g.nanos).elim (.error .overflow) .ok := by
  obtain ⟨hnumber, hword⟩ := word?_eq_some.1 hcount
  obtain ⟨hne, hdigits, rfl⟩ := Text.natOfDigits?_eq_some.1 hnumber
  obtain ⟨unit, hletters⟩ := TimeUnit.exists_unit hunit
  refine ⟨⟨_, unit, hne, hdigits⟩, ?_, hword, ?_⟩
  · rw [Segment.chars, List.append_assoc, ← hletters, List.takeWhile_append_dropWhile,
      List.takeWhile_append_dropWhile]
  · rw [hletters]
    exact unit.segment_letters hword

/-- One segment can be too much for the sum in front of it. -/
theorem exists_front_of_segment {cs rest : List Char} {g : Segment} {total : Nat}
    (hcs : cs = g.chars ++ rest) (hword : g.count < wordCount)
    (hrest : Text.Stops Text.isLetter rest) (hbound : durationBound ≤ total + g.nanos) :
    ∃ segments rest, cs = spelled segments ++ rest ∧ InWords segments ∧
      Text.Stops Text.isLetter rest ∧ durationBound ≤ total + sum Segment.nanos segments := by
  refine ⟨[g], rest, ?_, inWords_cons.2 ⟨hword, inWords_nil⟩, hrest, hbound⟩
  rw [spelled_cons, List.append_assoc]
  exact hcs

/-- What is read of a text: segments up to its end, or segments that come to too much. -/
theorem spelled_of_parseSegments {fuel : Nat} {total : Duration} {cs : List Char} :
    (∀ d, parseSegments fuel total cs = .ok d → ∃ segments, cs = spelled segments ∧
        InWords segments ∧ d.nanos = total.nanos + sum Segment.nanos segments) ∧
      (parseSegments fuel total cs = .error .overflow → ∃ segments rest,
        cs = spelled segments ++ rest ∧ InWords segments ∧ Text.Stops Text.isLetter rest ∧
          durationBound ≤ total.nanos + sum Segment.nanos segments) := by
  fun_induction parseSegments fuel total cs with
  | case1 _ total =>
    refine ⟨fun d hd => ?_, fun h => nomatch h⟩
    cases hd
    exact ⟨[], rfl, inWords_nil, rfl⟩
  | case2 | case3 => exact ⟨fun d hd => (nomatch hd), fun h => nomatch h⟩
  | case4 fuel total cs _ _ rest _ count hcount fault hfault =>
    -- The unit is not known, or the segment is too large by itself.
    refine ⟨fun d hd => (nomatch hd), fun h => ?_⟩
    cases h
    obtain ⟨g, hcs, hword, hread⟩ := exists_segment hcount (by rw [hfault]; exact nofun)
    exact exists_front_of_segment hcs hword (Text.stops_dropWhile Text.isLetter rest)
      (Nat.le_add_left_of_le (elim_ofNanos?_eq_error.1 (hread.symm.trans hfault)))
  | case5 fuel total cs _ _ rest _ count hcount span hspan hsum =>
    refine ⟨fun d hd => (nomatch hd), fun _ => ?_⟩
    obtain ⟨g, hcs, hword, hread⟩ := exists_segment hcount (by rw [hspan]; exact nofun)
    have hbound := ofNanos?_eq_none.1 hsum
    rw [elim_ofNanos?_eq_ok.1 (hread.symm.trans hspan)] at hbound
    exact exists_front_of_segment hcs hword (Text.stops_dropWhile Text.isLetter rest) hbound
  | case6 fuel total cs _ _ rest _ count hcount span hspan sum hsum ih =>
    obtain ⟨g, hcs, hword, hread⟩ := exists_segment hcount (by rw [hspan]; exact nofun)
    obtain ⟨hok, hover⟩ := ih
    rw [ofNanos?_eq_some.1 hsum, elim_ofNanos?_eq_ok.1 (hread.symm.trans hspan)] at hok hover
    constructor
    · intro d hd
      obtain ⟨later, hlater, hwords, htotal⟩ := hok d hd
      refine ⟨g :: later, ?_, inWords_cons.2 ⟨hword, hwords⟩, htotal.trans (Nat.add_assoc _ _ _)⟩
      rw [spelled_cons, ← hlater]
      exact hcs
    · intro h
      obtain ⟨later, rest', hlater, hwords, hstops, hbound⟩ := hover h
      refine ⟨g :: later, rest', ?_, inWords_cons.2 ⟨hword, hwords⟩, hstops, ?_⟩
      · rw [spelled_cons, List.append_assoc, ← hlater]
        exact hcs
      · rwa [sum_cons, ← Nat.add_assoc]

/-! ## One list of segments at most -/

/-- Where a segment is cut off the front of a text is settled by its characters. -/
theorem cut_unique {g g' : Segment} {rest rest' : List Char} (hrest : Text.Stops Text.isLetter rest)
    (hrest' : Text.Stops Text.isLetter rest') (h : g.chars ++ rest = g'.chars ++ rest') :
    g = g' ∧ rest = rest' := by
  rw [Segment.chars, Segment.chars, List.append_assoc, List.append_assoc] at h
  have hdigits : g.digits = g'.digits := by
    rw [← Text.takeWhile_append_of_stops g.isDigit (g.stops_letters rest), h,
      Text.takeWhile_append_of_stops g'.isDigit (g'.stops_letters rest')]
  have hletters : ∀ (unit : TimeUnit), ∀ c ∈ unit.letters, Text.isLetter c = true :=
    fun _ _ hc => TimeUnit.isLetter_of_mem_letters hc
  rw [hdigits] at h
  replace h := List.append_cancel_left h
  have hunit : g.unit = g'.unit := TimeUnit.letters_injective <| by
    rw [← Text.takeWhile_append_of_stops (hletters g.unit) hrest, h,
      Text.takeWhile_append_of_stops (hletters g'.unit) hrest']
  rw [hunit] at h
  refine ⟨?_, List.append_cancel_left h⟩
  cases g
  cases g'
  cases hdigits
  cases hunit
  rfl

/-- A text spells one list of segments at most. -/
theorem spelled_injective : Function.Injective spelled := by
  intro segments others h
  induction segments generalizing others with
  | nil =>
    cases others with
    | nil => rfl
    | cons g later => exact absurd h.symm (List.append_ne_nil_of_left_ne_nil g.chars_ne_nil _)
  | cons g later ih =>
    cases others with
    | nil => exact absurd h (List.append_ne_nil_of_left_ne_nil g.chars_ne_nil _)
    | cons g' later' =>
      have hstops (segments : List Segment) : Text.Stops Text.isLetter (spelled segments) := by
        simpa only [List.append_nil] using stops_spelled segments Text.stops_nil
      obtain ⟨rfl, hlater⟩ := cut_unique (hstops later) (hstops later') h
      rw [ih hlater]

/-! ## Whole texts -/

/-- No segments come to nothing. -/
theorem ne_nil_of_bound {segments : List Segment}
    (h : durationBound ≤ sum Segment.nanos segments) : segments ≠ [] := by
  rintro rfl
  exact absurd h (by decide : ¬ durationBound ≤ 0)

/-- Segments are written with some character. -/
theorem spelled_ne_nil {segments : List Segment} (h : segments ≠ []) : spelled segments ≠ [] := by
  obtain ⟨g, later, rfl⟩ := List.exists_cons_of_ne_nil h
  exact List.append_ne_nil_of_left_ne_nil g.chars_ne_nil _

/-- Segments are no bare number. -/
theorem all_isDigit_spelled {segments : List Segment} (h : segments ≠ []) :
    (spelled segments).all Text.isDigit = false := by
  obtain ⟨g, later, rfl⟩ := List.exists_cons_of_ne_nil h
  obtain ⟨c, cs, hcs⟩ := List.exists_cons_of_ne_nil g.unit.letters_ne_nil
  have hletter : c ∈ g.unit.letters := hcs ▸ List.mem_cons_self
  have hmem : c ∈ spelled (g :: later) :=
    List.mem_append_left _ (List.mem_append_right _ hletter)
  refine List.all_eq_false.2 ⟨c, hmem, ?_⟩
  rw [Text.isDigit_eq_false (TimeUnit.isLetter_of_mem_letters hletter)]
  exact Bool.false_ne_true

/-- A text that begins with a segment, blanks aside, is read as a sequence of segments. -/
theorem read_of_spelled {text : String} {segments : List Segment} {rest : List Char}
    (htext : Text.trimChars text.toList = spelled segments ++ rest) (hne : segments ≠ []) :
    read text =
      parseSegments (spelled segments ++ rest).length zero (spelled segments ++ rest) := by
  have hsome : (spelled segments ++ rest).isEmpty = false :=
    List.isEmpty_eq_false_iff.2 (List.append_ne_nil_of_left_ne_nil (spelled_ne_nil hne) _)
  have hletter : (spelled segments ++ rest).all Text.isDigit = false := by
    rw [List.all_append, all_isDigit_spelled hne, Bool.false_and]
  simp only [read, htext, hsome, hletter, Bool.false_eq_true, if_false]

/-- Segments are read as their sum, or their sum is too large. -/
theorem read_spelled {text : String} {segments : List Segment}
    (htext : Text.trimChars text.toList = spelled segments) (hne : segments ≠ [])
    (hwords : InWords segments) :
    (∃ d, d.nanos = sum Segment.nanos segments ∧ read text = .ok d) ∨
      durationBound ≤ sum Segment.nanos segments ∧ read text = .error .overflow := by
  have hstart : zero.nanos + sum Segment.nanos segments = sum Segment.nanos segments :=
    Nat.zero_add _
  rw [← List.append_nil (spelled segments)] at htext
  rw [read_of_spelled htext hne, ← hstart]
  rcases parseSegments_spelled zero hwords Text.stops_nil (Nat.le_refl _) with
    ⟨d, fuel, -, hnanos, hd⟩ | hover
  · exact .inl ⟨d, hnanos, hd.trans (by rw [parseSegments])⟩
  · exact .inr hover

/-- A text is read as the span that it stands for. -/
theorem read_eq_ok {text : String} {d : Duration} :
    read text = .ok d ↔ Means (Text.trimChars text.toList) d.nanos := by
  constructor
  · intro h
    rw [read] at h
    split at h
    · cases h
    next hsome =>
    split at h
    · next hall =>
      split at h
      · next seconds hword =>
        obtain ⟨hnumber, hinWord⟩ := word?_eq_some.1 hword
        obtain ⟨hne, hdigits, rfl⟩ := Text.natOfDigits?_eq_some.1 hnumber
        cases h
        rw [nanos_ofSeconds hinWord]
        exact .bare hne hdigits hinWord
      · cases h
    · obtain ⟨segments, hcs, hwords, hnanos⟩ := spelled_of_parseSegments.1 d h
      have hzero : zero.nanos = 0 := rfl
      rw [hzero, Nat.zero_add] at hnanos
      rw [hcs, hnanos]
      refine .segments ?_ hwords (hnanos ▸ d.inRange)
      rintro rfl
      rw [hcs] at hsome
      exact hsome rfl
  · intro h
    generalize hcs : Text.trimChars text.toList = cs at h
    generalize hn : d.nanos = n at h
    cases h with
    | bare hne hdigits hinWord =>
      have hword := word?_eq_some.2 ⟨Text.natOfDigits?_eq_some.2 ⟨hne, hdigits, rfl⟩, hinWord⟩
      have hsome := List.isEmpty_eq_false_iff.2 hne
      have hall := List.all_eq_true.2 hdigits
      simp only [read, hcs, hsome, hall, Bool.false_eq_true, if_false, if_true, hword]
      exact congrArg Except.ok (eq_of_nanos ((nanos_ofSeconds hinWord).trans hn.symm))
    | segments hne hwords hfits =>
      rcases read_spelled hcs hne hwords with ⟨d', hnanos, hd'⟩ | ⟨hbound, -⟩
      · rw [hd', eq_of_nanos (hnanos.trans hn.symm)]
      · exact absurd hfits (Nat.not_lt.2 hbound)

/-- Where segments at the front of a text are more than a duration holds, the rest of it does not
matter. -/
theorem read_eq_overflow {text : String} :
    read text = .error .overflow ↔ Overruns (Text.trimChars text.toList) := by
  constructor
  · intro h
    rw [read] at h
    split at h
    · cases h
    split at h
    · split at h <;> cases h
    · obtain ⟨segments, rest, hcs, hwords, hstops, hbound⟩ := spelled_of_parseSegments.2 h
      exact ⟨segments, rest, hcs, hwords, hstops, Nat.zero_add (sum _ _) ▸ hbound⟩
  · rintro ⟨segments, rest, hcs, hwords, hstops, hbound⟩
    have hne := ne_nil_of_bound hbound
    rw [read_of_spelled hcs hne]
    rcases parseSegments_spelled zero hwords hstops (Nat.le_refl _) with
      ⟨d, fuel, -, hnanos, -⟩ | ⟨-, hover⟩
    · have hfits := d.inRange
      rw [hnanos, show zero.nanos = 0 from rfl] at hfits
      omega
    · exact hover

/-! ## Input -/

variable {text : String}

/-- Input is taken for a duration exactly when its text means one. -/
theorem duration_eq_ok {d : Duration} :
    Input.duration text = .ok d ↔ Means (Text.trimChars text.toList) d.nanos := by
  rw [← read_eq_ok, Input.duration]
  cases read text with
  | ok d' => exact ⟨congrArg _ ∘ Except.ok.inj, congrArg _ ∘ Except.ok.inj⟩
  | error fault => cases fault <;> exact ⟨fun h => (nomatch h), fun h => nomatch h⟩

/-- Input stops the program exactly when its text overruns. -/
theorem duration_eq_range :
    Input.duration text = .error .durationRange ↔ Overruns (Text.trimChars text.toList) := by
  rw [← read_eq_overflow, Input.duration]
  cases read text with
  | ok d => exact ⟨fun h => (nomatch h), fun h => nomatch h⟩
  | error fault =>
    cases fault with
    | malformed => exact ⟨fun h => (nomatch h), fun h => nomatch h⟩
    | overflow => exact ⟨fun _ => rfl, fun _ => rfl⟩

/-- There are no other outcomes. -/
theorem duration_cases (text : String) :
    (∃ d, Input.duration text = .ok d) ∨ Input.duration text = .error .durationRange ∨
      Input.duration text = Input.refuse (.badDuration text) := by
  rw [Input.duration]
  cases read text with
  | ok d => exact .inl ⟨d, rfl⟩
  | error fault =>
    cases fault with
    | malformed => exact .inr (.inr rfl)
    | overflow => exact .inr (.inl rfl)

/-- What a text stands for is a duration. -/
theorem Means.lt_durationBound {cs : List Char} {n : Nat} (h : Means cs n) : n < durationBound := by
  cases h with
  | bare _ _ inWord => exact (Nat.mul_lt_mul_right (by decide)).2 inWord
  | segments _ _ fits => exact fits

/-- A text that is refused stands for no span, and does not go beyond what a duration holds. -/
theorem duration_eq_refuse :
    Input.duration text = Input.refuse (.badDuration text) ↔
      (∀ n, ¬ Means (Text.trimChars text.toList) n) ∧
        ¬ Overruns (Text.trimChars text.toList) := by
  constructor
  · intro h
    refine ⟨fun n hn => ?_, fun hover => ?_⟩
    · have hok := duration_eq_ok (d := ⟨n, hn.lt_durationBound⟩).2 hn
      rw [h] at hok
      cases hok
    · rw [duration_eq_range.2 hover] at h
      cases h
  · rintro ⟨hnone, hfits⟩
    rcases duration_cases text with ⟨d, hd⟩ | hrange | hrefused
    · exact absurd (duration_eq_ok.1 hd) (hnone d.nanos)
    · exact absurd (duration_eq_range.1 hrange) hfits
    · exact hrefused

/-! ## Exactness -/

/-- Segments stand for their own sum. -/
theorem means_spelled_iff {segments : List Segment} {n : Nat} (hne : segments ≠ []) :
    Means (spelled segments) n ↔
      InWords segments ∧ sum Segment.nanos segments < durationBound ∧
        sum Segment.nanos segments = n := by
  constructor
  · intro h
    generalize hcs : spelled segments = cs at h
    cases h with
    | bare _ hdigits _ =>
      have hletter := all_isDigit_spelled hne
      rw [hcs, List.all_eq_true.2 hdigits] at hletter
      cases hletter
    | segments _ hwords hfits =>
      obtain rfl := spelled_injective hcs
      exact ⟨hwords, hfits, rfl⟩
  · rintro ⟨hwords, hfits, rfl⟩
    exact .segments hne hwords hfits

/-- Reading is exact but for texts that overrun. -/
theorem readsExactly_iff : ReadsExactly text ↔ ¬ Overruns (Text.trimChars text.toList) := by
  constructor
  · rintro ⟨hok, hrefused⟩ hover
    have hrange := duration_eq_range.2 hover
    have hnone : ∀ n, ¬ Means (Text.trimChars text.toList) n := by
      intro n hn
      have hd := (hok ⟨n, hn.lt_durationBound⟩).2 hn
      rw [hrange] at hd
      cases hd
    have hrefuse := hrefused hnone
    rw [hrange] at hrefuse
    cases hrefuse
  · intro hholds
    exact ⟨fun _ => duration_eq_ok, fun hnone => duration_eq_refuse.2 ⟨hnone, hholds⟩⟩

/-- What every text is read as.  A text that stands for a span is read as exactly that span.  A text
that begins with segments that come to more than a duration holds stops the program, whatever comes
after them; every other text is refused.  So reading is exact unless a text overruns in this way. -/
theorem duration_reads (text : String) :
    (∀ d : Duration,
        Input.duration text = .ok d ↔ Means (Text.trimChars text.toList) d.nanos) ∧
      (Input.duration text = .error .durationRange ↔ Overruns (Text.trimChars text.toList)) ∧
      (Input.duration text = Input.refuse (.badDuration text) ↔
        (∀ n, ¬ Means (Text.trimChars text.toList) n) ∧
          ¬ Overruns (Text.trimChars text.toList)) ∧
      (ReadsExactly text ↔ ¬ Overruns (Text.trimChars text.toList)) :=
  ⟨fun _ => duration_eq_ok, duration_eq_range, duration_eq_refuse, readsExactly_iff⟩

/-- Reading is not exact: five hundred billion years, in hours, are not refused but stop the
program. -/
theorem duration_not_exact :
    Input.duration "5124095576030432h" = .error .durationRange ∧
      ¬ ReadsExactly "5124095576030432h" := by
  have hrange : Input.duration "5124095576030432h" = .error .durationRange := rfl
  exact ⟨hrange, fun hexact => readsExactly_iff.1 hexact (duration_eq_range.1 hrange)⟩

end Duration
end DevnetChaos
