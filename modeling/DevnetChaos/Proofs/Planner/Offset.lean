import DevnetChaos.Fault.Manifest
import DevnetChaos.Planner.Suite
import DevnetChaos.Proofs.Duration.Reading
import DevnetChaos.Proofs.Results
import Mathlib.Data.List.Basic
import Mathlib.Data.List.TakeWhile

/-!
# Offsets of clocks

A clock is shifted by a signed offset such as `-5m`, a duration behind at most one sign.  What is
read is more than that: any number of signs, and blanks behind them.  The offset is kept as it is
given, so such a text reaches the manifest of the fault.

Main definitions:

- `Offset.Parts`: a text of signs, blanks and a duration.
- `Offset.IsAccepted`: a text that has such parts.
- `Offset.IsSigned`: a text of at most one sign, directly followed by a duration.

Main results:

- `Offset.Parts.unique`: a text has such parts in one way only.
- `Offset.isAccepted_iff`: the texts whose magnitude is read.
- `Offset.clockSkew_reads`: which offsets are accepted, what is kept of them, and which of them have
  the form of a signed duration.
-/

namespace DevnetChaos
namespace Offset

/-! ## Signs -/

/-- Whether a character is a sign. -/
def isSign (c : Char) : Bool := c == '-' || c == '+'

theorem isSign_eq_false_of_isDigit {c : Char} (h : Text.isDigit c = true) : isSign c = false := by
  refine Bool.eq_false_iff.2 fun hsign => ?_
  simp only [isSign, Bool.or_eq_true, beq_iff_eq] at hsign
  rcases hsign with rfl | rfl
  · exact absurd h (by decide)
  · exact absurd h (by decide)

theorem isSign_eq_false_of_isBlank {c : Char} (h : Text.isBlank c = true) : isSign c = false := by
  refine Bool.eq_false_iff.2 fun hsign => ?_
  simp only [isSign, Bool.or_eq_true, beq_iff_eq] at hsign
  rcases hsign with rfl | rfl
  · exact absurd h (by decide)
  · exact absurd h (by decide)

/-! ## Parts -/

/-- A text that consists, but for the blanks around it, of signs, then blanks, then a duration,
which begins with a digit. -/
structure Parts (text : String) (signs gap magnitude : List Char) : Prop where
  trimmed : Text.trimChars text.toList = signs ++ (gap ++ magnitude)
  isSign : ∀ c ∈ signs, isSign c = true
  isBlank : ∀ c ∈ gap, Text.isBlank c = true
  digit : ∃ c ∈ magnitude.head?, Text.isDigit c = true
  reads : ∃ span, Input.duration (String.ofList magnitude) = .ok span

/-- A text of signs, blanks and a duration. -/
def IsAccepted (text : String) : Prop := ∃ signs gap magnitude, Parts text signs gap magnitude

/-- A text of at most one sign, directly followed by a duration. -/
def IsSigned (text : String) : Prop :=
  ∃ signs magnitude, Parts text signs [] magnitude ∧ signs.length ≤ 1

section Parts

variable {text : String} {signs signs' gap gap' magnitude magnitude' : List Char}

/-- A magnitude has no blank in front. -/
theorem Parts.stops_isBlank (h : Parts text signs gap magnitude) :
    Text.Stops Text.isBlank magnitude := by
  obtain ⟨digit, hdigit, hisDigit⟩ := h.digit
  intro c hc
  obtain rfl := Option.mem_unique hdigit hc
  exact Text.isBlank_eq_false (.inl hisDigit)

/-- What follows the signs does not begin with one. -/
theorem Parts.stops_isSign (h : Parts text signs gap magnitude) :
    Text.Stops Offset.isSign (gap ++ magnitude) := by
  cases gap with
  | nil =>
    obtain ⟨digit, hdigit, hisDigit⟩ := h.digit
    intro c hc
    obtain rfl := Option.mem_unique hdigit hc
    exact isSign_eq_false_of_isDigit hisDigit
  | cons blank later =>
    refine Text.stops_append (List.cons_ne_nil _ _) fun c hc => ?_
    exact isSign_eq_false_of_isBlank (h.isBlank c hc)

/-- A text has such parts in one way only. -/
theorem Parts.unique (h : Parts text signs gap magnitude)
    (h' : Parts text signs' gap' magnitude') :
    signs = signs' ∧ gap = gap' ∧ magnitude = magnitude' := by
  have htrimmed := h.trimmed.symm.trans h'.trimmed
  have hsigns : signs = signs' := by
    rw [← Text.takeWhile_append_of_stops h.isSign h.stops_isSign, htrimmed,
      Text.takeWhile_append_of_stops h'.isSign h'.stops_isSign]
  rw [hsigns] at htrimmed
  replace htrimmed := List.append_cancel_left htrimmed
  have hgap : gap = gap' := by
    rw [← Text.takeWhile_append_of_stops h.isBlank h.stops_isBlank, htrimmed,
      Text.takeWhile_append_of_stops h'.isBlank h'.stops_isBlank]
  rw [hgap] at htrimmed
  exact ⟨hsigns, hgap, List.append_cancel_left htrimmed⟩

/-- Whether a text is a signed duration is settled by its signs and the blanks behind them. -/
theorem Parts.isSigned_iff (h : Parts text signs gap magnitude) :
    IsSigned text ↔ signs.length ≤ 1 ∧ gap = [] := by
  constructor
  · rintro ⟨signs', magnitude', h', hlength⟩
    obtain ⟨rfl, rfl, -⟩ := h.unique h'
    exact ⟨hlength, rfl⟩
  · rintro ⟨hlength, rfl⟩
    exact ⟨signs, magnitude, h, hlength⟩

end Parts

/-! ## Magnitudes -/

/-- A text that stands for a span begins with a digit. -/
theorem head_isDigit {cs : List Char} {n : Nat} (h : Duration.Means cs n) :
    ∃ c ∈ cs.head?, Text.isDigit c = true := by
  have hfirst {digits : List Char} (rest : List Char) (hne : digits ≠ [])
      (hdigits : ∀ c ∈ digits, Text.isDigit c = true) :
      ∃ c ∈ (digits ++ rest).head?, Text.isDigit c = true := by
    obtain ⟨c, later, rfl⟩ := List.exists_cons_of_ne_nil hne
    exact ⟨c, rfl, hdigits c List.mem_cons_self⟩
  cases h with
  | bare hne hdigits _ =>
    simpa using hfirst [] hne hdigits
  | segments hne _ _ =>
    obtain ⟨g, later, rfl⟩ := List.exists_cons_of_ne_nil hne
    rw [Duration.spelled_cons, Duration.Segment.chars, List.append_assoc]
    exact hfirst _ g.digits_ne_nil g.isDigit

/-- Blanks in front of a duration do not matter. -/
theorem duration_gap {gap : List Char} (hgap : ∀ c ∈ gap, Text.isBlank c = true)
    (magnitude : List Char) (span : Duration) :
    Input.duration (String.ofList (gap ++ magnitude)) = .ok span ↔
      Input.duration (String.ofList magnitude) = .ok span := by
  rw [Duration.duration_eq_ok, Duration.duration_eq_ok, String.toList_ofList,
    String.toList_ofList, Text.trimChars_append hgap]

/-- The accepted texts are those whose magnitude is read. -/
theorem isAccepted_iff {text : String} :
    IsAccepted text ↔ ∃ span, Input.duration (Parameter.skewMagnitude text) = .ok span := by
  have hmagnitude : Parameter.skewMagnitude text =
      String.ofList ((Text.trimChars text.toList).dropWhile isSign) := rfl
  rw [hmagnitude]
  constructor
  · rintro ⟨signs, gap, magnitude, h⟩
    obtain ⟨span, hspan⟩ := h.reads
    rw [h.trimmed, Text.dropWhile_append_of_stops h.isSign h.stops_isSign]
    exact ⟨span, (duration_gap h.isBlank magnitude span).2 hspan⟩
  · rintro ⟨span, hspan⟩
    generalize hcs : Text.trimChars text.toList = cs at hspan
    have hparts : cs = cs.takeWhile isSign ++
        ((cs.dropWhile isSign).takeWhile Text.isBlank ++
          (cs.dropWhile isSign).dropWhile Text.isBlank) := by
      rw [List.takeWhile_append_dropWhile, List.takeWhile_append_dropWhile]
    have hblank : ∀ c ∈ (cs.dropWhile isSign).takeWhile Text.isBlank, Text.isBlank c = true :=
      fun c hc => List.mem_takeWhile_imp hc
    rw [← List.takeWhile_append_dropWhile (p := Text.isBlank) (l := cs.dropWhile isSign),
      duration_gap hblank] at hspan
    refine ⟨cs.takeWhile isSign, (cs.dropWhile isSign).takeWhile Text.isBlank,
      (cs.dropWhile isSign).dropWhile Text.isBlank, ?_⟩
    exact {
      trimmed := hcs.trans hparts
      isSign := fun c hc => List.mem_takeWhile_imp hc
      isBlank := hblank
      digit := by
        have hmeans := Duration.duration_eq_ok.1 hspan
        rw [String.toList_ofList] at hmeans
        obtain ⟨c, hc, hdigit⟩ := head_isDigit hmeans
        -- Only blanks at the end can be cut off, so the first digit is the first character.
        obtain ⟨later, hlater⟩ := Text.trimChars_isPrefix
          (Text.stops_dropWhile Text.isBlank (cs.dropWhile isSign))
        refine ⟨c, ?_, hdigit⟩
        rw [← hlater]
        exact List.mem_head?_append_of_mem_head? hc
      reads := ⟨span, hspan⟩ }

/-! ## Reading offsets -/

section Reading

variable {entries : Dimension} {text : String}

/-- An offset is its text without blanks around it, if what follows its signs is a duration. -/
theorem skew_eq (htext : Parameter.text .clockSkew entries "skew" = .ok text) :
    Parameter.skew .clockSkew entries "skew" =
      Input.duration (Parameter.skewMagnitude text) >>= fun _ => .ok (Text.trim text) := by
  rw [Parameter.skew, htext]
  exact pure_bind _ _

/-- Accepted offsets are kept as they are given, without the blanks around them. -/
theorem skew_eq_ok (htext : Parameter.text .clockSkew entries "skew" = .ok text) {kept : String} :
    Parameter.skew .clockSkew entries "skew" = .ok kept ↔
      IsAccepted text ∧ kept = Text.trim text := by
  rw [skew_eq htext, bind_eq_ok, isAccepted_iff]
  constructor
  · rintro ⟨span, hspan, hkept⟩
    cases hkept
    exact ⟨⟨span, hspan⟩, rfl⟩
  · rintro ⟨⟨span, hspan⟩, rfl⟩
    exact ⟨span, hspan, rfl⟩

/-- A dimension is not read if its offset is not. -/
theorem parse_eq_error {fault : InputFault}
    (h : Parameter.skew .clockSkew entries "skew" = .error fault) :
    ParamDimension.parse .clockSkew entries = .error fault := by
  rw [ParamDimension.parse, Parameter.params, h]
  rfl

/-- A clock skew that is accepted has an offset and a duration. -/
theorem parse_eq_ok {dimension : ParamDimension}
    (h : ParamDimension.parse .clockSkew entries = .ok dimension) :
    ∃ kept duration, Parameter.skew .clockSkew entries "skew" = .ok kept ∧
      dimension.params = .clockSkew kept duration := by
  obtain ⟨params, hparams, h⟩ := bind_eq_ok.1 h
  obtain ⟨kept, hkept, hparams⟩ := bind_eq_ok.1 hparams
  obtain ⟨duration, -, hparams⟩ := bind_eq_ok.1 hparams
  cases hparams
  refine ⟨kept, duration, hkept, ?_⟩
  obtain ⟨grace, -, h⟩ := bind_eq_ok.1 h
  cases grace with
  | none =>
    cases h
    rfl
  | some grace =>
    obtain ⟨span, -, h⟩ := bind_eq_ok.1 h
    cases h
    rfl

end Reading

/-- What the resource of a fault says in its own part. -/
def manifestEntry? (fault : Fault) (ns name key : String) : Option Tree := do
  (← (fault.manifest ns name).get? "spec").get? key

/-- Which offsets are read, and what becomes of them.

An offset is accepted exactly if it consists of signs, however many, then of blanks, however many,
then of a duration.  The dimension that is read keeps the text as it is given but for the blanks
around it, and so does the manifest of its fault.  A text that is not accepted is refused, unless
what follows its signs goes beyond what a duration holds.  An accepted text is a signed duration
exactly if it has at most one sign and no blank behind it. -/
theorem clockSkew_reads (entries : Dimension) (text : String)
    (htext : Parameter.text .clockSkew entries "skew" = .ok text) :
    (∀ kept, Parameter.skew .clockSkew entries "skew" = .ok kept ↔
        IsAccepted text ∧ kept = Text.trim text) ∧
      (∀ dimension, ParamDimension.parse .clockSkew entries = .ok dimension →
        IsAccepted text ∧ ∀ selector ns name,
          manifestEntry? (dimension.params.fault selector) ns name "timeOffset" =
            some (.text (Text.trim text))) ∧
      (¬ IsAccepted text → ParamDimension.parse .clockSkew entries =
        if Input.duration (Parameter.skewMagnitude text) = .error .durationRange then
          .error .durationRange
        else Input.refuse (.badDuration (Parameter.skewMagnitude text))) ∧
      ∀ signs gap magnitude, Parts text signs gap magnitude →
        (IsSigned text ↔ signs.length ≤ 1 ∧ gap = []) := by
  refine ⟨fun kept => skew_eq_ok htext, ?_, ?_, fun signs gap magnitude h => h.isSigned_iff⟩
  · intro dimension h
    obtain ⟨kept, duration, hkept, hparams⟩ := parse_eq_ok h
    obtain ⟨haccepted, rfl⟩ := (skew_eq_ok htext).1 hkept
    refine ⟨haccepted, fun selector ns name => ?_⟩
    rw [hparams]
    rfl
  · intro hrefused
    have hskew := skew_eq htext
    rcases Duration.duration_cases (Parameter.skewMagnitude text) with hok | hrange | hbad
    · exact absurd (isAccepted_iff.2 hok) hrefused
    · rw [if_pos hrange]
      rw [hrange] at hskew
      exact parse_eq_error hskew
    · have hholds : Input.duration (Parameter.skewMagnitude text) ≠ .error .durationRange := by
        rw [hbad]
        exact nofun
      rw [if_neg hholds]
      rw [hbad] at hskew
      exact parse_eq_error hskew

/-- A dimension whose offset has two signs. -/
def twoSigns : Dimension := .ofList [("skew", .text "--5m"), ("duration", .text "1m")]

/-- An offset of two signs is not a signed duration. -/
theorem not_isSigned_twoSigns : ¬ IsSigned "--5m" := by
  have hparts : Parts "--5m" ['-', '-'] [] ['5', 'm'] :=
    { trimmed := by decide
      isSign := List.all_eq_true.1 rfl
      isBlank := fun _ hc => nomatch hc
      digit := ⟨'5', rfl, rfl⟩
      reads := ⟨.ofSeconds 300, rfl⟩ }
  intro h
  exact absurd (hparts.isSigned_iff.1 h).1 (by decide)

/-- An offset with two signs is accepted, and reaches the manifest with both. -/
theorem clockSkew_reads_twoSigns :
    IsAccepted "--5m" ∧ ∃ dimension, ParamDimension.parse .clockSkew twoSigns = .ok dimension ∧
      ∀ selector ns name, manifestEntry? (dimension.params.fault selector) ns name "timeOffset" =
        some (.text "--5m") := by
  have htext : Parameter.text .clockSkew twoSigns "skew" = .ok "--5m" := rfl
  have hparse : ParamDimension.parse .clockSkew twoSigns =
      .ok ⟨.clockSkew "--5m" (.ofSeconds 60), none⟩ := rfl
  obtain ⟨haccepted, hentry⟩ := (clockSkew_reads twoSigns "--5m" htext).2.1 _ hparse
  exact ⟨haccepted, _, hparse, hentry⟩

/-- Offsets that are not signed durations are accepted. -/
theorem clockSkew_not_signed :
    ParamDimension.parse .clockSkew twoSigns = .ok ⟨.clockSkew "--5m" (.ofSeconds 60), none⟩ ∧
      ¬ IsSigned "--5m" :=
  ⟨rfl, not_isSigned_twoSigns⟩

end Offset
end DevnetChaos
