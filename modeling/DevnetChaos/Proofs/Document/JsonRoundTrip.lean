import DevnetChaos.Document.Json.Writer
import DevnetChaos.Proofs.Document.Decoders

/-!
# Reading JSON that was written

The text of a tree without numbers is read as that tree.  Each kind of value has its own lemma: a
text that is read as a value, as items or as entries wherever it stands, so that what is put
together from such texts is read as well.

Main definitions:

- `Json.ReadsBack`, `ItemsReadBack`, `EntriesReadBack`: texts that are read as a value, as the items
  of a list and as the entries of a map.
- `Json.Spacing.IsBlank`: a way to set out containers that a reader passes over.
- `Tree.hasNoNumbers`: trees of texts and truth values.

Main results:

- `Json.stringBody?_escaped`: the characters of a string are read back.
- `Json.readsBack_render`: so is a tree without numbers, however its containers are set out.
- `Json.parse?_pretty`, `Decoder.Reads.ofJson`: the tree, and the value that is read from it.
-/

namespace DevnetChaos
namespace Json

/-! ## Strings -/

/-- A quoted text is its characters, each one escaped, between quotation marks. -/
theorem toList_quote (s : String) :
    (quote s).toList = '"' :: (s.toList.flatMap fun c => (escapeChar c).toList) ++ ['"'] := by
  have hfold (cs : List Char) (out : String) :
      (cs.foldl (fun out c => out ++ escapeChar c) out).toList =
        out.toList ++ cs.flatMap fun c => (escapeChar c).toList := by
    induction cs generalizing out with
    | nil => simp
    | cons c rest ih => simp [ih]
  simp [quote, hfold]

/-- The four hexadecimal digits of a control character. -/
theorem hex4?_control : ∀ n < 32,
    hex4? '0' '0' (Nat.digitChar (n / 16)) (Nat.digitChar (n % 16)) = some n := by
  decide

/-- An escape with four digits that are no half of a surrogate pair stands for one character,
whatever follows it. -/
theorem stringBody?_unicode {a b c d : Char} {n : Nat} (hn : hex4? a b c d = some n)
    (hlow : n < 0xD800) (rest : List Char) :
    stringBody? ('\\' :: 'u' :: a :: b :: c :: d :: rest) =
      (stringBody? rest).map (withChar (Char.ofNat n)) := by
  have hnone (low : Nat) : pairChar? n low = none := if_neg (by omega)
  rw [stringBody?.eq_def]
  split
  · next h => cases h
  · next h => cases h
  · next h =>
    cases h
    simp only [hn, Option.bind_eq_bind, Option.bind_some, hnone, hlow, true_or, if_true]
    cases stringBody? _ <;> rfl
  · next h =>
    cases h
    simp only [hn, Option.bind_eq_bind, Option.bind_some, hlow, true_or, if_true]
    cases stringBody? rest <;> rfl
  · next hunicode h =>
    cases h
    exact absurd rfl (hunicode _ _ _ _ _ rfl)
  · next hescape h =>
    cases h
    exact (hescape _ _ rfl rfl).elim

/-- A short escape stands for one character. -/
theorem stringBody?_short {x c : Char} (hx : shortEscape? x = some c) (rest : List Char) :
    stringBody? ('\\' :: x :: rest) = (stringBody? rest).map (withChar c) := by
  have hu : x ≠ 'u' := by
    rintro rfl
    cases hx
  rw [stringBody?.eq_def]
  split
  · next h => cases h
  · next h => cases h
  · next h => cases h; exact absurd rfl hu
  · next h => cases h; exact absurd rfl hu
  · next h =>
    cases h
    simp [hx]
  · next hescape h =>
    cases h
    exact (hescape _ _ rfl rfl).elim

/-- A character that needs no escape stands for itself. -/
theorem stringBody?_plain {c : Char} (hquote : c ≠ '"') (hslash : c ≠ '\\')
    (hcontrol : ¬c.toNat < 0x20) (rest : List Char) :
    stringBody? (c :: rest) = (stringBody? rest).map (withChar c) := by
  rw [stringBody?.eq_def]
  split
  · next h => cases h
  · next h => cases h; exact absurd rfl hquote
  · next h => cases h; exact absurd rfl hslash
  · next h => cases h; exact absurd rfl hslash
  · next h => cases h; exact absurd rfl hslash
  · next h =>
    cases h
    rw [if_neg hcontrol]

/-- A character is read back from what is written for it. -/
theorem stringBody?_escapeChar (c : Char) (rest : List Char) :
    stringBody? ((escapeChar c).toList ++ rest) = (stringBody? rest).map (withChar c) := by
  unfold escapeChar
  split
  · exact stringBody?_short (show shortEscape? '"' = some '"' from rfl) rest
  · exact stringBody?_short (show shortEscape? '\\' = some '\\' from rfl) rest
  · exact stringBody?_short (show shortEscape? 'n' = some '\n' from rfl) rest
  · exact stringBody?_short (show shortEscape? 'r' = some '\r' from rfl) rest
  · exact stringBody?_short (show shortEscape? 't' = some '\t' from rfl) rest
  · exact stringBody?_short (show shortEscape? 'b' = some '\x08' from rfl) rest
  · exact stringBody?_short (show shortEscape? 'f' = some '\x0c' from rfl) rest
  · next hquote hslash _ _ _ _ _ =>
    split
    · next hcontrol =>
      have hhex := hex4?_control c.toNat hcontrol
      have hread := stringBody?_unicode hhex (by omega) rest
      rw [Char.ofNat_toNat] at hread
      simpa using hread
    · next hcontrol => simpa using stringBody?_plain hquote hslash hcontrol rest

/-- The characters of a string are read back. -/
theorem stringBody?_escaped (cs rest : List Char) :
    stringBody? ((cs.flatMap fun c => (escapeChar c).toList) ++ '"' :: rest) =
      some (some cs, rest) := by
  induction cs with
  | nil => rw [List.flatMap_nil, List.nil_append, stringBody?]
  | cons c cs ih =>
    rw [List.flatMap_cons, List.append_assoc, stringBody?_escapeChar, ih]
    rfl

/-! ## What is read back -/

/-- Characters that may stand between tokens. -/
def Blank (cs : List Char) : Prop := ∀ c ∈ cs, isSpace c = true

theorem Blank.nil : Blank [] := by
  intro c hc
  cases hc

/-- Blanks in front of a text are skipped. -/
theorem Blank.dropWhile {blank : List Char} (h : Blank blank) (cs : List Char) :
    (blank ++ cs).dropWhile isSpace = cs.dropWhile isSpace :=
  List.dropWhile_append_of_pos h

/-- A text that begins with a token other than a closing bracket. -/
def BeginsToken (text : List Char) : Prop :=
  ∃ c more, text = c :: more ∧ isSpace c = false ∧ c ≠ ']'

theorem BeginsToken.append {text : List Char} (h : BeginsToken text) (rest : List Char) :
    BeginsToken (text ++ rest) := by
  obtain ⟨c, more, rfl, hspace, hclosing⟩ := h
  exact ⟨c, more ++ rest, rfl, hspace, hclosing⟩

/-- What begins with a token has no blanks in front. -/
theorem BeginsToken.dropWhile {text : List Char} (h : BeginsToken text) :
    text.dropWhile isSpace = text := by
  obtain ⟨c, more, rfl, hspace, -⟩ := h
  simp [hspace]

/-- A text that is read as a tree wherever it stands. -/
structure ReadsBack (text : List Char) (t : Tree) : Prop where
  begins : BeginsToken text
  read : ∀ (fuel depth : Nat) (rest : List Char) {blank : List Char}, Blank blank →
    text.length ≤ fuel → text.length ≤ depth →
      value? fuel depth (blank ++ text ++ rest) = some (t, rest)

/-- A text that is read as the items of a list in front of a closing bracket. -/
structure ItemsReadBack (text : List Char) (ts : List Tree) : Prop where
  begins : BeginsToken text
  read : ∀ (fuel depth : Nat) (rest : List Char) {blank gap : List Char}, Blank blank → Blank gap →
    text.length < fuel → text.length ≤ depth →
      items? fuel depth (blank ++ text ++ gap ++ ']' :: rest) = some (ts, rest)

/-- A text that is read as the entries of a map in front of a closing brace. -/
structure EntriesReadBack (text : List Char) (entries : List (String × Tree)) : Prop where
  begins : ∃ more, text = '"' :: more
  read : ∀ (fuel depth : Nat) (rest : List Char) {blank gap : List Char}, Blank blank → Blank gap →
    text.length < fuel → text.length ≤ depth →
      entries? fuel depth (blank ++ text ++ gap ++ '\x7d' :: rest) = some (some entries, rest)

/-- Blank characters in front of a value are passed over. -/
theorem ReadsBack.of_read {text : List Char} {t : Tree} (hbegins : BeginsToken text)
    (hread : ∀ fuel depth rest, text.length ≤ fuel + 1 → text.length ≤ depth →
      value? (fuel + 1) depth (text ++ rest) = some (t, rest)) : ReadsBack text t where
  begins := hbegins
  read fuel depth rest blank hblank hfuel hdepth := by
    cases fuel with
    | zero =>
      obtain ⟨c, more, rfl, -⟩ := hbegins
      cases hfuel
    | succ fuel =>
      have hskip : value? (fuel + 1) depth (blank ++ text ++ rest) =
          value? (fuel + 1) depth (text ++ rest) := by
        rw [value?, value?, List.append_assoc, hblank.dropWhile]
      rw [hskip]
      exact hread fuel depth rest hfuel hdepth

/-! ## Scalars -/

theorem ReadsBack.null : ReadsBack "null".toList .null :=
  .of_read ⟨'n', _, rfl, rfl, by decide⟩ fun _ _ _ _ _ => rfl

/-- The words for truth values are read back. -/
theorem ReadsBack.bool (b : Bool) :
    ReadsBack (if b then "true" else "false").toList (.bool b) := by
  cases b with
  | true => exact .of_read ⟨'t', _, rfl, rfl, by decide⟩ fun _ _ _ _ _ => rfl
  | false => exact .of_read ⟨'f', _, rfl, rfl, by decide⟩ fun _ _ _ _ _ => rfl

/-- The characters of a quoted text are read up to its closing quotation mark. -/
theorem stringBody?_quote (s : String) (rest : List Char) :
    ∃ body, (quote s).toList ++ rest = '"' :: body ∧
      stringBody? body = some (some s.toList, rest) := by
  refine ⟨_, ?_, stringBody?_escaped s.toList rest⟩
  simp [toList_quote]

theorem ReadsBack.text (s : String) : ReadsBack (quote s).toList (.text s) := by
  refine .of_read ⟨'"', _, toList_quote s, rfl, by decide⟩ fun fuel depth rest _ _ => ?_
  obtain ⟨body, hbody, hread⟩ := stringBody?_quote s rest
  have htoken : (('"' :: body).dropWhile isSpace) = '"' :: body := rfl
  rw [hbody, value?, htoken]
  simp [hread, textTree]

/-! ## Lists -/

/-- The text of one item is the text of a list of one. -/
theorem ItemsReadBack.single {text : List Char} {t : Tree} (h : ReadsBack text t) :
    ItemsReadBack text [t] where
  begins := h.begins
  read fuel depth rest blank gap hblank hgap hfuel hdepth := by
    obtain ⟨fuel, rfl⟩ := Nat.exists_eq_add_one.2 (Nat.zero_lt_of_lt hfuel)
    have hclosing : (gap ++ ']' :: rest).dropWhile isSpace = ']' :: rest := hgap.dropWhile _
    rw [items?, List.append_assoc, h.read fuel depth _ hblank (Nat.le_of_lt_succ hfuel) hdepth]
    simp [hclosing]

/-- An item, a comma and further items. -/
theorem ItemsReadBack.cons {text later between : List Char} {t : Tree} {ts : List Tree}
    (h : ReadsBack text t) (hlater : ItemsReadBack later ts) (hbetween : Blank between) :
    ItemsReadBack (text ++ ',' :: between ++ later) (t :: ts) where
  begins := by
    rw [List.append_assoc]
    exact h.begins.append _
  read fuel depth rest blank gap hblank hgap hfuel hdepth := by
    obtain ⟨fuel, rfl⟩ := Nat.exists_eq_add_one.2 (Nat.zero_lt_of_lt hfuel)
    simp only [List.length_append, List.length_cons] at hfuel hdepth
    have hfirst := h.read fuel depth
      (',' :: (between ++ later ++ gap ++ ']' :: rest)) hblank (by omega) (by omega)
    have hrest := hlater.read fuel depth rest hbetween hgap (by omega)
      (by omega)
    have hsplit : blank ++ (text ++ ',' :: between ++ later) ++ gap ++ ']' :: rest =
        blank ++ text ++ ',' :: (between ++ later ++ gap ++ ']' :: rest) := by simp
    have hcomma (cs : List Char) : (',' :: cs).dropWhile isSpace = ',' :: cs := rfl
    rw [hsplit, items?, hfirst]
    simp only [Option.bind_eq_bind, Option.bind_some, hcomma, hrest]
    rfl

theorem ReadsBack.list_nil : ReadsBack ['[', ']'] (.list []) := by
  refine .of_read ⟨'[', _, rfl, rfl, by decide⟩ fun fuel depth rest _ hdepth => ?_
  cases depth with
  | zero => cases hdepth
  | succ depth => rfl

/-- Items between brackets, with blanks around them, are read back as a list. -/
theorem ReadsBack.list {text opening closing : List Char} {ts : List Tree}
    (h : ItemsReadBack text ts) (hopening : Blank opening) (hclosing : Blank closing) :
    ReadsBack ('[' :: opening ++ text ++ closing ++ [']']) (.list ts) := by
  refine .of_read ⟨'[', _, rfl, rfl, by decide⟩ fun fuel depth rest hfuel hdepth => ?_
  simp only [List.length_append, List.length_cons, List.length_nil] at hfuel hdepth
  cases depth with
  | zero => cases hdepth
  | succ depth =>
    have hitems := h.read fuel depth rest .nil hclosing (by omega) (by omega)
    have htoken : (('[' :: opening ++ text ++ closing ++ [']'] ++ rest).dropWhile isSpace) =
        '[' :: (opening ++ (text ++ (closing ++ ']' :: rest))) := by simp [isSpace]
    have hinner : (opening ++ (text ++ (closing ++ ']' :: rest))).dropWhile isSpace =
        text ++ (closing ++ ']' :: rest) := by
      rw [hopening.dropWhile, (h.begins.append _).dropWhile]
    rw [value?, htoken]
    simp only [hinner]
    split
    · next hempty =>
      obtain ⟨c, more, rfl, -, hclosing⟩ := h.begins
      cases hempty
      exact absurd rfl hclosing
    · rw [List.nil_append, List.append_assoc] at hitems
      rw [hitems]
      rfl

/-! ## Maps -/

/-- Blanks before the first entry of a map are skipped. -/
theorem entries?_blank {blank : List Char} (hblank : Blank blank) (fuel depth : Nat)
    (cs : List Char) : entries? (fuel + 1) depth (blank ++ cs) = entries? (fuel + 1) depth cs := by
  rw [entries?, entries?, hblank.dropWhile]

/-- The first entry of a map is read up to what follows its value. -/
theorem entries?_entry {key : String} {text colon : List Char} {t : Tree} (h : ReadsBack text t)
    (hcolon : Blank colon) {fuel depth : Nat} (hfuel : text.length ≤ fuel)
    (hdepth : text.length ≤ depth) (rest : List Char) :
    entries? (fuel + 1) depth ((quote key).toList ++ ':' :: colon ++ text ++ rest) =
      match rest.dropWhile isSpace with
      | ',' :: rest => do
          let (entries, rest) ← entries? fuel depth rest
          return (withEntry (some key.toList) t entries, rest)
      | '\x7d' :: rest => some (withEntry (some key.toList) t (some []), rest)
      | _ => none := by
  obtain ⟨body, hbody, hread⟩ := stringBody?_quote key (':' :: (colon ++ text ++ rest))
  have htoken : ((quote key).toList ++ ':' :: colon ++ text ++ rest).dropWhile isSpace =
      '"' :: body := by
    rw [← hbody]
    simp [toList_quote, isSpace]
  have hcolon' (cs : List Char) : (':' :: cs).dropWhile isSpace = ':' :: cs := rfl
  have hvalue := h.read fuel depth rest hcolon hfuel hdepth
  rw [entries?, htoken]
  simp only [hread, Option.bind_eq_bind, Option.bind_some, hcolon', hvalue]
  rfl

/-- A quoted key, a colon and a value are one entry. -/
theorem EntriesReadBack.single (key : String) {text colon : List Char} {t : Tree}
    (h : ReadsBack text t) (hcolon : Blank colon) :
    EntriesReadBack ((quote key).toList ++ ':' :: colon ++ text) [(key, t)] where
  begins := ⟨_, by rw [toList_quote]; rfl⟩
  read fuel depth rest blank gap hblank hgap hfuel hdepth := by
    obtain ⟨fuel, rfl⟩ := Nat.exists_eq_add_one.2 (Nat.zero_lt_of_lt hfuel)
    simp only [List.length_append, List.length_cons] at hfuel hdepth
    have hclosing : (gap ++ '\x7d' :: rest).dropWhile isSpace = '\x7d' :: rest :=
      hgap.dropWhile _
    rw [List.append_assoc, List.append_assoc, entries?_blank hblank,
      entries?_entry h hcolon (by omega) (by omega)]
    simp [hclosing, withEntry]

/-- An entry, a comma and further entries. -/
theorem EntriesReadBack.cons (key : String) {text later colon between : List Char} {t : Tree}
    {entries : List (String × Tree)} (h : ReadsBack text t) (hlater : EntriesReadBack later entries)
    (hcolon : Blank colon) (hbetween : Blank between) :
    EntriesReadBack ((quote key).toList ++ ':' :: colon ++ text ++ ',' :: between ++ later)
      ((key, t) :: entries) where
  begins := ⟨_, by rw [toList_quote]; rfl⟩
  read fuel depth rest blank gap hblank hgap hfuel hdepth := by
    obtain ⟨fuel, rfl⟩ := Nat.exists_eq_add_one.2 (Nat.zero_lt_of_lt hfuel)
    simp only [List.length_append, List.length_cons] at hfuel hdepth
    have hrest := hlater.read fuel depth rest hbetween hgap (by omega)
      (by omega)
    have hcomma (cs : List Char) : (',' :: cs).dropWhile isSpace = ',' :: cs := rfl
    have hsplit :
        blank ++ ((quote key).toList ++ ':' :: colon ++ text ++ ',' :: between ++ later) ++ gap ++
            '\x7d' :: rest =
          blank ++ ((quote key).toList ++ ':' :: colon ++ text ++
            ',' :: (between ++ later ++ gap ++ '\x7d' :: rest)) := by simp
    rw [hsplit, entries?_blank hblank, entries?_entry h hcolon (by omega) (by omega)]
    simp only [hcomma, hrest]
    simp [withEntry]

theorem ReadsBack.map_nil : ReadsBack ['\x7b', '\x7d'] (.map []) := by
  refine .of_read ⟨'\x7b', _, rfl, rfl, by decide⟩ fun fuel depth rest _ hdepth => ?_
  cases depth with
  | zero => cases hdepth
  | succ depth => rfl

/-- Entries between braces, with blanks around them, are read back as a map. -/
theorem ReadsBack.map {text opening closing : List Char} {entries : List (String × Tree)}
    (h : EntriesReadBack text entries) (hopening : Blank opening) (hclosing : Blank closing) :
    ReadsBack ('\x7b' :: opening ++ text ++ closing ++ ['\x7d']) (.map entries) := by
  refine .of_read ⟨'\x7b', _, rfl, rfl, by decide⟩ fun fuel depth rest hfuel hdepth => ?_
  simp only [List.length_append, List.length_cons, List.length_nil] at hfuel hdepth
  cases depth with
  | zero => cases hdepth
  | succ depth =>
    have hentries := h.read fuel depth rest .nil hclosing (by omega) (by omega)
    have htoken : ('\x7b' :: opening ++ text ++ closing ++ ['\x7d'] ++ rest).dropWhile isSpace =
        '\x7b' :: (opening ++ (text ++ (closing ++ '\x7d' :: rest))) := by simp [isSpace]
    obtain ⟨more, rfl⟩ := h.begins
    have hinner : (opening ++ ('"' :: more ++ (closing ++ '\x7d' :: rest))).dropWhile isSpace =
        '"' :: (more ++ (closing ++ '\x7d' :: rest)) := by
      rw [hopening.dropWhile]
      rfl
    rw [List.nil_append, List.append_assoc, List.cons_append] at hentries
    rw [value?, htoken]
    simp only [hinner]
    split
    · next hempty => cases hempty
    · rw [hentries]
      rfl

/-! ## Trees -/

/-- A way to set out containers that puts only blank characters between tokens. -/
structure Spacing.IsBlank (s : Spacing) : Prop where
  lineBreak : ∀ level, Blank (s.lineBreak level).toList
  colon : ∃ gap, s.colon.toList = ':' :: gap ∧ Blank gap

/-- The line breaks and indents of the wide notation are blanks. -/
theorem Spacing.isBlank_pretty : Spacing.pretty.IsBlank where
  lineBreak level := by
    intro c hc
    simp only [pretty, newline, String.toList_append, String.toList_ofList, List.mem_append,
      List.mem_replicate] at hc
    rcases hc with hc | ⟨-, rfl⟩
    · rw [List.mem_singleton.1 hc]
      rfl
    · rfl
  colon := ⟨[' '], rfl, by intro c hc; rw [List.mem_singleton.1 hc]; rfl⟩

end Json

namespace Tree

mutual

/-- Whether a tree has no numbers in it, and nothing that stands for nothing. -/
def hasNoNumbers : Tree → Bool
  | .list items => haveNoNumbers items
  | .map entries => entriesHaveNoNumbers entries
  | .int _ | .float _ | .unreadable => false
  | .null | .bool _ | .text _ => true

def haveNoNumbers : List Tree → Bool
  | [] => true
  | t :: rest => t.hasNoNumbers && haveNoNumbers rest

def entriesHaveNoNumbers : List (String × Tree) → Bool
  | [] => true
  | (_, t) :: rest => t.hasNoNumbers && entriesHaveNoNumbers rest

end

/-- A list has no numbers when none of its items does. -/
@[simp] theorem haveNoNumbers_iff {ts : List Tree} :
    haveNoNumbers ts = true ↔ ∀ t ∈ ts, t.hasNoNumbers = true := by
  induction ts with
  | nil => simp [haveNoNumbers]
  | cons t rest ih => simp [haveNoNumbers, ih]

/-- Entries have no numbers when none of their values does. -/
@[simp] theorem entriesHaveNoNumbers_iff {entries : List (String × Tree)} :
    entriesHaveNoNumbers entries = true ↔ ∀ e ∈ entries, e.2.hasNoNumbers = true := by
  induction entries with
  | nil => simp [entriesHaveNoNumbers]
  | cons e rest ih => simp [entriesHaveNoNumbers, ih]

end Tree

namespace Json

variable {s : Spacing}

mutual

/-- The text of a tree without numbers is read as that tree. -/
theorem readsBack_render (hs : s.IsBlank) (level : Nat) :
    ∀ t : Tree, t.hasNoNumbers = true → ReadsBack (render s level t).toList t
  | .null, _ => .null
  | .bool b, _ => .bool b
  | .text t, _ => .text t
  | .list [], _ => by simpa [render, enclose, renderItems] using ReadsBack.list_nil
  | .list (t :: ts), h => by
      have hitems := itemsReadBack_render hs (level + 1) (t :: ts) h (List.cons_ne_nil t ts)
      have hread := ReadsBack.list hitems (hs.lineBreak (level + 1)) (hs.lineBreak level)
      simpa [render, enclose, renderItems, String.toList_intercalate] using hread
  | .map [], _ => by simpa [render, enclose, renderEntries] using ReadsBack.map_nil
  | .map (e :: entries), h => by
      have hentries :=
        entriesReadBack_render hs (level + 1) (e :: entries) h (List.cons_ne_nil e entries)
      have hread := ReadsBack.map hentries (hs.lineBreak (level + 1)) (hs.lineBreak level)
      simpa [render, enclose, renderEntries, String.toList_intercalate] using hread

/-- The items of a list are read back, as each of them is. -/
theorem itemsReadBack_render (hs : s.IsBlank) (level : Nat) :
    ∀ ts : List Tree, Tree.haveNoNumbers ts = true → ts ≠ [] →
      ItemsReadBack (("," ++ s.lineBreak level).intercalate (renderItems s level ts)).toList ts
  | [], _, hne => absurd rfl hne
  | [t], h, _ => by
      have ht : t.hasNoNumbers = true := (Bool.and_eq_true_iff.1 h).1
      simpa [renderItems, String.toList_intercalate] using
        ItemsReadBack.single (readsBack_render hs level t ht)
  | t :: t' :: ts, h, _ => by
      obtain ⟨ht, hts⟩ := Bool.and_eq_true_iff.1 h
      have hlater := itemsReadBack_render hs level (t' :: ts) hts (List.cons_ne_nil t' ts)
      have hread := ItemsReadBack.cons (readsBack_render hs level t ht) hlater (hs.lineBreak level)
      simpa [renderItems, String.toList_intercalate] using hread

/-- The entries of a map are read back, as the value of each is. -/
theorem entriesReadBack_render (hs : s.IsBlank) (level : Nat) :
    ∀ entries : List (String × Tree), Tree.entriesHaveNoNumbers entries = true → entries ≠ [] →
      EntriesReadBack
        (("," ++ s.lineBreak level).intercalate (renderEntries s level entries)).toList entries
  | [], _, hne => absurd rfl hne
  | [(key, t)], h, _ => by
      obtain ⟨gap, hgap, hblank⟩ := hs.colon
      have ht : t.hasNoNumbers = true := (Bool.and_eq_true_iff.1 h).1
      have hread := EntriesReadBack.single key (readsBack_render hs level t ht) hblank
      simpa [renderEntries, String.toList_intercalate, hgap] using hread
  | (key, t) :: e :: entries, h, _ => by
      obtain ⟨gap, hgap, hblank⟩ := hs.colon
      obtain ⟨ht, hentries⟩ := Bool.and_eq_true_iff.1 h
      have hlater :=
        entriesReadBack_render hs level (e :: entries) hentries (List.cons_ne_nil e entries)
      have hread := EntriesReadBack.cons key (readsBack_render hs level t ht) hlater hblank
        (hs.lineBreak level)
      simpa [renderEntries, String.toList_intercalate, hgap] using hread

end

/-- The text of a tree without numbers, with one item on each line, is read as that tree. -/
theorem parse?_pretty {t : Tree} (h : t.hasNoNumbers = true) : parse? (pretty t) = some t := by
  have hread := (readsBack_render Spacing.isBlank_pretty 0 t h).read
    (2 * (pretty t).toList.length + 2) (pretty t).length [] .nil
    (by rw [pretty]; omega) (Nat.le_of_eq (by rw [pretty, String.length_toList]))
  rw [List.nil_append, List.append_nil] at hread
  rw [parse?, parseWithin?, pretty] at *
  simp only [hread]
  rfl

end Json
/-- The value is read from the text that was written for its tree. -/
theorem Decoder.Reads.ofJson {α : Type} {d : Decoder α} {t : Tree} {a : α} (h : d.Reads t a)
    (ht : t.hasNoNumbers = true) : d.ofJson (Json.pretty t) = .ok a := by
  rw [Decoder.ofJson, Json.parse?_pretty ht]
  exact h.ofValue

end DevnetChaos
