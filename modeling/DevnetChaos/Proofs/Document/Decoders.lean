import DevnetChaos.Document.Alternative
import DevnetChaos.Document.Source
import DevnetChaos.Proofs.Document.YamlPlaces
import DevnetChaos.Proofs.Duration.Writing
import DevnetChaos.Proofs.TextMap

/-!
# Readers that read what was written

A reader reads a tree as a value if it gives that value at every place that says the tree.  Readers
that are put together read what is put together from trees that their parts read, so that a reader
and a writer of one type can be compared field by field.

Main definitions:

- `Decoder.Reads`: a reader that reads a tree as a value.
- `Record.Fills`: entries that fill the fields of a record in their order.

Main results:

- `Decoder.reads_word`, `reads_duration`: words of a vocabulary and durations.
- `Decoder.reads_option`, `reads_list`, `reads_textMap`: what is put together.
- `Decoder.reads_record`: a record is read from the entries that fill it.
- `Decoder.reads_tagged`: so is a record that names its alternative.
- `Decoder.Reads.ofValue`, `Decoder.Reads.ofYaml`: what is read from a tree that was given as JSON,
  and from a YAML text that says a tree.
-/

namespace DevnetChaos

namespace Decoder

variable {α β : Type}

/-- A reader that gives a value at every place that says a tree, in which everything stands for
something. -/
structure Reads (d : Decoder α) (t : Tree) (a : α) : Prop where
  readable : t.isReadable = true
  read : ∀ p : Place, p.Says t → d p = pure a

/-- A reader may go on from the value that it read. -/
theorem Reads.andThen {d : Decoder α} {t : Tree} {a : α} {b : β} {next : α → Reading β}
    (h : d.Reads t a) (hnext : next a = pure b) : Reads (fun p => d p >>= next) t b where
  readable := h.readable
  read p hp := by rw [h.read p hp, pure_bind, hnext]

/-- The value is read from the tree as it was given. -/
theorem Reads.ofValue {d : Decoder α} {t : Tree} {a : α} (h : d.Reads t a) :
    d.ofValue t = .ok a := by
  rw [Decoder.ofValue, run, h.read _ (Place.says_json t h.readable)]
  rfl

/-- The value is read from a text that says the tree. -/
theorem Reads.ofYaml {d : Decoder α} {t : Tree} {a : α} (h : d.Reads t a) {s : String}
    (hs : (Yaml.Document.ofText s).Says t) : d.ofYaml s = .ok a := by
  have hread := h.read _ (Yaml.Spot.says_spot hs)
  simp only [Decoder.ofYaml, run, hread, hs.isLast, if_true]
  rfl

/-! ## Scalars -/

theorem reads_text (s : String) : text.Reads (.text s) s := ⟨rfl, fun _ hp => hp.2.text⟩

theorem reads_bool (b : Bool) : bool.Reads (.bool b) b := ⟨rfl, fun _ hp => hp.2⟩

/-- A number is read if it is below the bound. -/
theorem reads_unsigned {bound n : Nat} (h : n < bound) : (unsigned bound).Reads (.nat n) n where
  readable := rfl
  read p hp := by
    rw [unsigned, hp.2 n rfl, pure_bind, if_pos h]

theorem reads_index {n : Nat} (h : n < wordCount) : index.Reads (.nat n) n := reads_unsigned h

/-- Numbers of 8 bits are always small enough; so are those of 32 and 64 bits. -/
theorem reads_byte (n : UInt8) : byte.Reads (.nat n.toNat) n :=
  (reads_unsigned n.toNat_lt).andThen (congrArg pure n.ofNat_toNat)

theorem reads_word32 (n : UInt32) : word32.Reads (.nat n.toNat) n :=
  (reads_unsigned n.toNat_lt).andThen (congrArg pure n.ofNat_toNat)

theorem reads_word64 (n : UInt64) : word64.Reads (.nat n.toNat) n :=
  (reads_unsigned n.toNat_lt).andThen (congrArg pure n.ofNat_toNat)

/-- A writable duration is read from its text. -/
theorem reads_duration {d : Duration} (h : d.Writable) : duration.Reads (.text d.format) d where
  readable := rfl
  read p hp := by
    rw [duration, hp.2.text, pure_bind, Duration.read_format h]

/-- Of different words each one is found by its name. -/
theorem find?_word {words : List α} {name : α → String} (hnames : (words.map name).Nodup) {a : α}
    (ha : a ∈ words) :
    (Identifier.name (name a)).find?
      ((vocabulary words name).map fun (name, a) => (name, Variant.alone a)) =
        some (.alone a) := by
  refine (TextMap.lookup_eq_some_iff ?_).2 ?_
  · simpa [vocabulary, Function.comp_def] using hnames
  · simpa [vocabulary] using ha

/-- A word of a vocabulary in which no two words have one name is read from its name. -/
theorem reads_word {words : List α} {name : α → String} (hnames : (words.map name).Nodup) {a : α}
    (ha : a ∈ words) : (word words name).Reads (.text (name a)) a where
  readable := rfl
  read p hp := by
    rw [word, variant, hp.2.choice, pure_bind]
    simp only [find?_word hnames ha]

/-! ## What is put together -/

/-- A value that is given is read as one that may be absent. -/
theorem reads_option {d : Decoder α} {t : Tree} {a : α} (h : d.Reads t a) (ht : t ≠ .null) :
    (option d).Reads t (some a) where
  readable := h.readable
  read p hp := by
    rw [option, hp.present ht, pure_bind]
    exact (congrArg (· >>= fun a => pure (some a)) (h.read p hp)).trans (pure_bind _ _)

/-- A list has a meaning if all its items do. -/
theorem areReadable_map {f : α → Tree} {xs : List α} (h : ∀ x ∈ xs, (f x).isReadable = true) :
    Tree.areReadable (xs.map f) = true := by
  induction xs with
  | nil => rfl
  | cons x rest ih =>
    obtain ⟨hx, hrest⟩ := List.forall_mem_cons.1 h
    rw [List.map_cons, Tree.areReadable, hx, ih hrest]
    rfl

/-- Items are read one by one. -/
theorem mapM_items {d : Decoder α} {f : α → Tree} {xs : List α} {ps : List Place}
    (h : ∀ x ∈ xs, d.Reads (f x) x) (hps : Place.SaysItems ps (xs.map f)) :
    ps.mapM d = pure xs := by
  induction xs generalizing ps with
  | nil =>
    cases ps with
    | nil => rfl
    | cons => cases hps
  | cons x rest ih =>
    obtain ⟨hx, hrest⟩ := List.forall_mem_cons.1 h
    cases ps with
    | nil => cases hps
    | cons p ps =>
      rw [List.mapM_cons, hx.read p hps.1, pure_bind, ih hrest hps.2]
      rfl

/-- A list is read if each of its items is. -/
theorem reads_list {d : Decoder α} {f : α → Tree} {xs : List α} (h : ∀ x ∈ xs, d.Reads (f x) x) :
    (list d).Reads (.list (xs.map f)) xs where
  readable := areReadable_map fun x hx => (h x hx).readable
  read p hp := by
    obtain ⟨-, ps, hitems, hps⟩ := hp
    rw [list, hitems, pure_bind, mapM_items h hps]

/-- A list of texts is read as what it is. -/
theorem reads_texts (xs : List String) : (list text).Reads (.texts xs) xs :=
  reads_list fun x _ => reads_text x

/-- Entries have a meaning if all their values do. -/
theorem entriesAreReadable_map {f : α → Tree} {entries : List (String × α)}
    (h : ∀ e ∈ entries, (f e.2).isReadable = true) :
    Tree.entriesAreReadable (entries.map fun e => (e.1, f e.2)) = true := by
  induction entries with
  | nil => rfl
  | cons e rest ih =>
    obtain ⟨he, hrest⟩ := List.forall_mem_cons.1 h
    rw [List.map_cons, Tree.entriesAreReadable, he, ih hrest]
    rfl

/-- Entries are read one by one, keys and values. -/
theorem mapM_entries {d : Decoder α} {f : α → Tree} {entries : List (String × α)}
    {ps : List (Place × Place)} (h : ∀ e ∈ entries, d.Reads (f e.2) e.2)
    (hps : Place.SaysEntries ps (entries.map fun e => (e.1, f e.2))) :
    ps.mapM (entry d) = pure entries := by
  induction entries generalizing ps with
  | nil =>
    cases ps with
    | nil => rfl
    | cons => cases hps
  | cons e rest ih =>
    obtain ⟨he, hrest⟩ := List.forall_mem_cons.1 h
    cases ps with
    | nil => cases hps
    | cons q ps =>
      have hentry : entry d q = pure e := by
        rw [entry, hps.1.text, pure_bind, he.read q.2 hps.2.1, pure_bind]
      rw [List.mapM_cons, hentry, pure_bind, ih hrest hps.2.2]
      rfl

/-- A map is read from its entries if each of its values is read. -/
theorem reads_textMap {d : Decoder α} {f : α → Tree} {m : TextMap α}
    (h : ∀ e ∈ m.entries, d.Reads (f e.2) e.2) :
    (textMap d).Reads (.map (m.entries.map fun e => (e.1, f e.2))) m where
  readable := entriesAreReadable_map fun e he => (h e he).readable
  read p hp := by
    obtain ⟨-, ps, hentries, -, -, hps⟩ := hp
    rw [textMap, hentries, pure_bind, mapM_entries h hps, pure_bind, TextMap.ofList_entries]

end Decoder

/-! ## Records -/

namespace Record

variable {ρ α : Type}

/-- Entries that fill the fields of a record in their order: from what the record holds before
them they lead to what it holds in the end.  A field that need not be given may be left out. -/
inductive Fills : List (Field ρ) → ρ → List (String × Tree) → ρ → Prop
  | done {r : ρ} : Fills [] r [] r
  | given {f : Field ρ} {fields : List (Field ρ)} {r next last : ρ} {t : Tree}
      {es : List (String × Tree)} (h : (f.read r).Reads t next)
      (later : Fills fields next es last) : Fills (f :: fields) r ((f.name, t) :: es) last
  | leftOut {f : Field ρ} {fields : List (Field ρ)} {r last : ρ} {es : List (String × Tree)}
      (h : f.isRequired = false) (later : Fills fields r es last) :
      Fills (f :: fields) r es last

namespace Fills

variable {fields : List (Field ρ)} {r last : ρ} {es : List (String × Tree)}

/-- The entries that fill a record have a meaning. -/
theorem readable (h : Fills fields r es last) : Tree.entriesAreReadable es = true := by
  induction h with
  | done => rfl
  | given h _ ih =>
    rw [Tree.entriesAreReadable, h.readable, ih]
    rfl
  | leftOut _ _ ih => exact ih

/-- A field that has to be given. -/
theorem required {name : String} {d : Decoder α} {set : ρ → α → ρ} {t : Tree} {a : α}
    (h : d.Reads t a) (later : Fills fields (set r a) es last) :
    Fills (.required name d set :: fields) r ((name, t) :: es) last :=
  given (f := .required name d set) (h.andThen rfl) later

/-- A field that is given though it need not be. -/
theorem withDefault {name : String} {d : Decoder α} {set : ρ → α → ρ} {t : Tree} {a : α}
    (h : d.Reads t a) (later : Fills fields (set r a) es last) :
    Fills (.withDefault name d set :: fields) r ((name, t) :: es) last :=
  given (f := .withDefault name d set) (h.andThen rfl) later

/-- A field that is left out where its value is the one that the record starts with. -/
theorem entryUnless {name : String} {d : Decoder α} {set : ρ → α → ρ} {t : Tree} {a : α}
    {skip : Bool} (h : d.Reads t a) (hskip : skip = true → set r a = r)
    (later : Fills fields (set r a) es last) :
    Fills (.withDefault name d set :: fields) r (Tree.entryUnless skip name t ++ es) last := by
  cases skip with
  | false => exact withDefault h later
  | true => exact leftOut rfl (hskip rfl ▸ later)

/-- A field that is left out where it is absent. -/
theorem optional {name : String} {d : Decoder α} {set : ρ → Option α → ρ} {f : α → Tree}
    {value : Option α} (h : ∀ a, value = some a → d.Reads (f a) a) (hf : ∀ a, f a ≠ .null)
    (hnone : set r none = r) (later : Fills fields (set r value) es last) :
    Fills (.optional name d set :: fields) r (Tree.optional name f value ++ es) last := by
  cases value with
  | none => exact leftOut rfl (hnone ▸ later)
  | some a => exact withDefault (Decoder.reads_option (h a rfl) (hf a)) later

end Fills

variable {all fields : List (Field ρ)} {r last : ρ} {es : List (String × Tree)}

/-- Of fields with different names each one is found by its name. -/
theorem fieldOf?_eq_some (hnames : (all.map Field.name).Nodup) {f : Field ρ} (hf : f ∈ all) :
    fieldOf? all (.name f.name) = some f := by
  refine (TextMap.lookup_eq_some_iff ?_).2 (List.mem_map.2 ⟨f, hf, rfl⟩)
  simpa [Function.comp_def] using hnames

/-- Reading goes on over the fields that are left, if those with a value are not among them and
every field that has to be given is. -/
theorem readEntries_of_fills (h : Fills fields r es last) (hnames : (all.map Field.name).Nodup)
    {given : List String} {ps : List (Place × Place)} (hps : Place.SaysEntries ps es)
    (hsub : ∀ f ∈ fields, f ∈ all) (hfields : (fields.map Field.name).Nodup)
    (hopen : ∀ f ∈ fields, f.name ∉ given)
    (hrequired : ∀ f ∈ all, f.isRequired = true → f.name ∈ given ∨ f ∈ fields) :
    readEntries all given r ps = pure last := by
  induction h generalizing given ps with
  | done =>
    cases ps with
    | cons => cases hps
    | nil =>
      have hcomplete : isComplete all given = true := by
        rw [isComplete, List.all_eq_true]
        intro f hf
        cases hreq : f.isRequired with
        | false => rfl
        | true =>
          have hgiven := (hrequired f hf hreq).resolve_right List.not_mem_nil
          simpa using hgiven
      rw [readEntries, if_pos hcomplete]
  | @given f fields _ _ _ _ _ h _ ih =>
    cases ps with
    | nil => cases hps
    | cons q ps =>
      obtain ⟨k, p⟩ := q
      obtain ⟨hf, hlater⟩ := List.forall_mem_cons.1 hsub
      obtain ⟨hnew, hfields⟩ := List.nodup_cons.1 hfields
      have hfirst : given.contains f.name = false := by
        simpa using hopen f List.mem_cons_self
      rw [readEntries, hps.1.identifier, pure_bind, fieldOf?_eq_some hnames hf]
      simp only [hfirst, Bool.false_eq_true, if_false, pure_bind, h.read p hps.2.1]
      refine ih hps.2.2 hlater hfields (fun g hg => ?_) (fun g hg hreq => ?_)
      · rw [List.mem_cons, not_or]
        exact ⟨fun heq => hnew (heq ▸ List.mem_map_of_mem hg),
          hopen g (List.mem_cons_of_mem _ hg)⟩
      · rcases hrequired g hg hreq with hgiven | hleft
        · exact .inl (List.mem_cons_of_mem _ hgiven)
        · rcases List.mem_cons.1 hleft with rfl | hleft
          · exact .inl List.mem_cons_self
          · exact .inr hleft
  | @leftOut f fields _ _ _ h _ ih =>
    obtain ⟨-, hlater⟩ := List.forall_mem_cons.1 hsub
    refine ih hps hlater (List.nodup_cons.1 hfields).2
      (fun g hg => hopen g (List.mem_cons_of_mem _ hg)) (fun g hg hreq => ?_)
    rcases hrequired g hg hreq with hgiven | hleft
    · exact .inl hgiven
    · rcases List.mem_cons.1 hleft with rfl | hleft
      · rw [h] at hreq
        cases hreq
      · exact .inr hleft

end Record

namespace Decoder

/-- A record whose fields have different names is read from entries that fill them. -/
theorem reads_record {ρ : Type} {start x : ρ} {fields : List (Field ρ)}
    {es : List (String × Tree)} (h : Record.Fills fields start es x)
    (hnames : (fields.map Field.name).Nodup) : (record start fields).Reads (.map es) x where
  readable := h.readable
  read p hp := by
    obtain ⟨-, ps, -, hparts, -, hps⟩ := hp
    rw [record, hparts, pure_bind]
    exact Record.readEntries_of_fills h hnames hps (fun _ hf => hf) hnames
      (fun _ _ => List.not_mem_nil) (fun _ hf _ => .inr hf)

/-! ## Records that name their alternative -/

/-- After the name of the alternative, what is left is kept. -/
theorem splitEntries_kept {key : String} {id : Identifier} {es : List (String × Tree)}
    {vs : List (Value × Value)} {ps : List (Place × Place)} (hps : Place.SaysEntries ps es)
    (hkeys : ∀ e ∈ es, e.1 ≠ key) (hvs : Tree.toValueEntries? es = some vs)
    (kept : List (Value × Value)) :
    splitEntries key (some id) kept ps = pure (id, .map (kept.reverse ++ vs)) := by
  induction es generalizing vs ps kept with
  | nil =>
    cases ps with
    | cons => cases hps
    | nil =>
      cases hvs
      rw [splitEntries, List.append_nil]
  | cons e rest ih =>
    obtain ⟨name, t⟩ := e
    obtain ⟨hname, hlater⟩ := List.forall_mem_cons.1 hkeys
    cases ps with
    | nil => cases hps
    | cons q ps =>
      obtain ⟨k, p⟩ := q
      rw [Tree.toValueEntries?] at hvs
      obtain ⟨v, hv, hvs⟩ := Option.bind_eq_some_iff.1 hvs
      obtain ⟨vs', hrest, hvs⟩ := Option.bind_eq_some_iff.1 hvs
      cases hvs
      obtain ⟨_, hv', hread⟩ := hps.2.1.value
      cases hv'.symm.trans hv
      rw [splitEntries, hps.1.value, pure_bind]
      simp only [if_neg hname, hread, pure_bind]
      rw [ih hps.2.2 hlater hrest, List.reverse_cons, List.append_assoc]
      rfl

/-- A record that names its alternative first is read as that alternative from its other
entries. -/
theorem reads_tagged {α : Type} {key name : String} {named : List (String × Decoder α)}
    {d : Decoder α} {es : List (String × Tree)} {a : α} (hname : named.lookup name = some d)
    (hkeys : ∀ e ∈ es, e.1 ≠ key) (h : d.Reads (.map es) a) :
    (tagged key named).Reads (.map ((key, .text name) :: es)) a where
  readable := by
    rw [Tree.isReadable, Tree.entriesAreReadable]
    exact h.readable
  read p hp := by
    obtain ⟨-, ps, -, -, hparts, hps⟩ := hp
    cases ps with
    | nil => cases hps
    | cons q ps =>
      obtain ⟨k, p⟩ := q
      obtain ⟨hkey, htag, hrest⟩ := hps
      obtain ⟨v, hv⟩ := Tree.exists_toValue? (.map es) h.readable
      obtain ⟨vs, hvs, rfl⟩ := Option.map_eq_some_iff.1 hv
      have hsplit : splitEntries key none [] ((k, p) :: ps) =
          pure (.name name, .map vs) := by
        rw [splitEntries, hkey.value, pure_bind]
        simp only [if_true, Option.isSome_none, Bool.false_eq_true, if_false, pure_bind,
          htag.2.identifier]
        exact splitEntries_kept hrest hkeys hvs []
      rw [tagged, splitRecord, hparts, pure_bind]
      simp only [hsplit, pure_bind]
      have hfound : (Identifier.name name).find? named = some d := hname
      rw [hfound]
      exact h.read _ (Place.says_kept (.map es) hv)

end Decoder
end DevnetChaos
