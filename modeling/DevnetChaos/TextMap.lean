/-!
# Maps keyed by text

A finite map from texts to values, kept as the list of its entries in increasing order of their
keys.  Listings of such a map are therefore sorted, and two maps with the same entries are equal.

Main definitions:

- `TextMap`: the entries together with the proof that their keys increase.
- `insert`, `insertNew`, `erase`, `get?`: the operations.
- `ofList`: a later entry replaces an earlier one with the same key.

Main results:

- `get?_insert`: what is found after an insertion.
- `get?_erase`: what is found after an erasure.
-/

namespace DevnetChaos

variable {α : Type}

/-- A map from texts to values. -/
structure TextMap (α : Type) where
  entries : List (String × α)
  sorted : entries.Pairwise fun a b => a.1 < b.1

namespace TextMap

instance [DecidableEq α] : DecidableEq (TextMap α) := fun a b =>
  match decEq a.entries b.entries with
  | isTrue h => isTrue (by cases a; cases b; simp_all)
  | isFalse h => isFalse (fun e => h (congrArg entries e))

instance [Repr α] : Repr (TextMap α) := ⟨fun m n => reprPrec m.entries n⟩

/-- The map without entries. -/
def empty : TextMap α := ⟨[], .nil⟩

instance : EmptyCollection (TextMap α) := ⟨empty⟩
instance : Inhabited (TextMap α) := ⟨empty⟩

/-- The entries in increasing order of their keys. -/
def toList (m : TextMap α) : List (String × α) := m.entries

/-- The keys in increasing order. -/
def keys (m : TextMap α) : List String := m.entries.map Prod.fst

/-- The number of entries. -/
def size (m : TextMap α) : Nat := m.entries.length

/-- Whether there is no entry. -/
def isEmpty (m : TextMap α) : Bool := m.entries.isEmpty

/-! ## Operations on sorted entries -/

/-- Puts an entry at its place, in front of the first larger key or over an equal one. -/
def insertEntry (key : String) (value : α) : List (String × α) → List (String × α)
  | [] => [(key, value)]
  | (k, v) :: rest =>
      if key < k then (key, value) :: (k, v) :: rest
      else if key = k then (key, value) :: rest
      else (k, v) :: insertEntry key value rest

theorem mem_insertEntry {key : String} {value : α} {entries : List (String × α)}
    {e : String × α} (h : e ∈ insertEntry key value entries) : e = (key, value) ∨ e ∈ entries := by
  induction entries with
  | nil => simpa [insertEntry] using h
  | cons hd tl ih =>
    obtain ⟨k, v⟩ := hd
    rw [insertEntry] at h
    split at h
    · simpa using h
    · split at h
      · rcases List.mem_cons.1 h with h | h
        · exact .inl h
        · exact .inr (List.mem_cons_of_mem _ h)
      · rcases List.mem_cons.1 h with h | h
        · exact .inr (h ▸ List.mem_cons_self)
        · exact (ih h).imp id (List.mem_cons_of_mem _)

theorem insertEntry_sorted (key : String) (value : α) {entries : List (String × α)}
    (h : entries.Pairwise fun a b => a.1 < b.1) :
    (insertEntry key value entries).Pairwise fun a b => a.1 < b.1 := by
  induction entries with
  | nil => simp [insertEntry]
  | cons hd tl ih =>
    obtain ⟨k, v⟩ := hd
    obtain ⟨hk, ht⟩ := List.pairwise_cons.1 h
    rw [insertEntry]
    split
    · next hlt =>
      refine List.pairwise_cons.2 ⟨fun e he => ?_, h⟩
      rcases List.mem_cons.1 he with he | he
      · exact he ▸ hlt
      · exact String.lt_trans hlt (hk e he)
    · next hlt =>
      split
      · next heq => exact List.pairwise_cons.2 ⟨fun e he => heq ▸ hk e he, ht⟩
      · next hne =>
        refine List.pairwise_cons.2 ⟨fun e he => ?_, ih ht⟩
        rcases mem_insertEntry he with he | he
        · subst he
          refine Decidable.byContradiction fun h' => hne ?_
          exact String.le_antisymm (String.not_lt.1 h') (String.not_lt.1 hlt)
        · exact hk e he

/-! ## Operations -/

/-- The value at a key. -/
def get? (m : TextMap α) (key : String) : Option α := m.entries.lookup key

/-- Whether a key has a value. -/
def contains (m : TextMap α) (key : String) : Bool := (m.get? key).isSome

/-- Gives a key a value, in place of any value it had. -/
def insert (m : TextMap α) (key : String) (value : α) : TextMap α :=
  ⟨insertEntry key value m.entries, insertEntry_sorted key value m.sorted⟩

/-- Gives a key a value unless it has one. -/
def insertNew (m : TextMap α) (key : String) (value : α) : TextMap α :=
  if m.contains key then m else m.insert key value

/-- Takes a key out of the map. -/
def erase (m : TextMap α) (key : String) : TextMap α :=
  ⟨m.entries.filter fun e => e.1 != key, m.sorted.filter _⟩

/-- Changes every value. -/
def mapValues (f : String → α → α) (m : TextMap α) : TextMap α :=
  ⟨m.entries.map fun e => (e.1, f e.1 e.2), List.pairwise_map.2 m.sorted⟩

/-- The map of a list of entries; of two entries with one key the later counts. -/
def ofList (entries : List (String × α)) : TextMap α :=
  entries.foldl (fun m e => m.insert e.1 e.2) empty

/-! ## What is found after an operation -/

theorem lookup_cons_eq (k k' : String) (v : α) (entries : List (String × α)) :
    ((k', v) :: entries).lookup k = if k = k' then some v else entries.lookup k := by
  rw [List.lookup_cons]
  split <;> simp_all

theorem lookup_insertEntry (key k : String) (value : α) (entries : List (String × α)) :
    (insertEntry key value entries).lookup k =
      if k = key then some value else entries.lookup k := by
  induction entries with
  | nil => rw [insertEntry, lookup_cons_eq]
  | cons hd tl ih =>
    obtain ⟨k', v'⟩ := hd
    rw [insertEntry]
    split
    · rw [lookup_cons_eq]
    · split
      · next heq => subst heq; simp only [lookup_cons_eq]; split <;> rfl
      · next hne =>
        simp only [lookup_cons_eq, ih]
        by_cases h1 : k = k'
        · subst h1; simp [Ne.symm hne]
        · simp [h1]

/-- An insertion is found at its key and nowhere else. -/
theorem get?_insert (m : TextMap α) (key k : String) (value : α) :
    (m.insert key value).get? k = if k = key then some value else m.get? k :=
  lookup_insertEntry key k value m.entries

theorem lookup_filter_ne (key k : String) (entries : List (String × α)) :
    (entries.filter fun e => e.1 != key).lookup k =
      if k = key then none else entries.lookup k := by
  induction entries with
  | nil => simp
  | cons hd tl ih =>
    obtain ⟨k', v'⟩ := hd
    by_cases h1 : k' = key
    · subst h1
      rw [List.filter_cons_of_neg (by simp), ih, lookup_cons_eq]
      split <;> rfl
    · rw [List.filter_cons_of_pos (by simpa using h1), lookup_cons_eq, lookup_cons_eq, ih]
      by_cases h2 : k = k'
      · subst h2; simp [h1]
      · simp [h2]

/-- An erased key is not found, and every other key keeps its value. -/
theorem get?_erase (m : TextMap α) (key k : String) :
    (m.erase key).get? k = if k = key then none else m.get? k :=
  lookup_filter_ne key k m.entries

end TextMap
end DevnetChaos
