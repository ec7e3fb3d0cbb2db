import DevnetChaos.TextMap

/-!
# What maps keyed by text hold

The entries of such a map are exactly what is found in it, each key once.

Main results:

- `get?_eq_some_iff`: what is found at a key is an entry.
- `nodup_keys`: no key has two entries.
- `get?_insertNew`: what is found after an insertion that leaves values alone.
- `insertNew_of_contains`: such an insertion changes nothing where the key has a value.
- `get?_insertAll`: what is found after the insertion of entries with different keys.
- `ofList_entries`: a map is the map of its own entries.
- `get?_ofList`: what is found in the map of some entries.
-/

namespace DevnetChaos
namespace TextMap

variable {α : Type}

/-! ## Entries -/

/-- Where no key comes twice, what is found is an entry. -/
theorem lookup_eq_some_iff {entries : List (String × α)} {key : String} {value : α}
    (hkeys : (entries.map Prod.fst).Nodup) :
    entries.lookup key = some value ↔ (key, value) ∈ entries := by
  induction entries with
  | nil => simp
  | cons hd tl ih =>
    obtain ⟨k, v⟩ := hd
    simp only [List.map_cons, List.nodup_cons] at hkeys
    rw [lookup_cons_eq]
    by_cases heq : key = k
    · subst heq
      have hlater : (key, value) ∉ tl := fun hmem => hkeys.1 (List.mem_map_of_mem hmem)
      simp [hlater, eq_comm]
    · simp [heq, ih hkeys.2]

/-- No key has two entries. -/
theorem nodup_keys (m : TextMap α) : m.keys.Nodup :=
  List.pairwise_map.2 (m.sorted.imp fun h => String.ne_of_lt h)

/-- What is found at a key is an entry, and every entry is found. -/
theorem get?_eq_some_iff {m : TextMap α} {key : String} {value : α} :
    m.get? key = some value ↔ (key, value) ∈ m.entries :=
  lookup_eq_some_iff m.nodup_keys

/-- A key is listed exactly if something is found there. -/
theorem mem_keys {m : TextMap α} {key : String} : key ∈ m.keys ↔ ∃ v, m.get? key = some v := by
  simp [keys, get?_eq_some_iff]

@[simp] theorem get?_empty (key : String) : (empty : TextMap α).get? key = none := rfl

/-! ## Insertions that leave values alone -/

/-- An insertion that leaves values alone changes nothing where the key has a value. -/
theorem insertNew_of_contains {m : TextMap α} {key : String} (value : α)
    (h : m.contains key = true) : m.insertNew key value = m :=
  if_pos h

/-- An insertion that leaves values alone keeps a value that is there, and every other key. -/
theorem get?_insertNew (m : TextMap α) (key k : String) (value : α) :
    (m.insertNew key value).get? k =
      if k = key then some ((m.get? key).getD value) else m.get? k := by
  unfold insertNew contains
  cases h : m.get? key with
  | none => simp [get?_insert]
  | some old => by_cases hk : k = key <;> simp [hk, h]

theorem contains_insertNew (m : TextMap α) (key k : String) (value : α) :
    (m.insertNew key value).contains k = (k == key || m.contains k) := by
  unfold contains
  rw [get?_insertNew]
  by_cases hk : k = key <;> simp [hk]

/-! ## Insertion of several entries -/

/-- Puts entries into a map one after the other. -/
def insertAll (m : TextMap α) (entries : List (String × α)) : TextMap α :=
  entries.foldl (fun m e => m.insert e.1 e.2) m

theorem insertAll_append (m : TextMap α) (first later : List (String × α)) :
    m.insertAll (first ++ later) = (m.insertAll first).insertAll later :=
  List.foldl_append

/-- A key that is larger than all others is put at the end. -/
theorem insertEntry_eq_append {key : String} {entries : List (String × α)} (value : α)
    (h : ∀ e ∈ entries, e.1 < key) :
    insertEntry key value entries = entries ++ [(key, value)] := by
  induction entries with
  | nil => rfl
  | cons e rest ih =>
    obtain ⟨hkey, hrest⟩ := List.forall_mem_cons.1 h
    rw [insertEntry, if_neg (String.lt_asymm hkey), if_neg (Ne.symm (String.ne_of_lt hkey)),
      ih hrest, List.cons_append]

theorem entries_insertAll (m : TextMap α) {entries : List (String × α)}
    (h : (m.entries ++ entries).Pairwise fun a b => a.1 < b.1) :
    (m.insertAll entries).entries = m.entries ++ entries := by
  induction entries generalizing m with
  | nil => exact (List.append_nil _).symm
  | cons e rest ih =>
    have hlast : (m.insert e.1 e.2).entries = m.entries ++ [e] :=
      insertEntry_eq_append _ fun a ha =>
        (List.pairwise_append.1 h).2.2 a ha e List.mem_cons_self
    have hsplit : m.entries ++ [e] ++ rest = m.entries ++ e :: rest := List.append_cons .. |>.symm
    change ((m.insert e.1 e.2).insertAll rest).entries = _
    rw [ih _ (by rwa [hlast, hsplit]), hlast, hsplit]

/-- A map is the map of its own entries. -/
theorem ofList_entries (m : TextMap α) : ofList m.entries = m := by
  have h : (ofList m.entries).entries = m.entries := entries_insertAll empty m.sorted
  cases m
  rw [TextMap.mk.injEq]
  exact h

/-- Entries with different keys are all found afterwards, and every other key is as before. -/
theorem get?_insertAll (m : TextMap α) {entries : List (String × α)} (key : String)
    (hkeys : (entries.map Prod.fst).Nodup) :
    (m.insertAll entries).get? key = (entries.lookup key).or (m.get? key) := by
  induction entries generalizing m with
  | nil => rfl
  | cons e rest ih =>
    obtain ⟨k, v⟩ := e
    simp only [List.map_cons, List.nodup_cons] at hkeys
    have hstep : m.insertAll ((k, v) :: rest) = (m.insert k v).insertAll rest := rfl
    rw [hstep, ih _ hkeys.2, get?_insert, lookup_cons_eq]
    by_cases hk : key = k
    · -- The key of this entry does not come again.
      subst hk
      have hnone : rest.lookup key = none := by
        rw [List.lookup_eq_none_iff]
        intro p hp
        have hne : p.1 ≠ key := fun h => hkeys.1 (h ▸ List.mem_map_of_mem hp)
        simpa using Ne.symm hne
      simp [hnone]
    · simp [hk]

/-- Of the entries with one key the last is found. -/
theorem get?_ofList (entries : List (String × α)) (key : String) :
    (ofList entries).get? key = entries.reverse.lookup key := by
  have hfold : ofList entries = entries.reverse.foldr (fun e m => m.insert e.1 e.2) empty :=
    List.foldr_reverse.symm
  rw [hfold]
  generalize entries.reverse = later
  induction later with
  | nil => rfl
  | cons e rest ih => rw [List.foldr_cons, get?_insert, lookup_cons_eq, ih]

end TextMap
end DevnetChaos
