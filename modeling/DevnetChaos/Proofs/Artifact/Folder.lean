import DevnetChaos.Artifact.Folder
import DevnetChaos.Proofs.TextMap

/-!
# What stands in a folder

What is found at a path after a file was written or renamed, and after folders were made.

Main definitions:

- `Folder.Within`: a folder in which nothing stands below a path.

Main results:

- `FilePath.toText_concat`: the text of a path with one more name.
- `Folder.at?_put`, `Folder.at?_put_of_ne`, `Folder.rename_eq_ok`: files that are written and
  renamed.
- `Folder.at?_makeFolders`, `Folder.within_makeFolders`: folders that are made.
-/

namespace DevnetChaos

/-! ## Texts of paths -/

namespace FilePath

/-- One more name stands behind a slash. -/
theorem toText_concat {names : List String} (h : names ≠ []) (name : String) :
    (along (names ++ [name])).toText = (along names).toText ++ "/" ++ name := by
  change "/".intercalate (names ++ [name]) = "/".intercalate names ++ "/" ++ name
  rw [String.intercalate_append_of_ne_nil h (List.cons_ne_nil name []),
    String.intercalate_singleton]

/-- Paths in one folder have one text only if they end in one name. -/
theorem toText_concat_inj (names : List String) {x y : String}
    (h : (along (names ++ [x])).toText = (along (names ++ [y])).toText) : x = y := by
  cases names with
  | nil => simpa [toText, along] using h
  | cons first rest =>
    have hne := List.cons_ne_nil first rest
    rw [toText_concat hne, toText_concat hne] at h
    exact (String.append_right_inj _).1 h

/-- Further down the text of a path is longer. -/
theorem toText_length_lt {names : List String} (h : names ≠ []) (name : String) :
    (along names).toText.length < (along (names ++ [name])).toText.length := by
  rw [toText_concat h, String.length_append, String.length_append]
  have hslash : "/".length = 1 := rfl
  omega

/-- A path does not lead upward if its last name does not. -/
theorem isUpward_concat (names : List String) {name : String} (h : name ≠ above) :
    (along (names ++ [name])).isUpward = false := by
  simp [isUpward, along, h]

/-- What leads upwards only has proper names. -/
theorem isName_of_isUpward {p : FilePath} (h : p.isUpward = true) :
    ∀ name ∈ p.names, isName name = true := by
  intro name hname
  have habove : name = above := by simpa using List.all_eq_true.1 h name hname
  rw [habove]
  decide

/-- One name less leads to the folder above. -/
@[simp] theorem parent_concat (names : List String) (name : String) :
    (along (names ++ [name])).parent = along names := by
  simp [parent, along]

end FilePath

namespace Folder

variable {f : Folder} {p q : FilePath}

/-! ## Files -/

/-- Where something other than a folder is found, the path does not lead upward. -/
theorem isUpward_of_at?_ne (h : f.at? p ≠ some .folder) : p.isUpward = false := by
  unfold at? at h
  split at h
  · exact absurd rfl h
  · next hup => exact Bool.eq_false_iff.2 hup

/-- A file that can be held stands at its path when it is written. -/
theorem at?_put (h : f.canHoldFile p = true) (text : String) :
    (f.put p text).at? p = some (.file text) := by
  simp only [canHoldFile, FilePath.canBeFile, Bool.and_eq_true, bne_iff_ne, ne_eq,
    Bool.not_eq_true'] at h
  simp [at?, put, isUpward_of_at?_ne h.2, h.1.1.1.1, TextMap.get?_insert]

/-- Everything else is as it was. -/
theorem at?_put_of_ne (hne : q.toText ≠ p.toText) (text : String) :
    (f.put p text).at? q = f.at? q := by
  simp [at?, put, TextMap.get?_insert, hne]

/-- What was taken out is not found. -/
theorem at?_erase (hup : p.isUpward = false) : at? ⟨f.entries.erase p.toText⟩ p = none := by
  simp [at?, hup, TextMap.get?_erase]

/-- What was not taken out is found as before. -/
theorem at?_erase_of_ne (hne : q.toText ≠ p.toText) :
    at? ⟨f.entries.erase p.toText⟩ q = f.at? q := by
  simp [at?, TextMap.get?_erase, hne]

/-- A file that is renamed stands at its new path and not at its old one. -/
theorem rename_eq_ok {source target : FilePath} {text : String}
    (hsource : f.at? source = some (.file text)) (htarget : f.canHoldFile target = true)
    (hne : target.toText ≠ source.toText) :
    ∃ f', f.rename source target = .ok f' ∧ f'.at? target = some (.file text) ∧
      f'.at? source = none ∧
      ∀ q : FilePath, q.toText ≠ source.toText → q.toText ≠ target.toText → f'.at? q = f.at? q := by
  have hup : source.isUpward = false := isUpward_of_at?_ne (by rw [hsource]; simp)
  refine ⟨put ⟨f.entries.erase source.toText⟩ target text, ?_, ?_, ?_, ?_⟩
  · rw [rename, hsource]
    simp only [htarget, if_true]
  · simp only [canHoldFile, FilePath.canBeFile, Bool.and_eq_true, bne_iff_ne, ne_eq,
      Bool.not_eq_true'] at htarget
    simp [at?, put, isUpward_of_at?_ne htarget.2, htarget.1.1.1.1, TextMap.get?_insert]
  · rw [at?_put_of_ne hne.symm, at?_erase hup]
  · intro q hqs hqt
    rw [at?_put_of_ne hqt, at?_erase_of_ne hqs]

/-- A folder is as it was when only something below it has changed. -/
theorem at?_along_eq {f' : Folder} {names : List String}
    (h : (∀ name, (FilePath.along names).toText ≠ (FilePath.along (names ++ [name])).toText) →
      f'.at? (.along names) = f.at? (.along names)) :
    f'.at? (.along names) = f.at? (.along names) := by
  cases names with
  | nil => rfl
  | cons first rest =>
    refine h fun name heq => ?_
    have hlt := FilePath.toText_length_lt (List.cons_ne_nil first rest) name
    rw [← heq] at hlt
    exact absurd hlt (Nat.lt_irrefl _)

/-- Whether a path can only lead to a folder does not matter where a folder stands. -/
theorem at?_eq_folder_iff : f.at? p = some .folder ↔ f.at? (.along p.names) = some .folder := by
  have htext : (FilePath.along p.names).toText = p.toText := rfl
  have hup : (FilePath.along p.names).isUpward = p.isUpward := rfl
  unfold at?
  rw [htext, hup]
  split
  · simp
  · cases f.entries.get? p.toText with
    | none => simp
    | some entry => cases entry <;> simp [FilePath.along]

/-! ## Folders -/

/-- A folder that was put in is found. -/
theorem at?_insertFolder (hup : p.isUpward = false) :
    at? ⟨f.entries.insert p.toText .folder⟩ p = some .folder := by
  simp [at?, hup, TextMap.get?_insert]

/-- Where folders were made there are folders. -/
theorem at?_makeFolders {f' : Folder} {above names : List String}
    (habove : f.at? (.along above) = some .folder) (h : f.makeFolders above names = .ok f') :
    f'.at? (.along (above ++ names)) = some .folder := by
  induction names generalizing f above with
  | nil =>
    cases h
    rwa [List.append_nil]
  | cons name rest ih =>
    rw [← List.singleton_append, ← List.append_assoc]
    rw [makeFolders] at h
    split at h
    · cases h
    · next hfolder => exact ih hfolder h
    · next hnone =>
      split at h
      · exact ih (at?_insertFolder (isUpward_of_at?_ne (by rw [hnone]; simp))) h
      · cases h

/-- The texts of all entries are at most as long as that of a path. -/
def Within (f : Folder) (names : List String) : Prop :=
  ∀ key e, f.entries.get? key = some e →
    names ≠ [] ∧ key.length ≤ (FilePath.along names).toText.length

/-- Where the texts of all entries are shorter, nothing stands but what is above. -/
theorem Within.isUpward {names : List String} (h : f.Within names) {name : String}
    {e : FolderEntry} (he : f.at? (.along (names ++ [name])) = some e) :
    (FilePath.along (names ++ [name])).isUpward = true := by
  unfold at? at he
  split at he
  · assumption
  · cases hentry : f.entries.get? (FilePath.along (names ++ [name])).toText with
    | none =>
      rw [hentry] at he
      cases he
    | some entry =>
      obtain ⟨hne, hle⟩ := h _ _ hentry
      have hlt := FilePath.toText_length_lt hne name
      omega

/-- What lies within a folder may lie further down. -/
theorem Within.concat {names : List String} (h : f.Within names) (name : String) :
    f.Within (names ++ [name]) := by
  intro key e he
  obtain ⟨hne, hle⟩ := h key e he
  have hlt := FilePath.toText_length_lt hne name
  exact ⟨by simp, by omega⟩

theorem within_empty (names : List String) : Folder.empty.Within names := by
  intro key e he
  cases he

/-- In an empty folder stands only what is above. -/
theorem at?_empty (p : FilePath) :
    Folder.empty.at? p = if p.isUpward then some .folder else none := rfl

/-- Folders that are made have proper names if they did not exist, and nothing else is made. -/
theorem within_makeFolders {f' : Folder} {above names : List String} (hwithin : f.Within above)
    (h : f.makeFolders above names = .ok f') :
    (∀ name ∈ names, FilePath.isName name = true) ∧ f'.Within (above ++ names) := by
  induction names generalizing f above with
  | nil =>
    cases h
    rw [List.append_nil]
    exact ⟨fun _ hname => absurd hname List.not_mem_nil, hwithin⟩
  | cons name rest ih =>
    rw [← List.singleton_append, ← List.append_assoc]
    rw [makeFolders] at h
    split at h
    · cases h
    · next hfolder =>
      have hname := FilePath.isName_of_isUpward (hwithin.isUpward hfolder) name
        (by simp [FilePath.along])
      obtain ⟨hrest, hwithin'⟩ := ih (hwithin.concat name) h
      exact ⟨List.forall_mem_cons.2 ⟨hname, hrest⟩, hwithin'⟩
    · split at h
      · next hname =>
        have hmade : Within ⟨f.entries.insert (FilePath.along (above ++ [name])).toText .folder⟩
            (above ++ [name]) := by
          intro key e he
          rw [TextMap.get?_insert] at he
          split at he
          · next hkey => exact ⟨by simp, hkey ▸ Nat.le_refl _⟩
          · exact hwithin.concat name key e he
        obtain ⟨hrest, hwithin'⟩ := ih hmade h
        exact ⟨List.forall_mem_cons.2 ⟨hname, hrest⟩, hwithin'⟩
      · cases h

end Folder
end DevnetChaos
