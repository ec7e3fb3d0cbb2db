import DevnetChaos.Artifact.Store
import DevnetChaos.Proofs.Artifact.Folder
import DevnetChaos.Proofs.Results
import DevnetChaos.Proofs.Schema.Artifact

/-!
# What a store of artifacts keeps

Artifacts are persisted, loaded and the store is opened again, in any order, and any attempt to
persist may go wrong.  A load gives what was persisted last without a mishap, and where nothing goes
wrong a file keeps what the memory keeps.

Main definitions:

- `ArtifactStep`, `ArtifactAnswer`: what is done with a store, and what it answers.
- `ArtifactFile.takeAll`, `ArtifactMemory.takeAll`: the history of a store.
- `keptAfter`: the artifacts that a history persisted last.
- `ArtifactFile.Keeps`: what stands in the folder of a store that keeps artifacts.
- `LoadsLast`: a history in which every step is answered by what was persisted last.

Main results:

- `Keeps.persist`, `Keeps.persistUnder`, `Keeps.load`, `Keeps.openIn`, `Keeps.take`: one step.
- `Keeps.takeAll`, `Keeps.takeAll_goesWell`: any number of steps.
- `ArtifactFile.takeAll_loadsLast`: a store that was opened in an empty folder.
-/

namespace DevnetChaos

/-! ## Steps -/

/-- Something that is done with a store of artifacts. -/
inductive ArtifactStep where
  | persist (mishap : PersistMishap) (artifacts : List Artifact)
  | load
  /-- The store is opened again. -/
  | reopen
  deriving DecidableEq, Repr

/-- Whether nothing goes wrong in a step. -/
def ArtifactStep.goesWell : ArtifactStep → Bool
  | .persist mishap _ => mishap = .none
  | .load | .reopen => true

/-- What a store answers. -/
inductive ArtifactAnswer where
  | done (result : Except Failure Unit)
  | loaded (result : Input (List Artifact))

/-- What was done and answered, in order. -/
abbrev ArtifactHistory := List (ArtifactStep × ArtifactAnswer)

namespace ArtifactFile

/-- One step with a store in a folder. -/
def take (dir : FilePath) (a : ArtifactFile) (f : Folder) :
    ArtifactStep → ArtifactAnswer × ArtifactFile × Folder
  | .persist mishap artifacts =>
      let (result, f) := a.persistUnder mishap artifacts f
      (.done result, a, f)
  | .load => (.loaded (a.load f), a, f)
  | .reopen =>
      match openIn dir f with
      | .ok (a, f) => (.done (.ok ()), a, f)
      | .error failure => (.done (.error failure), a, f)

/-- The history of a store over some steps, and the folder in the end. -/
def takeAll (dir : FilePath) :
    ArtifactFile → Folder → List ArtifactStep → ArtifactHistory × ArtifactFile × Folder
  | a, f, [] => ([], a, f)
  | a, f, step :: rest =>
      let (answer, a, f) := a.take dir f step
      let (history, last) := takeAll dir a f rest
      ((step, answer) :: history, last)

end ArtifactFile

namespace ArtifactMemory

/-- One step with a store in memory, in which nothing goes wrong. -/
def take (m : ArtifactMemory) : ArtifactStep → ArtifactAnswer × ArtifactMemory
  | .persist _ artifacts => (.done (.ok ()), m.persist artifacts)
  | .load => (.loaded (.ok m.artifacts), m)
  | .reopen => (.done (.ok ()), m)

/-- The history of a store in memory over some steps. -/
def takeAll : ArtifactMemory → List ArtifactStep → ArtifactHistory
  | _, [] => []
  | m, step :: rest => (step, (m.take step).1) :: takeAll (m.take step).2 rest

end ArtifactMemory

/-- The artifacts that were persisted last, after those that were kept before a history. -/
def keptAfter (kept : List Artifact) : ArtifactHistory → List Artifact
  | [] => kept
  | (.persist _ artifacts, .done (.ok ())) :: rest => keptAfter artifacts rest
  | _ :: rest => keptAfter kept rest

/-! ## The files of a store -/

namespace ArtifactFile

variable {names : List String} {f : Folder} {kept : List Artifact}

theorem temporary_within (names : List String) :
    (within names).temporary = .along (names ++ ["test-artifacts.tmp"]) := by
  have hname : FilePath.nameWithExtension "tmp" "test-artifacts.json" = "test-artifacts.tmp" := by
    decide +kernel
  simp [temporary, within, standard, FilePath.withExtension, FilePath.along, hname]

/-- What stands in the folder of a store that keeps artifacts: the file with them, or no file as
long as there are none, and perhaps a temporary file. -/
structure Keeps (names : List String) (f : Folder) (kept : List Artifact) : Prop where
  areNames : ∀ name ∈ names, FilePath.isName name = true
  folder : f.at? (.along names) = some .folder
  file : f.at? (within names).path = none ∧ kept = [] ∨
    f.at? (within names).path = some (.file (textOf kept))
  temporary : f.at? (within names).temporary ≠ some .folder

/-- A file with a proper name can be held by a folder in whose place no folder stands. -/
theorem canHoldFile_along (hnames : ∀ name ∈ names, FilePath.isName name = true)
    (hfolder : f.at? (.along names) = some .folder) {name : String}
    (hname : FilePath.isName name = true) (habove : name ≠ FilePath.above)
    (hfree : f.at? (.along (names ++ [name])) ≠ some .folder) :
    f.canHoldFile (.along (names ++ [name])) = true := by
  have hall : (names ++ [name]).all FilePath.isName = true := by
    rw [List.all_eq_true]
    simpa [or_imp, forall_and, hname] using hnames
  have hlast : (FilePath.along (names ++ [name])).canBeFile = true := by
    simp [FilePath.canBeFile, FilePath.along, hall, habove]
  simp [Folder.canHoldFile, hlast, hfolder, hfree]

/-- The two files of a store have different texts. -/
theorem path_ne_temporary (names : List String) :
    (within names).path.toText ≠ (within names).temporary.toText := by
  rw [temporary_within]
  intro h
  exact absurd (FilePath.toText_concat_inj names h) (by decide)

namespace Keeps

theorem canWrite (h : Keeps names f kept) : f.canHoldFile (within names).temporary = true := by
  have hfree := h.temporary
  rw [temporary_within] at hfree ⊢
  exact canHoldFile_along h.areNames h.folder (by decide) (by decide) hfree

theorem canReplace (h : Keeps names f kept) : f.canHoldFile (within names).path = true := by
  refine canHoldFile_along h.areNames h.folder (by decide) (by decide) fun hfolder => ?_
  rcases h.file with ⟨hnone, -⟩ | hfile
  · cases hnone.symm.trans hfolder
  · cases hfile.symm.trans hfolder

/-- The temporary file may hold anything. -/
theorem putTemporary (h : Keeps names f kept) (text : String) :
    Keeps names (f.put (within names).temporary text) kept where
  areNames := h.areNames
  folder := by
    rw [temporary_within, ← h.folder]
    exact Folder.at?_along_eq fun hne => Folder.at?_put_of_ne (hne _) text
  file := by
    rw [Folder.at?_put_of_ne (path_ne_temporary names)]
    exact h.file
  temporary := by
    rw [Folder.at?_put h.canWrite]
    simp

/-- The temporary file takes the place of the file. -/
theorem replace (h : Keeps names f kept) {artifacts : List Artifact}
    (htemporary : f.at? (within names).temporary = some (.file (textOf artifacts))) :
    ∃ f', (within names).replace f = (.ok (), f') ∧ Keeps names f' artifacts ∧
      f'.at? (within names).temporary = none := by
  obtain ⟨f', hrename, hfile, hnone, hothers⟩ :=
    Folder.rename_eq_ok htemporary h.canReplace (path_ne_temporary names)
  refine ⟨f', by rw [ArtifactFile.replace, hrename], ⟨h.areNames, ?_, .inr hfile, ?_⟩, hnone⟩
  · rw [← h.folder]
    refine Folder.at?_along_eq fun hne => hothers _ ?_ (hne _)
    rw [temporary_within]
    exact hne _
  · rw [hnone]
    simp

/-! ## One step -/

/-- Without a mishap artifacts are persisted, and no temporary file is left. -/
theorem persist (h : Keeps names f kept) (artifacts : List Artifact) :
    ∃ f', (within names).persistUnder .none artifacts f = (.ok (), f') ∧ Keeps names f' artifacts ∧
      f'.at? (within names).temporary = none := by
  obtain ⟨f', hreplace, hkeeps, hnone⟩ :=
    (h.putTemporary (textOf artifacts)).replace (Folder.at?_put h.canWrite _)
  refine ⟨f', ?_, hkeeps, hnone⟩
  simp [persistUnder, Folder.write, h.canWrite, hreplace]

/-- With a mishap nothing is persisted, and what was persisted before is kept. -/
theorem persistUnder (h : Keeps names f kept) {mishap : PersistMishap} (hmishap : mishap ≠ .none)
    (artifacts : List Artifact) :
    ∃ f', (within names).persistUnder mishap artifacts f = (.error .fileAccess, f') ∧
      Keeps names f' kept := by
  cases mishap with
  | none => exact absurd rfl hmishap
  | writeFails leftover =>
    cases leftover with
    | none => exact ⟨f, rfl, h⟩
    | some leftover => exact ⟨_, rfl, h.putTemporary leftover⟩
  | renameFails =>
    refine ⟨_, ?_, h.putTemporary (textOf artifacts)⟩
    simp [ArtifactFile.persistUnder, Folder.write, h.canWrite]

/-- What is kept is loaded. -/
theorem load (h : Keeps names f kept) : (within names).load f = .ok kept := by
  rcases h.file with ⟨hnone, rfl⟩ | hfile
  · rw [ArtifactFile.load, hnone]
  · rw [ArtifactFile.load, hfile]
    exact Artifact.ofJson_pretty kept

/-- The store may be opened again. -/
theorem openIn {dir : FilePath} (h : Keeps dir.names f kept) :
    openIn dir f = .ok (within dir.names, f) := by
  rw [ArtifactFile.openIn, Folder.at?_eq_folder_iff.2 h.folder]
  rfl

end Keeps
end ArtifactFile

/-! ## Histories -/

theorem keptAfter_cons (kept : List Artifact) (x : ArtifactStep × ArtifactAnswer)
    (rest : ArtifactHistory) :
    keptAfter kept (x :: rest) = keptAfter (keptAfter kept [x]) rest := by
  rw [keptAfter.eq_def]
  split
  · next h => cases h
  · next h =>
    cases h
    rfl
  · next hother h =>
    cases h
    rw [keptAfter.eq_def kept [x]]
    split
    · next h => cases h
    · next h => cases h; exact absurd rfl (hother _ _)
    · next h => cases h; rfl

/-- What a store that keeps artifacts answers to a step: it loads them, and it persists others
unless something goes wrong. -/
def Answers (kept : List Artifact) : ArtifactStep → ArtifactAnswer → Prop
  | .load, answer => answer = .loaded (.ok kept)
  | .persist mishap _, answer => answer = .done (.ok ()) ↔ mishap = .none
  | .reopen, answer => answer = .done (.ok ())

/-- A history in which every step is answered by what was persisted last. -/
def LoadsLast (kept : List Artifact) (history : ArtifactHistory) : Prop :=
  ∀ before step answer after, history = before ++ (step, answer) :: after →
    Answers (keptAfter kept before) step answer

theorem LoadsLast.cons {kept : List Artifact} {x : ArtifactStep × ArtifactAnswer}
    {history : ArtifactHistory} (hx : Answers kept x.1 x.2)
    (h : LoadsLast (keptAfter kept [x]) history) : LoadsLast kept (x :: history) := by
  intro before step answer after hsplit
  cases before with
  | nil =>
    cases hsplit
    exact hx
  | cons first before =>
    rw [List.cons_append, List.cons.injEq] at hsplit
    obtain ⟨rfl, hsplit⟩ := hsplit
    rw [keptAfter_cons]
    exact h before step answer after hsplit

namespace ArtifactFile

variable {dir : FilePath} {f : Folder} {kept : List Artifact}

/-- A step is answered by what is kept, and afterwards the store keeps what was persisted last. -/
theorem Keeps.take (h : Keeps dir.names f kept) (step : ArtifactStep) :
    ∃ answer f', (within dir.names).take dir f step = (answer, within dir.names, f') ∧
      Answers kept step answer ∧ Keeps dir.names f' (keptAfter kept [(step, answer)]) := by
  cases step with
  | load => exact ⟨_, f, rfl, congrArg _ h.load, h⟩
  | reopen =>
    refine ⟨.done (.ok ()), f, ?_, rfl, h⟩
    rw [ArtifactFile.take, h.openIn]
  | persist mishap artifacts =>
    by_cases hmishap : mishap = .none
    · subst hmishap
      obtain ⟨f', hpersist, hkeeps, -⟩ := h.persist artifacts
      refine ⟨.done (.ok ()), f', ?_, by simp [Answers], hkeeps⟩
      rw [ArtifactFile.take, hpersist]
    · obtain ⟨f', hpersist, hkeeps⟩ := h.persistUnder hmishap artifacts
      refine ⟨.done (.error .fileAccess), f', ?_, by simp [Answers, hmishap], hkeeps⟩
      rw [ArtifactFile.take, hpersist]

/-- Every step is answered by what was persisted last, over any number of steps. -/
theorem Keeps.takeAll (h : Keeps dir.names f kept) (steps : List ArtifactStep) :
    LoadsLast kept ((within dir.names).takeAll dir f steps).1 := by
  induction steps generalizing f kept with
  | nil =>
    intro before step answer after hsplit
    cases before <;> cases hsplit
  | cons step rest ih =>
    obtain ⟨answer, f', htake, hanswer, hkeeps⟩ := h.take step
    rw [ArtifactFile.takeAll, htake]
    exact .cons hanswer (ih hkeeps)

/-- Where nothing goes wrong the answer is that of a store in memory, and no temporary file is
left. -/
theorem Keeps.take_goesWell {m : ArtifactMemory} (h : Keeps dir.names f m.artifacts)
    (hnone : f.at? (within dir.names).temporary = none) {step : ArtifactStep}
    (hstep : step.goesWell = true) :
    ∃ f', (within dir.names).take dir f step = ((m.take step).1, within dir.names, f') ∧
      Keeps dir.names f' (m.take step).2.artifacts ∧
      f'.at? (within dir.names).temporary = none := by
  cases step with
  | load => exact ⟨f, by rw [ArtifactFile.take, h.load]; rfl, h, hnone⟩
  | reopen => exact ⟨f, by rw [ArtifactFile.take, h.openIn]; rfl, h, hnone⟩
  | persist mishap artifacts =>
    obtain rfl : mishap = .none := by simpa [ArtifactStep.goesWell] using hstep
    obtain ⟨f', hpersist, hkeeps, hnone'⟩ := h.persist artifacts
    exact ⟨f', by rw [ArtifactFile.take, hpersist]; rfl, hkeeps, hnone'⟩

/-- Over any number of steps as well. -/
theorem Keeps.takeAll_goesWell {m : ArtifactMemory} (h : Keeps dir.names f m.artifacts)
    (hnone : f.at? (within dir.names).temporary = none) {steps : List ArtifactStep}
    (hsteps : ∀ step ∈ steps, step.goesWell = true) :
    ((within dir.names).takeAll dir f steps).1 = m.takeAll steps ∧
      ((within dir.names).takeAll dir f steps).2.2.at? (within dir.names).temporary = none := by
  induction steps generalizing f m with
  | nil => exact ⟨rfl, hnone⟩
  | cons step rest ih =>
    obtain ⟨hstep, hrest⟩ := List.forall_mem_cons.1 hsteps
    obtain ⟨f', htake, hkeeps, hnone'⟩ := h.take_goesWell hnone hstep
    obtain ⟨hhistory, hlast⟩ := ih hkeeps hnone' hrest
    rw [ArtifactFile.takeAll, htake]
    exact ⟨congrArg _ hhistory, hlast⟩

/-! ## A store in an empty folder -/

/-- A store that is opened in an empty folder keeps nothing yet. -/
theorem openIn_empty {a : ArtifactFile} (h : openIn dir .empty = .ok (a, f)) :
    a = within dir.names ∧ Keeps dir.names f [] ∧ f.at? (within dir.names).temporary = none := by
  have hopened : a = within dir.names ∧ (∀ name ∈ dir.names, FilePath.isName name = true) ∧
      f.at? (.along dir.names) = some .folder ∧ f.Within dir.names := by
    rw [openIn] at h
    cases hdir : Folder.empty.at? dir with
    | some e =>
      rw [hdir] at h
      cases h
      rw [Folder.at?_empty] at hdir
      split at hdir
      · next hup =>
        exact ⟨rfl, FilePath.isName_of_isUpward hup, if_pos hup, Folder.within_empty _⟩
      · cases hdir
    | none =>
      rw [hdir] at h
      obtain ⟨made, hmade, hopen⟩ := bind_eq_ok.1 h
      cases hopen
      obtain ⟨hnames, hwithin⟩ := Folder.within_makeFolders (Folder.within_empty []) hmade
      exact ⟨rfl, hnames, Folder.at?_makeFolders rfl hmade, hwithin⟩
  obtain ⟨rfl, hnames, hfolder, hwithin⟩ := hopened
  have hnothing {name : String} (hname : name ≠ FilePath.above) :
      f.at? (.along (dir.names ++ [name])) = none := by
    cases hentry : f.at? (.along (dir.names ++ [name])) with
    | none => rfl
    | some e =>
      have hup := hwithin.isUpward hentry
      rw [FilePath.isUpward_concat dir.names hname] at hup
      cases hup
  have hnone : f.at? (within dir.names).temporary = none := by
    rw [temporary_within]
    exact hnothing (by decide)
  exact ⟨rfl, ⟨hnames, hfolder, .inl ⟨hnothing (by decide), rfl⟩, by rw [hnone]; simp⟩, hnone⟩

/-- A store that was opened in an empty folder always loads what was persisted last without a
mishap, whatever went wrong before, after and in between.  Where nothing goes wrong it answers like
a store in memory, and leaves no temporary file. -/
theorem takeAll_loadsLast {a : ArtifactFile} (h : openIn dir .empty = .ok (a, f))
    (steps : List ArtifactStep) :
    LoadsLast [] (a.takeAll dir f steps).1 ∧
      ((∀ step ∈ steps, step.goesWell = true) →
        (a.takeAll dir f steps).1 = ArtifactMemory.empty.takeAll steps ∧
          (a.takeAll dir f steps).2.2.at? a.temporary = none) := by
  obtain ⟨rfl, hkeeps, hnone⟩ := openIn_empty h
  exact ⟨hkeeps.takeAll steps,
    Keeps.takeAll_goesWell (m := ArtifactMemory.empty) hkeeps hnone⟩

/-- In a folder that is made for it, a store keeps an artifact over two attempts to persist none
that go wrong. -/
theorem takeAll_loadsLast_mishaps :
    ∃ a f, openIn (.along ["runs", "today"]) .empty = .ok (a, f) ∧
      LoadsLast [] (a.takeAll (.along ["runs", "today"]) f
        [.load, .persist .none [⟨"restart", true, [], []⟩], .persist (.writeFails (some "[")) [],
          .reopen, .persist .renameFails [], .load, .persist .none [], .load]).1 ∧
      (a.takeAll (.along ["runs", "today"]) f [.persist .none [], .reopen, .load]).1 =
        ArtifactMemory.empty.takeAll [.persist .none [], .reopen, .load] := by
  obtain ⟨a, f, hopen⟩ : ∃ a f, openIn (.along ["runs", "today"]) .empty = .ok (a, f) :=
    ⟨_, _, rfl⟩
  exact ⟨a, f, hopen, (takeAll_loadsLast hopen _).1,
    ((takeAll_loadsLast hopen _).2 (by decide)).1⟩

end ArtifactFile
end DevnetChaos
