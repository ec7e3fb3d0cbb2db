import DevnetChaos.Artifact.Folder
import DevnetChaos.Document.Json.Writer
import DevnetChaos.Document.Source
import DevnetChaos.Schema.Suite

/-!
# Stores of artifacts

A store keeps the artifacts that were persisted last.  One kind of store keeps them in memory, the
other in a file of a folder.  The file is replaced in one step by a temporary file that was written
before, so a failure on the way leaves the artifacts that were persisted before it.

Main definitions:

- `ArtifactMemory`: artifacts in memory.
- `ArtifactFile`: a file with artifacts, `ArtifactFile.openIn`, `ArtifactFile.persist` and
  `ArtifactFile.load`.
- `PersistMishap`, `ArtifactFile.persistUnder`: persisting while something goes wrong.
-/

namespace DevnetChaos

/-! ## In memory -/

/-- The artifacts that were persisted last, and how often any were. -/
structure ArtifactMemory where
  artifacts : List Artifact
  persistCalls : Nat
  deriving DecidableEq, Repr

namespace ArtifactMemory

/-- Nothing was persisted yet. -/
def empty : ArtifactMemory := ⟨[], 0⟩

/-- Keeps artifacts in place of those kept before. -/
def persist (m : ArtifactMemory) (artifacts : List Artifact) : ArtifactMemory :=
  ⟨artifacts, m.persistCalls + 1⟩

end ArtifactMemory

/-! ## In a file -/

/-- The file in which artifacts are kept. -/
structure ArtifactFile where
  path : FilePath
  deriving DecidableEq, Repr

/-- What can go wrong while artifacts are persisted. -/
inductive PersistMishap where
  | none
  /-- The temporary file is not written; it is left as it was or with the given text. -/
  | writeFails (leftover : Option String)
  /-- The temporary file is not renamed. -/
  | renameFails
  deriving DecidableEq, Repr

namespace ArtifactFile

/-- The usual file. -/
def standard : ArtifactFile := ⟨.along ["test-artifacts.json"]⟩

/-- The usual file in the folder at some names. -/
def within (names : List String) : ArtifactFile := ⟨.along (names ++ standard.path.names)⟩

/-- The usual file in a folder, which is made unless something stands there. -/
def openIn (dir : FilePath) (f : Folder) : Except Failure (ArtifactFile × Folder) := do
  let f ← if (f.at? dir).isSome then pure f else f.makeFolder dir
  return (within dir.names, f)

/-- The file that is written first. -/
def temporary (a : ArtifactFile) : FilePath := a.path.withExtension "tmp"

/-- The text of artifacts. -/
def textOf (artifacts : List Artifact) : String := Json.pretty (Artifact.listTree artifacts)

/-- Puts the temporary file, with what it holds, in place of the file. -/
def replace (a : ArtifactFile) (f : Folder) : Except Failure Unit × Folder :=
  match f.rename a.temporary a.path with
  | .ok f => (.ok (), f)
  | .error failure => (.error failure, f)

/-- Persists artifacts while something may go wrong. -/
def persistUnder (a : ArtifactFile) (mishap : PersistMishap) (artifacts : List Artifact)
    (f : Folder) : Except Failure Unit × Folder :=
  match mishap with
  | .writeFails none => (.error .fileAccess, f)
  | .writeFails (some leftover) => (.error .fileAccess, f.put a.temporary leftover)
  | .none | .renameFails =>
      match f.write a.temporary (textOf artifacts) with
      | .error failure => (.error failure, f)
      | .ok f => if mishap = .renameFails then (.error .fileAccess, f) else a.replace f

/-- Persists artifacts. -/
def persist (a : ArtifactFile) (artifacts : List Artifact) (f : Folder) :
    Except Failure Unit × Folder :=
  a.persistUnder .none artifacts f

/-- The artifacts that were persisted last; none if there is no file. -/
def load (a : ArtifactFile) (f : Folder) : Input (List Artifact) :=
  match f.at? a.path with
  | none => .ok []
  | some .folder => .error (.refused .fileAccess)
  | some (.file text) => Artifact.decodeList.ofJson text

end ArtifactFile
end DevnetChaos
