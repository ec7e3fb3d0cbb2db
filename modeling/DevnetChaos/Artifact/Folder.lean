import DevnetChaos.Failure
import DevnetChaos.TextMap

/-!
# Folders

A folder with the files and folders below it, as far as storing artifacts can tell: files are
written whole, a file is renamed in one step over another file but never over a folder, and nothing
is written below a folder that does not exist.

Main definitions:

- `FilePath`: the names on the way down to an entry.
- `Folder`: the entries.
- `Folder.write`, `Folder.rename`, `Folder.read`, `Folder.makeFolder`: what can be done.
-/

namespace DevnetChaos

/-- The way from a folder to an entry. -/
structure FilePath where
  /-- The names on the way; none of them is empty. -/
  names : List String
  /-- Whether only a folder can stand at the end. -/
  toFolder : Bool
  deriving DecidableEq, Repr

namespace FilePath

/-- The path along some names. -/
def along (names : List String) : FilePath := ⟨names, false⟩

/-- A piece of a text with slashes that leads nowhere. -/
def leadsNowhere (piece : String) : Bool := piece == "" || piece == "."

/-- The path of a text with slashes.  One that ends in a piece that leads nowhere can only lead to a
folder. -/
def ofText (text : String) : FilePath :=
  let pieces := text.splitOn "/"
  ⟨pieces.filter fun piece => !leadsNowhere piece, leadsNowhere (pieces.getLastD "")⟩

/-- The text of a path. -/
def toText (path : FilePath) : String := "/".intercalate path.names

/-- The path of the folder in which the entry is. -/
def parent (path : FilePath) : FilePath := along path.names.dropLast

/-- The name that leads to the folder above. -/
def above : String := ".."

/-- Whether a path leads upwards only, or nowhere. -/
def isUpward (path : FilePath) : Bool := path.names.all (· == above)

/-- Whether an entry can have a name: it has no zero character and fits into 255 bytes. -/
def isName (name : String) : Bool := !name.toList.contains '\x00' && name.utf8ByteSize ≤ 255

/-- Whether a file can be at the end of a path. -/
def canBeFile (path : FilePath) : Bool :=
  !path.toFolder && path.names.getLast? != some above && path.names.all isName

/-- The letters in front of the last dot of a name, if there are any; else the whole name. -/
def stem (name : String) : String :=
  let front := (name.toList.reverse.dropWhile fun c => c != '.').drop 1
  if front.isEmpty then name else String.ofList front.reverse

/-- The name with another extension.  A name that is two dots without its extension leads upwards
then, and what leads upwards takes no extension. -/
def nameWithExtension (extension name : String) : String :=
  if stem name == "." then above else stem name ++ "." ++ extension

/-- The path whose last name has another extension. -/
def withExtension (extension : String) (path : FilePath) : FilePath :=
  match path.names.getLast? with
  | some name => along (path.names.dropLast ++ [nameWithExtension extension name])
  | none => path

end FilePath

/-- What stands at a path. -/
inductive FolderEntry where
  | file (text : String)
  | folder
  deriving DecidableEq, Repr

/-- A folder with everything below it. -/
structure Folder where
  /-- The entries by the texts of their paths. -/
  entries : TextMap FolderEntry
  deriving DecidableEq, Repr

namespace Folder

/-- A folder without entries. -/
def empty : Folder := ⟨.empty⟩

/-- What stands at a path.  The folder itself stands at the path without names, and folders stand
above it. -/
def at? (f : Folder) (path : FilePath) : Option FolderEntry :=
  if path.isUpward then some .folder
  else
    match f.entries.get? path.toText with
    | some (.file text) => if path.toFolder then none else some (.file text)
    | other => other

/-- Whether a file can stand at a path: there is a folder above and no folder in its place. -/
def canHoldFile (f : Folder) (path : FilePath) : Bool :=
  path.canBeFile && f.at? path.parent == some .folder && f.at? path != some .folder

/-- The folder with a file. -/
def put (f : Folder) (path : FilePath) (text : String) : Folder :=
  ⟨f.entries.insert path.toText (.file text)⟩

/-- Writes a file. -/
def write (f : Folder) (path : FilePath) (text : String) : Except Failure Folder :=
  if f.canHoldFile path then .ok (f.put path text) else .error .fileAccess

/-- Renames a file, over any file of the new name. -/
def rename (f : Folder) (source target : FilePath) : Except Failure Folder :=
  match f.at? source with
  | some (.file text) =>
      if f.canHoldFile target then .ok (put ⟨f.entries.erase source.toText⟩ target text)
      else .error .fileAccess
  | _ => .error .fileAccess

/-- The text of a file. -/
def read (f : Folder) (path : FilePath) : Except Failure String :=
  match f.at? path with
  | some (.file text) => .ok text
  | _ => .error .fileAccess

/-- Makes the folders along some names that do not exist, below the folder that other names lead
to. -/
def makeFolders (f : Folder) (above : List String) : List String → Except Failure Folder
  | [] => .ok f
  | name :: rest =>
      let path := FilePath.along (above ++ [name])
      match f.at? path with
      | some (.file _) => .error .fileAccess
      | some .folder => makeFolders f path.names rest
      | none =>
          if FilePath.isName name then
            makeFolders ⟨f.entries.insert path.toText .folder⟩ path.names rest
          else .error .fileAccess

/-- Makes a folder and the folders above it where they do not exist. -/
def makeFolder (f : Folder) (path : FilePath) : Except Failure Folder :=
  f.makeFolders [] path.names

/-- The names of the entries directly in the folder, in order. -/
def names (f : Folder) : List String := f.entries.keys.filter fun key => !key.toList.contains '/'

end Folder
end DevnetChaos
