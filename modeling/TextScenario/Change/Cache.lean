import TextScenario.FileSystem.Operation
import TextScenario.Json.Bytes
import TextScenario.Json.Printer
import TextScenario.Json.Record
/-!
The change cache keeps the digest of every scenario file as it was when it last passed. It is saved
under a temporary name that then replaces the old file, so the old cache or the new one can be
loaded at any time.
-/

namespace TextScenario

/-- Digests by file, sorted by file. -/
structure ChangeCache where
  files : List (String × String) := []
  deriving DecidableEq, Repr, Inhabited

namespace ChangeCache

def get? (cache : ChangeCache) (key : String) : Option String :=
  cache.files.lookup key

def insert (cache : ChangeCache) (key digest : String) : ChangeCache :=
  ⟨Json.insertField key digest cache.files⟩

def erase (cache : ChangeCache) (key : String) : ChangeCache :=
  ⟨cache.files.filter (·.1 != key)⟩

def toJson (cache : ChangeCache) : Json :=
  .object [("files", .object (cache.files.map fun (key, digest) => (key, .text digest)))]

/-- The cache that is written as a record. Of other fields nothing is read. -/
def ofWritten? (written : Json) : Option ChangeCache := do
  let record ← (← written.named?).record? ["files"] 0
  Json.optional? record "files" {} fun files => do
    let fields ← (← files.named?).fields?
    let entries ← fields.mapM fun (key, digest) =>
      (digest.text?.bind Json.textOf?).map (key, ·)
    some ⟨Json.sortFields entries⟩

def ofBytes? (bytes : ByteArray) : Option ChangeCache := do
  ofWritten? (← Json.readBytes? bytes)

/-- The cache that a value stands for once it is written. -/
def ofJson? (value : Json) : Option ChangeCache :=
  ofBytes? value.pretty.toUTF8

/-- A cache that cannot be read is empty, so that every scenario counts as changed. -/
def load (files : FileSystem) (path : String) : ChangeCache :=
  match files.readBytes path with
  | .ok bytes => (ofBytes? bytes).getD {}
  | .error _ => {}

def temporaryPath (path : String) : String :=
  FilePath.withExtension path "tmp"

/-- What saving does, step by step. -/
def saveOperations (cache : ChangeCache) (path : String) : List FileOperation :=
  let temporary := temporaryPath path
  (((FilePath.parent? path).filter (!·.isEmpty)).map FileOperation.createDirectories).toList ++
    [.clear temporary, .write temporary cache.toJson.pretty.toUTF8, .rename temporary path]

def save (cache : ChangeCache) (files : FileSystem) (path : String) :
    Except FileFailure Unit × FileSystem :=
  FileOperation.run files (cache.saveOperations path)

end ChangeCache

end TextScenario
