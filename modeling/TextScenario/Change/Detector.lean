import TextScenario.Change.Cache
import TextScenario.Digest
/-!
Finding changed scenarios. A scenario file has changed if its digest is not the one in the cache;
files are known there by their absolute paths without links.
-/

namespace TextScenario

/-- A scenario file with the digest that it has now. -/
structure ScenarioChange where
  file : String
  digest : String
  deriving DecidableEq, Repr, Inhabited

/-- Every change concerns the whole file. -/
def ScenarioChange.toJson (change : ScenarioChange) : Json :=
  .object
    [("file", .text change.file),
     ("test_case", .text "*"),
     ("changes", .texts ["content"]),
     ("hash", .text change.digest)]

namespace FileSystem

def digest (files : FileSystem) (path : String) : Except FileFailure String :=
  match files.readBytes path with
  | .ok bytes => .ok (Digest.ofBytes bytes)
  | .error error => .error { path, error }

def isScenarioName (name : String) : Bool :=
  (FilePath.splitExtension name).2.any fun extension => extension.map Char.toLower == "txt"

/-- The scenario files directly in a directory, sorted. A missing directory has none. -/
def scenarioFiles (files : FileSystem) (directory : String) : Except FileFailure (List String) :=
  if !files.exists? directory then .ok []
  else match files.list directory with
    | .error error => .error { path := directory, error }
    | .ok names =>
      .ok (((names.filter isScenarioName).map (FilePath.join directory)).filter files.isFile)

/-- The absolute form of a path, by its text alone. Exactly two separators at the start are kept,
and so is one at the end. -/
def absoluteText (files : FileSystem) (path : String) : String :=
  if path.isEmpty then path
  else
    let parts := (FilePath.parts path).filter (· != .here)
    let start := if FilePath.isAbsolute path then "" else absolutePath files.working
    let joined := parts.foldl (fun path part => FilePath.join path part.text) start
    let lead := if (path.toList.takeWhile (· == '/')).length = 2 then "/" else ""
    let tail := if path.toList.getLast? = some '/' ∧ joined.toList.getLast? ≠ some '/' then "/" else ""
    lead ++ joined ++ tail

/-- The directory that a path without a file is looked for in. -/
def parentOrHere (path : String) : String :=
  ((FilePath.parent? path).filter (!·.isEmpty)).getD "."

/-- The absolute path of a file. A file that is gone is found through its directory. -/
def resolved (files : FileSystem) (path : String) : String :=
  match files.canonical path with
  | .ok key => key
  | .error _ =>
    match FilePath.fileName? path, files.canonical (parentOrHere path) with
    | some name, .ok directory => FilePath.join directory name
    | _, _ => files.absoluteText path

/-- The name of a file in the cache. -/
def cacheKey (files : FileSystem) (path : String) : String :=
  files.shown (files.resolved path)

end FileSystem

structure ChangeDetector where
  directory : String
  cachePath : String
  cache : ChangeCache
  deriving DecidableEq, Repr, Inhabited

namespace ChangeDetector

def ofPaths (files : FileSystem) (directory cachePath : String) : ChangeDetector where
  directory
  cachePath
  cache := .load files cachePath

/-- The change of a file, if its digest is not the cached one. -/
def changeOf? (detector : ChangeDetector) (files : FileSystem) (file : String) :
    Except FileFailure (Option ScenarioChange) := do
  let digest ← files.digest file
  if detector.cache.get? (files.cacheKey file) = some digest then .ok none
  else .ok (some { file, digest })

def changes (detector : ChangeDetector) (files : FileSystem) :
    Except FileFailure (List ScenarioChange) := do
  let paths ← files.scenarioFiles detector.directory
  let changes ← paths.mapM (detector.changeOf? files)
  .ok (changes.filterMap id)

/-- Takes note of files in order, up to the first that cannot be read. A file that is gone is
forgotten. -/
def note (files : FileSystem) (cache : ChangeCache) :
    List String → Except FileFailure Unit × ChangeCache
  | [] => (.ok (), cache)
  | path :: rest =>
    let key := files.cacheKey path
    if files.exists? path then
      match files.digest path with
      | .ok digest => note files (cache.insert key digest) rest
      | .error failure => (.error failure, cache)
    else note files (cache.erase key) rest

def mark (detector : ChangeDetector) (files : FileSystem) (paths : List String) :
    Except FileFailure Unit × ChangeDetector × FileSystem :=
  match note files detector.cache paths with
  | (.error failure, cache) => (.error failure, { detector with cache }, files)
  | (.ok (), cache) =>
    let (result, files) := cache.save files detector.cachePath
    (result, { detector with cache }, files)

end ChangeDetector

end TextScenario
