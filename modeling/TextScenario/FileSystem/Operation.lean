import TextScenario.FileSystem
/-!
Changes to files, one by one. A sequence of operations stops at the first that fails, and what was
done until then stays done.
-/

namespace TextScenario

structure FileFailure where
  path : String
  error : FileError
  deriving DecidableEq, Repr

def FileFailure.message (failure : FileFailure) : String :=
  "io failure on " ++ failure.path ++ ": " ++ failure.error.message

def FileFailure.causes (failure : FileFailure) : List String :=
  [failure.error.message]

inductive FileOperation where
  | createDirectories (path : String)
  /-- Makes a file empty, creating it if need be. -/
  | clear (path : String)
  /-- Writes to a file that was made empty. -/
  | write (path : String) (content : ByteArray)
  | rename (source target : String)

namespace FileOperation

def path : FileOperation → String
  | .createDirectories own | .clear own | .write own _ => own
  | .rename _ target => target

def changed (files : FileSystem) : Except FileError FileSystem → Except FileError Unit × FileSystem
  | .ok files => (.ok (), files)
  | .error error => (.error error, files)

def apply (files : FileSystem) : FileOperation → Except FileError Unit × FileSystem
  | .createDirectories path => files.createDirectories path
  | .clear path => changed files (files.writeBytes path .empty)
  | .write path content => files.fill path content
  | .rename source target => changed files (files.rename source target)

def run (files : FileSystem) : List FileOperation → Except FileFailure Unit × FileSystem
  | [] => (.ok (), files)
  | operation :: rest =>
    match operation.apply files with
    | (.ok (), files) => run files rest
    | (.error error, files) => (.error { path := operation.path, error }, files)

end FileOperation

end TextScenario
