import TextScenario.FilePath
/-!
Files, directories and symbolic links. Every entry is filed under the names that lead to it from
the root; paths are resolved name by name, and a link is replaced by its target on the way.
-/

namespace TextScenario

inductive FileError where
  | notFound
  | isDirectory
  | notDirectory
  | alreadyExists
  | notEmpty
  | tooManyLinks
  | nameTooLong
  | nulByte
  | notUtf8
  /-- An error that is not about names and entries: of permissions, or of the device. -/
  | other (message : String)
  deriving DecidableEq, Repr, Inhabited

def FileError.message : FileError → String
  | .notFound => "No such file or directory (os error 2)"
  | .isDirectory => "Is a directory (os error 21)"
  | .notDirectory => "Not a directory (os error 20)"
  | .alreadyExists => "File exists (os error 17)"
  | .notEmpty => "Directory not empty (os error 39)"
  | .tooManyLinks => "Too many levels of symbolic links (os error 40)"
  | .nameTooLong => "File name too long (os error 36)"
  | .nulByte => "file name contained an unexpected NUL byte"
  | .notUtf8 => "stream did not contain valid UTF-8"
  | .other message => message

/-- The bytes of a file, and the message of the error if the program is kept from opening it. -/
structure FileContent where
  bytes : ByteArray
  refusal : Option String := none
  deriving Inhabited

theorem FileContent.mk_eq_mk_iff {bytes others : Array UInt8} {refusal other : Option String} :
    bytes = others ∧ refusal = other ↔ (⟨⟨bytes⟩, refusal⟩ : FileContent) = ⟨⟨others⟩, other⟩ := by
  rw [FileContent.mk.injEq, ByteArray.mk.injEq]

instance : DecidableEq FileContent
  | ⟨⟨_⟩, _⟩, ⟨⟨_⟩, _⟩ => decidable_of_iff _ FileContent.mk_eq_mk_iff

instance : Coe ByteArray FileContent :=
  ⟨fun bytes => { bytes }⟩

instance : Coe FileContent ByteArray :=
  ⟨FileContent.bytes⟩

def FileContent.open (content : FileContent) : Except FileError ByteArray :=
  match content.refusal with
  | none => .ok content.bytes
  | some message => .error (.other message)

inductive Entry where
  | file (content : FileContent)
  | directory
  | link (target : String)
  deriving DecidableEq, Inhabited

abbrev Location := List String

/-- All entries by location, and the working directory. The root is always a directory. -/
structure FileSystem where
  entries : List (Location × Entry) := []
  working : Location := []
  /-- The texts that stand for names and paths that are no Unicode text. One text may stand for several. -/
  lossy : List (String × String) := []
  /-- How much of a content is written before an error ends the write, if one does. -/
  cutShort : Option (Nat × String) := none
  deriving DecidableEq, Inhabited

namespace FileSystem

/-- A name or path as text. -/
def shown (files : FileSystem) (path : String) : String :=
  (files.lossy.lookup path).getD path

def entry? (files : FileSystem) (location : Location) : Option Entry :=
  if location.isEmpty then some .directory else files.entries.lookup location

/-- Puts an entry in place of whatever was at the location. -/
def put (files : FileSystem) (location : Location) (entry : Entry) : FileSystem :=
  { files with
    entries := (location, entry) :: files.entries.filter fun (other, _) => other != location }

def erase (files : FileSystem) (location : Location) : FileSystem :=
  { files with entries := files.entries.filter fun (other, _) => other != location }

def eraseTree (files : FileSystem) (location : Location) : FileSystem :=
  { files with entries := files.entries.filter fun (other, _) => !location.isPrefixOf other }

/-- Names in a directory, with what they stand for. -/
def children (files : FileSystem) (location : Location) : List (String × Entry) :=
  files.entries.filterMap fun (other, entry) =>
    match other.getLast? with
    | some name => if other.dropLast = location then some (name, entry) else none
    | none => none

/-- Names as they stand between separators; empty ones and `.` ask for a directory only. -/
def rawNames (path : String) : List String :=
  (Text.splitAt '/' path.toList).map String.ofList

def greatestLinks : Nat := 40
def greatestName : Nat := 255

/-- Follows names from a directory. The last name may be missing; whether a link in last place is
followed is up to the caller. -/
def follow (files : FileSystem) (last : Bool) : Nat → Nat → Location → List String →
    Except FileError Location
  | 0, _, _, _ => .error .tooManyLinks
  | _ + 1, _, at_, [] => .ok at_
  | fuel + 1, links, at_, name :: rest =>
    if name = "" ∨ name = "." then follow files last fuel links at_ rest
    else if name = ".." then follow files last fuel links at_.dropLast rest
    else if name.utf8ByteSize > greatestName then .error .nameTooLong
    else
      let next := at_ ++ [name]
      match files.entry? next with
      | none => if rest.all (· == "") then .ok next else .error .notFound
      | some .directory => follow files last fuel links next rest
      | some (.file _) => if rest.isEmpty then .ok next else .error .notDirectory
      | some (.link target) =>
        if rest.isEmpty && !last then .ok next
        else match links with
          | 0 => .error .tooManyLinks
          | links + 1 =>
            if target = "" then .error .notFound
            else
              let start := if FilePath.isAbsolute target then [] else at_
              follow files last fuel links start (rawNames target ++ rest)

/-- Where a path leads. The entry itself may be missing. -/
def locate (files : FileSystem) (path : String) (followLast : Bool := true) :
    Except FileError Location :=
  if path = "" then .error .notFound
  else if path.toList.contains '\x00' then .error .nulByte
  else
    let start := if FilePath.isAbsolute path then [] else files.working
    follow files followLast (path.length + 42 * 4096) greatestLinks start (rawNames path)

def lookup (files : FileSystem) (path : String) : Except FileError (Location × Entry) := do
  let location ← files.locate path
  match files.entry? location with
  | some entry => .ok (location, entry)
  | none => .error .notFound

def absolutePath (location : Location) : String :=
  if location.isEmpty then "/" else location.foldl (fun path name => path ++ "/" ++ name) ""

/-- The absolute path of an existing entry, without links. -/
def canonical (files : FileSystem) (path : String) : Except FileError String :=
  (files.lookup path).map fun (location, _) => absolutePath location

def isFile (files : FileSystem) (path : String) : Bool :=
  match files.lookup path with
  | .ok (_, .file _) => true
  | _ => false

def isDirectory (files : FileSystem) (path : String) : Bool :=
  match files.lookup path with
  | .ok (_, .directory) => true
  | _ => false

def exists? (files : FileSystem) (path : String) : Bool :=
  (files.lookup path).isOk

def readBytes (files : FileSystem) (path : String) : Except FileError ByteArray := do
  match ← files.lookup path with
  | (_, .file content) => content.open
  | _ => .error .isDirectory

def readText (files : FileSystem) (path : String) : Except FileError String := do
  match String.fromUTF8? (← files.readBytes path) with
  | some text => .ok text
  | none => .error .notUtf8

def hasParent (files : FileSystem) (location : Location) : Bool :=
  match files.entry? location.dropLast with
  | some .directory => true
  | _ => false

private def endsInSeparator (path : String) : Bool :=
  path.toList.getLast? == some '/'

def writeBytes (files : FileSystem) (path : String) (content : ByteArray) :
    Except FileError FileSystem := do
  let location ← files.locate path
  match files.entry? location with
  | some .directory => .error .isDirectory
  | some (.file old) => old.open.map fun _ => files.put location (.file content)
  | _ =>
    if endsInSeparator path then .error .isDirectory
    else if files.hasParent location then .ok (files.put location (.file content))
    else .error .notFound

/-- Writes to a file that is open already. Writing may end early, with a part of the content written. -/
def fill (files : FileSystem) (path : String) (content : ByteArray) :
    Except FileError Unit × FileSystem :=
  match files.cutShort with
  | some (count, message) =>
    (.error (.other message), (files.writeBytes path (content.extract 0 count)).toOption.getD files)
  | none =>
    match files.writeBytes path content with
    | .ok files => (.ok (), files)
    | .error error => (.error error, files)

def createDirectory (files : FileSystem) (path : String) : Except FileError FileSystem := do
  let location ← files.locate path false
  match files.entry? location with
  | some _ => .error .alreadyExists
  | none =>
    if files.hasParent location then .ok (files.put location .directory) else .error .notFound

/-- Creates a directory below its missing parents. An existing directory is fine; parents that were
created stay when a later one cannot be. -/
def createBelow (fuel : Nat) (files : FileSystem) (path : String) :
    Except FileError Unit × FileSystem :=
  if path = "" then (.ok (), files)
  else match files.createDirectory path with
    | .ok files => (.ok (), files)
    | .error .notFound =>
      match fuel, FilePath.parent? path with
      | fuel + 1, some parent =>
        match createBelow fuel files parent with
        | (.error error, files) => (.error error, files)
        | (.ok (), files) =>
          match files.createDirectory path with
          | .ok files => (.ok (), files)
          | .error error => (if files.isDirectory path then .ok () else .error error, files)
      | _, _ => (.error .notFound, files)
    | .error error => (if files.isDirectory path then .ok () else .error error, files)

def createDirectories (files : FileSystem) (path : String) : Except FileError Unit × FileSystem :=
  files.createBelow path.length path

/-- Moves a file onto a path, replacing a file there. Neither path may end as a directory's would. -/
def rename (files : FileSystem) (source target : String) : Except FileError FileSystem := do
  let old ← files.locate source false
  let new ← files.locate target false
  match files.entry? old with
  | none => .error .notFound
  | some entry =>
    if endsInSeparator source || endsInSeparator target then .error .notDirectory
    else if !files.hasParent new then .error .notFound
    else match files.entry? new with
      | some .directory => .error .isDirectory
      | _ => .ok ((files.erase old).put new entry)

def list (files : FileSystem) (path : String) : Except FileError (List String) := do
  match ← files.lookup path with
  | (location, .directory) =>
    .ok (((files.children location).map (·.1)).mergeSort fun left right => decide (left ≤ right))
  | _ => .error .notDirectory

end FileSystem

end TextScenario
