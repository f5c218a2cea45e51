import TextScenario.Text.Lines
/-!
File paths as text. A path is read as a root mark and a list of names; repeated separators and
inner `.` names do not count.
-/

namespace TextScenario.FilePath

inductive Part where
  | root
  | here
  | up
  | name (text : String)
  deriving DecidableEq, Repr

def partsOf : List (List Char) → List Part
  | [] => []
  | piece :: rest =>
    if piece = [] ∨ piece = ['.'] then partsOf rest
    else if piece = ['.', '.'] then .up :: partsOf rest
    else .name (String.ofList piece) :: partsOf rest

/-- The parts of a path; a `.` counts only at the start of a relative path. -/
def parts (path : String) : List Part :=
  match Text.splitAt '/' path.toList with
  | [] | [[]] => []
  | [] :: rest => .root :: partsOf rest
  | ['.'] :: rest => .here :: partsOf rest
  | pieces => partsOf pieces

def isAbsolute (path : String) : Bool :=
  path.toList.head? == some '/'

/-- Appends a path to a directory; an absolute path replaces it. -/
def join (base path : String) : String :=
  if isAbsolute path ∨ base.isEmpty then path
  else if base.toList.getLast? = some '/' then base ++ path
  else base ++ "/" ++ path

def Part.text : Part → String
  | .root => "/"
  | .here => "."
  | .up => ".."
  | .name text => text

def fileName? (path : String) : Option String :=
  match (parts path).getLast? with
  | some (.name text) => some text
  | _ => none

/-- A text without its trailing separators and `.` names, as far as `stop` characters from the
start. -/
def trimTail (fuel stop : Nat) (reversed : List Char) : List Char :=
  match fuel with
  | 0 => reversed
  | fuel + 1 =>
    if reversed.length ≤ stop then reversed
    else match reversed with
      | '/' :: rest => trimTail fuel stop rest
      | '.' :: '/' :: rest => trimTail fuel stop ('/' :: rest)
      | _ => reversed

/-- The text of a path in reverse order, without what follows its last part. -/
def reversedText (path : String) : List Char :=
  let chars := path.toList
  trimTail chars.length (if isAbsolute path then 1 else 0) chars.reverse

/-- The path without its last part; none for the root and the empty path. -/
def parent? (path : String) : Option String :=
  match (parts path).getLast? with
  | none | some .root => none
  | some _ =>
    let head := (reversedText path).dropWhile (· != '/')
    let stop := if isAbsolute path then 1 else 0
    some (String.ofList (trimTail head.length stop head).reverse)

/-- Cuts a file name at its last dot, unless that is its first character. -/
def splitExtension (name : String) : String × Option String :=
  let reversed := name.toList.reverse
  let after := reversed.takeWhile (· != '.')
  match reversed.drop after.length with
  | [] => (name, none)
  | [_] => (name, none)
  | _ :: stem =>
    if name = ".." then (name, none)
    else (String.ofList stem.reverse, some (String.ofList after.reverse))

def extension? (path : String) : Option String :=
  (fileName? path).bind fun name => (splitExtension name).2

/-- The path with its file name's extension replaced; all before the name stays as it is. -/
def withExtension (path extension : String) : String :=
  match fileName? path with
  | none => path
  | some name =>
    let before := String.ofList ((reversedText path).drop name.length).reverse
    let stem := (splitExtension name).1
    before ++ if extension.isEmpty then stem else stem ++ "." ++ extension

end TextScenario.FilePath
