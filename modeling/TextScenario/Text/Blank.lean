/-!
Blank characters are those with the White_Space property. Trimming removes them at either end.
-/

namespace TextScenario.Text

/-- The White_Space property. -/
def isBlank (char : Char) : Bool :=
  let code := char.toNat
  (9 ≤ code && code ≤ 13) || code == 0x20 || code == 0x85 || code == 0xA0 || code == 0x1680 ||
    (0x2000 ≤ code && code ≤ 0x200A) || code == 0x2028 || code == 0x2029 || code == 0x202F ||
    code == 0x205F || code == 0x3000

def trimLeft (text : List Char) : List Char :=
  text.dropWhile isBlank

def trimRight : List Char → List Char
  | [] => []
  | char :: rest =>
    match trimRight rest with
    | [] => if isBlank char then [] else [char]
    | kept => char :: kept

def trim (text : List Char) : List Char :=
  trimRight (trimLeft text)

/-- The text without blank characters at its ends. -/
def trimmed (text : String) : String :=
  String.ofList (trim text.toList)

end TextScenario.Text
