import TextScenario.Yaml.Layout
/-!
Nodes of YAML documents. Anchors are numbered, and an alias stands for the anchored node with its
number.
-/

namespace TextScenario.Yaml

inductive Node where
  | scalar (tag : Option String) (style : ScalarStyle) (text : String)
  | sequence (tag : Option String) (items : List Node)
  | mapping (tag : Option String) (entries : List (Node × Node))
  | alias (anchor : Nat)
  deriving Inhabited

/-- A document; an empty text has no root. Anchored nodes are listed in the order in which they
start, each with its anchor's number. -/
structure Tree where
  root : Option Node
  anchors : List (Nat × Node)
  deriving Inhabited

def Tree.anchored? (tree : Tree) (anchor : Nat) : Option Node :=
  (tree.anchors.filter (·.1 == anchor)).getLast?.map (·.2)

def Tree.resolve (tree : Tree) : Node → Option Node
  | .alias anchor => tree.anchored? anchor
  | node => some node

/-- What is left to read, with the anchors and tag handles so far. An anchor's number is how many
other names there were before it. -/
structure Reading where
  tokens : List Token
  handles : List (List Char × List Char) := []
  names : List (List Char × Nat) := []
  started : List Nat := []
  finished : List (Nat × Node) := []

namespace Reading

def drop (reading : Reading) : Reading :=
  { reading with tokens := reading.tokens.drop 1 }

/-- Numbers an anchor. The result is the place of its node among all anchored nodes. -/
def startAnchor (reading : Reading) (name : List Char) : Nat × Reading :=
  let number := reading.names.length
  (reading.started.length,
    { reading with
      names := (name, number) :: reading.names.filter (·.1 != name)
      started := reading.started ++ [number] })

def finishAnchor (reading : Reading) (place : Option Nat) (node : Node) : Reading :=
  match place with
  | some place => { reading with finished := (place, node) :: reading.finished }
  | none => reading

def anchors (reading : Reading) : List (Nat × Node) :=
  reading.started.zipIdx.filterMap fun (number, place) =>
    (reading.finished.lookup place).map (number, ·)

/-- The full tag for a tag name; an undefined handle is an error. -/
def tagText? (reading : Reading) (name : TagName) : Option (List Char) :=
  if name.handle.isEmpty then some name.suffix
  else (reading.handles.lookup name.handle).map (· ++ name.suffix)

end Reading

structure Properties where
  tag : Option TagName := none
  anchor : Option (List Char) := none

def Properties.read (reading : Reading) : Properties × Reading :=
  match reading.tokens with
  | .anchor name :: .tag tag :: rest =>
    ({ tag := some tag, anchor := some name }, { reading with tokens := rest })
  | .anchor name :: rest => ({ anchor := some name }, { reading with tokens := rest })
  | .tag tag :: .anchor name :: rest =>
    ({ tag := some tag, anchor := some name }, { reading with tokens := rest })
  | .tag tag :: rest => ({ tag := some tag }, { reading with tokens := rest })
  | _ => ({}, reading)

def emptyNode : Node :=
  .scalar none .plain ""

/-- Where a node stands decides which collections it may open. -/
inductive Context where
  | block
  /-- In block mappings a sequence need not be indented. -/
  | blockEntry
  | flow
  deriving DecidableEq

/-- The tag `!` leaves a scalar that is written out untagged. -/
def scalarTag (tag : Option (List Char)) : Option String :=
  (tag.filter (· != ['!'])).map String.ofList

mutual
def readNode? (fuel : Nat) (context : Context) (reading : Reading) : Option (Node × Reading) :=
  match fuel with
  | 0 => none
  | fuel + 1 =>
    match reading.tokens with
    | .alias name :: rest =>
      (reading.names.lookup name).map fun anchor => (.alias anchor, { reading with tokens := rest })
    | _ => do
      let (properties, reading) := Properties.read reading
      let tag ←
        match properties.tag with
        | none => some none
        | some name => (reading.tagText? name).map some
      let bare := properties.tag.isNone && properties.anchor.isNone
      let (place, reading) :=
        match properties.anchor with
        | none => (none, reading)
        | some name =>
          let (place, reading) := reading.startAnchor name
          (some place, reading)
      let (node, reading) ← readContent? fuel context tag bare reading
      some (node, reading.finishAnchor place node)

def readContent? (fuel : Nat) (context : Context) (tag : Option (List Char)) (bare : Bool)
    (reading : Reading) : Option (Node × Reading) :=
  match fuel with
  | 0 => none
  | fuel + 1 =>
    let tagText := tag.map String.ofList
    let isBlock := context != .flow
    match reading.tokens with
    | .blockEntry :: _ =>
      if context = .blockEntry then
        (readPlainItems? fuel reading).map fun (items, reading) => (.sequence tagText items, reading)
      else if bare then none
      else some (.scalar tagText .plain "", reading)
    | .scalar style text :: _ =>
      some (.scalar (scalarTag tag) style (String.ofList text), reading.drop)
    | .flowSequenceStart :: _ =>
      (readFlowItems? fuel true reading.drop).map fun (items, reading) =>
        (.sequence tagText items, reading)
    | .flowMappingStart :: _ =>
      (readFlowEntries? fuel true reading.drop).map fun (entries, reading) =>
        (.mapping tagText entries, reading)
    | token :: _ =>
      if token = .blockSequenceStart ∧ isBlock then
        (readBlockItems? fuel reading.drop).map fun (items, reading) =>
          (.sequence tagText items, reading)
      else if token = .blockMappingStart ∧ isBlock then
        (readBlockEntries? fuel reading.drop).map fun (entries, reading) =>
          (.mapping tagText entries, reading)
      else if bare then none
      else some (.scalar tagText .plain "", reading)
    | [] => none

def readBlockItems? (fuel : Nat) (reading : Reading) : Option (List Node × Reading) :=
  match fuel with
  | 0 => none
  | fuel + 1 =>
    match reading.tokens with
    | .blockEntry :: next :: _ => do
      let (item, reading) ←
        if next = .blockEntry ∨ next = .blockEnd then some (emptyNode, reading.drop)
        else readNode? fuel .block reading.drop
      let (items, reading) ← readBlockItems? fuel reading
      some (item :: items, reading)
    | .blockEnd :: _ => some ([], reading.drop)
    | _ => none

def readPlainItems? (fuel : Nat) (reading : Reading) : Option (List Node × Reading) :=
  match fuel with
  | 0 => none
  | fuel + 1 =>
    match reading.tokens with
    | .blockEntry :: next :: _ => do
      let (item, reading) ←
        if next = .blockEntry ∨ next = .key ∨ next = .value ∨ next = .blockEnd then
          some (emptyNode, reading.drop)
        else readNode? fuel .block reading.drop
      let (items, reading) ← readPlainItems? fuel reading
      some (item :: items, reading)
    | _ => some ([], reading)

def readBlockPart? (fuel : Nat) (reading : Reading) : Option (Node × Reading) :=
  match fuel with
  | 0 => none
  | fuel + 1 =>
    match reading.tokens with
    | .key :: _ | .value :: _ | .blockEnd :: _ => some (emptyNode, reading)
    | _ => readNode? fuel .blockEntry reading

def readBlockEntries? (fuel : Nat) (reading : Reading) : Option (List (Node × Node) × Reading) :=
  match fuel with
  | 0 => none
  | fuel + 1 =>
    match reading.tokens with
    | .key :: _ => do
      let (key, reading) ← readBlockPart? fuel reading.drop
      let (value, reading) ←
        match reading.tokens with
        | .value :: _ => readBlockPart? fuel reading.drop
        | _ => some (emptyNode, reading)
      let (entries, reading) ← readBlockEntries? fuel reading
      some ((key, value) :: entries, reading)
    | .blockEnd :: _ => some ([], reading.drop)
    | _ => none

/-- The items of a flow sequence; a pair is a mapping with one entry. -/
def readFlowItems? (fuel : Nat) (first : Bool) (reading : Reading) :
    Option (List Node × Reading) :=
  match fuel with
  | 0 => none
  | fuel + 1 =>
    match reading.tokens with
    | .flowSequenceEnd :: _ => some ([], reading.drop)
    | token :: _ => do
      if !first && token != .flowEntry then failure
      let reading := if first then reading else reading.drop
      match reading.tokens with
      | .flowSequenceEnd :: _ => some ([], reading.drop)
      | .key :: _ => do
        let (pair, reading) ← readFlowPair? fuel reading.drop
        let (items, reading) ← readFlowItems? fuel false reading
        some (pair :: items, reading)
      | _ => do
        let (item, reading) ← readNode? fuel .flow reading
        let (items, reading) ← readFlowItems? fuel false reading
        some (item :: items, reading)
    | [] => none

/-- A pair in a flow sequence after its key mark. Where the key is missing, its mark's successor
is taken for it. -/
def readFlowPair? (fuel : Nat) (reading : Reading) : Option (Node × Reading) :=
  match fuel with
  | 0 => none
  | fuel + 1 => do
    let (key, reading) ←
      match reading.tokens with
      | .value :: _ | .flowEntry :: _ | .flowSequenceEnd :: _ => some (emptyNode, reading.drop)
      | _ => readNode? fuel .flow reading
    let (value, reading) ←
      match reading.tokens with
      | .value :: .flowEntry :: _ | .value :: .flowSequenceEnd :: _ =>
        some (emptyNode, reading.drop)
      | .value :: _ => readNode? fuel .flow reading.drop
      | _ => some (emptyNode, reading)
    some (.mapping none [(key, value)], reading)

def readFlowEntries? (fuel : Nat) (first : Bool) (reading : Reading) :
    Option (List (Node × Node) × Reading) :=
  match fuel with
  | 0 => none
  | fuel + 1 =>
    match reading.tokens with
    | .flowMappingEnd :: _ => some ([], reading.drop)
    | token :: _ => do
      if !first && token != .flowEntry then failure
      let reading := if first then reading else reading.drop
      match reading.tokens with
      | .flowMappingEnd :: _ => some ([], reading.drop)
      | .key :: _ => do
        let (key, reading) ← readFlowPart? fuel reading.drop
        let (value, reading) ←
          match reading.tokens with
          | .value :: _ => readFlowPart? fuel reading.drop
          | _ => some (emptyNode, reading)
        let (entries, reading) ← readFlowEntries? fuel false reading
        some ((key, value) :: entries, reading)
      | _ => do
        let (key, reading) ← readNode? fuel .flow reading
        let (entries, reading) ← readFlowEntries? fuel false reading
        some ((key, emptyNode) :: entries, reading)
    | [] => none

def readFlowPart? (fuel : Nat) (reading : Reading) : Option (Node × Reading) :=
  match fuel with
  | 0 => none
  | fuel + 1 =>
    match reading.tokens with
    | .value :: _ | .flowEntry :: _ | .flowMappingEnd :: _ => some (emptyNode, reading)
    | _ => readNode? fuel .flow reading
end

def standardHandles : List (List Char × List Char) :=
  [(['!'], ['!']), ("!!".toList, "tag:yaml.org,2002:".toList)]

/-- Reads the directives before a document. Neither the version nor a handle may be given twice. -/
def readDirectives? (version : Bool) (handles : List (List Char × List Char)) :
    List Token → Option (List (List Char × List Char) × List Token)
  | .versionDirective major minor :: rest =>
    if version || major ≠ 1 || (minor ≠ 1 && minor ≠ 2) then none
    else readDirectives? true handles rest
  | .tagDirective handle lead :: rest =>
    if (handles.lookup handle).isSome then none
    else readDirectives? version ((handle, lead) :: handles) rest
  | tokens => some (handles, tokens)

def Token.endsDocument : Token → Bool
  | .versionDirective _ _ | .tagDirective _ _ | .documentStart | .documentEnd | .streamEnd => true
  | _ => false

/-- Reads the single document of a text; a text without one is empty. -/
def Tree.ofTokens? (tokens : List Token) : Option Tree := do
  let fuel := 4 * tokens.length + 4
  let (handles, rest) ← readDirectives? false [] tokens
  let reading : Reading := { tokens := rest, handles := handles ++ standardHandles }
  let explicit := rest.head? == some .documentStart
  if tokens.length ≠ rest.length && !explicit then failure
  if rest == [.streamEnd] then some { root := none, anchors := [] }
  else
    let reading := if explicit then reading.drop else reading
    let (node, reading) ←
      if explicit && reading.tokens.head?.any Token.endsDocument then some (emptyNode, reading)
      else readNode? fuel .block reading
    if reading.tokens.dropWhile (· == .documentEnd) == [.streamEnd] then
      some { root := some node, anchors := reading.anchors }
    else none

/-- The document of a text, if it is well formed and the only one. -/
def read? (text : String) : Option Tree :=
  (tokens? text).bind Tree.ofTokens?

end TextScenario.Yaml
