import TextScenario.Text.Lines
/-!
Command lines. A grammar says which options, operands and commands there are. Reading a command line
yields what its command builds from the values given, or the first reason why it cannot be carried
out.
-/

namespace TextScenario.CommandLine

/-- Why a command line is not carried out. To ask for help or for the version is a reason as well. -/
inductive UsageError where
  | help
  | version (command : List String)
  /-- A command was expected, and nothing was given. -/
  | nothingGiven
  | missingCommand
  | missingOperand (name : String)
  | unknownArgument (argument : String)
  | unknownCommand (name : String)
  | missingValue (option : String)
  | invalidValue (name value : String)
  | malformedNumber (name value : String)
  | repeatedOption (option : String)
  | superfluousValue (option : String)
  deriving DecidableEq, Repr

inductive ValueKind where
  | text
  /-- Any text but the empty one. -/
  | path
  | choice (names : List String)
  /-- A number below `2 ^ 64`. -/
  | number
  deriving DecidableEq, Repr

/-- A number in decimal digits, with or without a plus sign, up to a greatest one. -/
def number? (greatest : Nat) (text : String) : Option Nat :=
  let digits :=
    match text.toList with
    | '+' :: rest => rest
    | chars => chars
  if digits.isEmpty || !digits.all Char.isDigit then none
  else
    let value := digits.foldl (fun value char => value * 10 + (char.toNat - '0'.toNat)) 0
    if value ≤ greatest then some value else none

def greatestNumber : Nat := 0xFFFFFFFFFFFFFFFF

def ValueKind.check (kind : ValueKind) (name value : String) : Except UsageError Unit :=
  match kind with
  | .text => .ok ()
  | .path => if value.isEmpty then .error (.missingValue name) else .ok ()
  | .choice names => if names.contains value then .ok () else .error (.invalidValue name value)
  | .number =>
    if (number? greatestNumber value).isSome then .ok () else .error (.malformedNumber name value)

/-- An option; one without a kind of values is a switch. -/
structure OptionSpec where
  name : String
  short : Option Char := none
  kind : Option ValueKind := none
  deriving DecidableEq, Repr

/-- What a command takes besides options: exactly one value, or any number of them. -/
structure Operand where
  name : String
  kind : ValueKind
  many : Bool := false
  deriving DecidableEq, Repr

/-- Values by option or operand, as given with one command. -/
abbrev Given := List (String × List String)

/-- The values given with each of the nested commands, outermost first. -/
abbrev Values := List Given

namespace Values

/-- The values of an option or operand. The innermost command that has any counts. -/
def all (values : Values) (name : String) : List String :=
  (values.reverse.findSome? fun given => given.lookup name).getD []

def get? (values : Values) (name : String) : Option String :=
  (values.all name).head?

def has (values : Values) (name : String) : Bool :=
  values.any fun given => (given.lookup name).isSome

end Values

inductive Grammar (α : Type) where
  | command (options : List OptionSpec) (operand : Option Operand) (build : Values → α)
  | group (commands : List (String × Grammar α))

namespace Grammar

variable {α : Type}

def options : Grammar α → List OptionSpec
  | .command options _ _ => options
  | .group _ => []

def commands : Grammar α → List (String × Grammar α)
  | .command _ _ _ => []
  | .group commands => commands

def operand? : Grammar α → Option Operand
  | .command _ operand _ => operand
  | .group _ => none

end Grammar

/-- The command that explains other commands; every group has it. -/
def helpCommand : String := "help"

def helpOption : OptionSpec := { name := "help", short := some 'h' }
def versionOption : OptionSpec := { name := "version", short := some 'V' }

/-- An argument whose value, or some of whose values, have been read but not looked at. -/
inductive Pending where
  | option (spec : OptionSpec) (value : Option String)
  | operand (operand : Operand) (values : List String)
  deriving DecidableEq, Repr

/-- What is known of one command while it is read. A pending argument is checked as late as when the
next one starts, so that an error further on can come first. -/
structure Level where
  options : List OptionSpec
  command : List String
  given : Given := []
  pending : Option Pending := none

namespace Level

def add (level : Level) (name : String) (values : List String) : Level :=
  { level with given := level.given ++ [(name, values)] }

def addOption (level : Level) (option : OptionSpec) (value : Option String) :
    Except UsageError Level := do
  if (level.given.lookup option.name).isSome then .error (.repeatedOption option.name)
  match option.kind, value with
  | some kind, some value => kind.check option.name value
  | _, _ => .ok ()
  .ok (level.add option.name value.toList)

def addOperand (level : Level) (operand : Operand) (values : List String) :
    Except UsageError Level := do
  values.forM (operand.kind.check operand.name)
  let earlier := (level.given.lookup operand.name).getD []
  let others := level.given.filter (·.1 != operand.name)
  .ok { level with given := others ++ [(operand.name, earlier ++ values)] }

def settle (level : Level) : Except UsageError Level :=
  let settled := { level with pending := none }
  match level.pending with
  | none => .ok level
  | some (.option option none) => .error (.missingValue option.name)
  | some (.option option (some value)) => settled.addOption option value
  | some (.operand operand values) => settled.addOperand operand values

def waiting? (level : Level) : Option OptionSpec :=
  match level.pending with
  | some (.option option none) => some option
  | _ => none

def switch (level : Level) (option : OptionSpec) : Except UsageError Level := do
  let level ← level.settle
  if option = helpOption then .error .help
  else if option = versionOption then .error (.version level.command)
  else level.addOption option none

/-- Reads an option with the value that is attached to it, if any. -/
def option (level : Level) (option : OptionSpec) (attached : Option String) :
    Except UsageError Level := do
  let level ← level.settle
  match attached with
  | some value => level.addOption option (some value)
  | none => .ok { level with pending := some (.option option none) }

def long (level : Level) (text : List Char) : Except UsageError Level :=
  let name := text.takeWhile (· != '=')
  let attached := (text.drop name.length).tail?.map String.ofList
  match level.options.find? (·.name == String.ofList name) with
  | none => .error (.unknownArgument (String.ofList text))
  | some option =>
    if option.kind.isSome then level.option option attached
    else if attached.isSome then .error (.superfluousValue option.name)
    else level.switch option

/-- Reads an argument after its one dash: switches, and at the end possibly an option whose value
follows at once or after an equals sign. -/
def short (level : Level) : List Char → Except UsageError Level
  | [] => .ok level
  | char :: rest =>
    match level.options.find? (·.short == some char) with
    | none => .error (.unknownArgument (String.singleton char))
    | some option =>
      if option.kind.isSome then
        level.option option
          (match rest with
          | [] => none
          | '=' :: value => some (String.ofList value)
          | value => some (String.ofList value))
      else do (← level.switch option).short rest

/-- Reads an operand, if another one can be taken. -/
def operand? (level : Level) (operand : Operand) (value : String) :
    Option (Except UsageError Level) :=
  let earlier :=
    match level.pending with
    | some (.operand _ values) => values
    | _ => []
  if operand.many && !earlier.isEmpty then
    some (.ok { level with pending := some (.operand operand (earlier ++ [value])) })
  else if !operand.many && (!earlier.isEmpty || (level.given.lookup operand.name).isSome) then none
  else
    some (level.settle.map fun level =>
      { level with pending := some (.operand operand [value]) })

end Level

/-- A command that was read: how to build it, and from what. -/
structure Reading (α : Type) where
  build : Values → α
  values : Values

namespace Grammar

variable {α : Type}

def explain : Grammar α → List String → UsageError
  | _, [] => .help
  | .command _ _ _, name :: _ => .unknownCommand name
  | .group commands, name :: rest =>
    match commands.lookup name with
    | some grammar => grammar.explain rest
    | none => if name = helpCommand then (rest.head?.map .unknownCommand).getD .help else .unknownCommand name

/-- What is wrong with a value that no operand takes. -/
def surplus (grammar : Grammar α) (afterMark : Bool) (value : String) : UsageError :=
  let names := helpCommand :: grammar.commands.map (·.1)
  if grammar.commands.isEmpty || (afterMark && names.contains value) then .unknownArgument value
  else .unknownCommand value

def finish (grammar : Grammar α) (level : Level) : Except UsageError (Reading α) := do
  let level ← level.settle
  match grammar with
  | .group _ => .error (if level.given.isEmpty then .nothingGiven else .missingCommand)
  | .command _ operand build =>
    match operand with
    | some operand =>
      if !operand.many && (level.given.lookup operand.name).isNone then
        .error (.missingOperand operand.name)
      else .ok { build, values := [level.given] }
    | none => .ok { build, values := [level.given] }

def openLevel (general : List OptionSpec) (grammar : Grammar α) (command : List String) : Level where
  options := general ++ grammar.options ++ [helpOption, versionOption]
  command

/-- Reads the arguments of a command. After two dashes only operands follow. The arguments of a
nested command are read before the last one of the outer command is checked. -/
def read (general : List OptionSpec) : Grammar α → Level → Bool → List String →
    Except UsageError (Reading α)
  | grammar, level, _, [] => grammar.finish level
  | grammar, level, afterMark, argument :: rest =>
    let operand : Except UsageError (Reading α) :=
      match grammar.operand?.bind (level.operand? · argument) with
      | some level => do read general grammar (← level) afterMark rest
      | none => .error (grammar.surplus afterMark argument)
    if afterMark then operand
    else
      let nested :=
        if level.waiting?.isSome then none else grammar.commands.lookup argument
      match nested with
      | some inner => do
        let command := level.command ++ [argument]
        let reading ← read general inner (openLevel general inner command) false rest
        let level ← level.settle
        .ok { reading with values := level.given :: reading.values }
      | none =>
        if level.waiting?.isNone && !grammar.commands.isEmpty && argument = helpCommand then
          .error (grammar.explain rest)
        else match argument.toList, level.waiting? with
          | ['-', '-'], _ => read general grammar level true rest
          | '-' :: '-' :: text, _ => do read general grammar (← level.long text) false rest
          | '-' :: first :: text, _ => do read general grammar (← level.short (first :: text)) false rest
          | _, some option =>
            read general grammar
              { level with pending := some (.option option (some argument)) } false rest
          | _, none => operand

def parse (name : String) (general : List OptionSpec) (grammar : Grammar α)
    (arguments : List String) : Except UsageError α := do
  let reading ← grammar.read general (openLevel general grammar [name]) false arguments
  .ok (reading.build reading.values)

end Grammar

end TextScenario.CommandLine
