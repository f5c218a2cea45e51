import TextScenario.CommandLine.Grammar
import TextScenario.FileSystem.Operation
import TextScenario.Scenario.File
import TextScenario.Settings
/-!
Failures of the program. Each has a message and, where it has one, the chain of its causes.
-/

namespace TextScenario.CommandLine

/-- What a command does with scenario files and with the change cache. -/
inductive Activity where
  | list
  | scan
  | record
  | watch
  deriving DecidableEq, Repr

def Activity.failureText : Activity → String
  | .list => "failed to list scenarios"
  | .scan => "failed to scan scenarios"
  | .record => "failed to update change cache"
  | .watch => "scenario watch failed"

inductive CommandError where
  | scenario (error : ScenarioFileError)
  | failed (activity : Activity) (failure : FileFailure)
  deriving DecidableEq, Repr

inductive ProgramError where
  | usage (error : UsageError)
  | logLevel
  | settings (error : SettingsError)
  | command (error : CommandError)
  deriving DecidableEq, Repr

namespace CommandError

def message : CommandError → String
  | .scenario error => error.message
  | .failed activity _ => activity.failureText

def causes : CommandError → List String
  | .scenario error => error.causes
  | .failed _ failure => failure.message :: failure.causes

end CommandError

namespace UsageError

def message : UsageError → String
  | .help => "help requested"
  | .version _ => "version requested"
  | .nothingGiven | .missingCommand => "a command is required"
  | .missingOperand name => "missing argument: " ++ name
  | .unknownArgument argument => "unexpected argument: " ++ argument
  | .unknownCommand name => "unrecognized command: " ++ name
  | .missingValue name => "a value is required for " ++ name
  | .invalidValue name value | .malformedNumber name value =>
    "invalid value for " ++ name ++ ": " ++ value
  | .repeatedOption name => "given more than once: " ++ name
  | .superfluousValue name => "no value is expected for " ++ name

/-- To be asked for help or for the version is no failure. -/
def isRequest : UsageError → Bool
  | .help | .version _ => true
  | _ => false

end UsageError

namespace ProgramError

def message : ProgramError → String
  | .usage error => error.message
  | .logLevel => "Invalid log level"
  | .settings error => error.message
  | .command error => error.message

def causes : ProgramError → List String
  | .usage _ | .logLevel => []
  | .settings error => error.causes
  | .command error => error.causes

/-- A cause with its lines indented, and numbered if there are others. -/
def causeText (number : Option Nat) (cause : String) : String :=
  let start := (number.map fun index => "    " ++ toString index ++ ": ").getD "    "
  let further := if number.isSome then "       " else "    "
  start ++ ("\n" ++ further).intercalate ((Text.splitAt '\n' cause.toList).map String.ofList)

def report (error : ProgramError) : String :=
  let causes :=
    match error.causes with
    | [] => []
    | [cause] => [causeText none cause]
    | causes => causes.zipIdx.map fun (cause, index) => causeText (some index) cause
  let explained := if causes.isEmpty then [] else "" :: "Caused by:" :: causes
  "\n".intercalate (("Error: " ++ error.message) :: explained)

/-- The exit status: misuse is told apart from failure. -/
def exitStatus : ProgramError → Nat
  | .usage error => if error.isRequest then 0 else 2
  | _ => 1

end ProgramError

end TextScenario.CommandLine
