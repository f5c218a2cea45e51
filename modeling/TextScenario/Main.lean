import Std.Async.DNS
import Std.Async.TCP
import Std.Internal.UV.System
import TextScenario.CommandLine.Program
import TextScenario.Session.Exchange
import TextScenario.Session.Wire
/-!
The program at work. The files that a command bears on are read, the command is carried out on
them as values, and what it changed is written back. A request that comes up is sent, and the
command is then carried out anew with the answer.
-/

namespace TextScenario.Main

open CommandLine

def refusalOf : IO.Error → String
  | .permissionDenied .. => "Permission denied (os error 13)"
  | failure => toString failure

/-- Reads what lies on a path, which starts in a directory that is read already. If the path leads
to a directory, its entries can be read as well. -/
partial def readPath (entries : Bool) (files : FileSystem) (location : Location) :
    List String → IO FileSystem
  | "" :: rest | "." :: rest => readPath entries files location rest
  | ".." :: rest => readPath entries files location.dropLast rest
  | name :: rest => do
    let next := location ++ [name]
    let place := (IO.FS.DirEntry.mk (FileSystem.absolutePath next) "").root
    match ← place.symlinkMetadata.toBaseIO with
    | .error _ => return files
    | .ok data =>
      match data.type with
      | .dir => readPath entries (files.put next .directory) next rest
      | .file =>
        match ← (IO.FS.readBinFile place).toBaseIO with
        | .ok bytes => return files.put next (.file bytes)
        | .error failure => return files.put next (.file { bytes := .empty, refusal := refusalOf failure })
      | .symlink =>
        match ← (IO.FS.realPath place).toBaseIO with
        | .error _ => return files
        | .ok target =>
          let files := files.put next (.link target.toString)
          readPath entries files [] (FileSystem.rawNames target.toString ++ rest)
      | .other => return files
  | [] => do
    if !entries then return files
    let place := (IO.FS.DirEntry.mk (FileSystem.absolutePath location) "").root
    (← place.readDir).foldlM
      (fun files entry => readPath false files location [entry.fileName]) files

def readPaths (files : FileSystem) (paths : List String) : IO FileSystem :=
  paths.foldlM
    (fun files path =>
      let start := if FilePath.isAbsolute path then [] else files.working
      readPath true files start (FileSystem.rawNames path))
    files

/-- The working directory with nothing in it. -/
def bareFiles : IO FileSystem := do
  let working := (FileSystem.rawNames (← IO.currentDir).toString).filter (!·.isEmpty)
  let above := (List.range working.length).map fun count => working.take (count + 1)
  return { working, entries := above.map fun location => (location, .directory) }

/-- The paths that a command looks at besides the configuration. -/
def pathsOf (settings : Settings) (command : Command) : List String :=
  let named :=
    match command with
    | .run files _ => files
    | .parse file => [file]
    | _ => []
  [settings.scenariosDirectory, settings.execution.cacheDirectory, settings.cacheFile,
    ChangeCache.temporaryPath settings.cacheFile] ++ named

/-- Reads the configuration first, since it names other places to read. -/
def readFiles (environment : Environment) (invocation : Invocation) : IO FileSystem := do
  let bare ← bareFiles
  match Settings.resolve bare environment invocation.settings with
  | .error _ => return bare
  | .ok plain =>
    let files ← readPaths bare [plain.configDirectory]
    match Settings.resolve files environment invocation.settings with
    | .error _ => return files
    | .ok settings => readPaths files (pathsOf settings invocation.command)

/-- Writes back what changed. A file is replaced as a whole. -/
def writeFiles (before after : FileSystem) : IO Unit := do
  for (location, entry) in after.entries.reverse do
    let path := FileSystem.absolutePath location
    match entry, before.entry? location with
    | .directory, none => IO.FS.createDirAll path
    | .file content, some (.file old) => if content ≠ old then replaceFile path content
    | .file content, _ => replaceFile path content
    | _, _ => pure ()
  for (location, _) in before.entries do
    if (after.entry? location).isNone then
      IO.FS.removeFile (FileSystem.absolutePath location)
where
  replaceFile (path : String) (content : ByteArray) : IO Unit := do
    let fresh := path ++ ".new"
    IO.FS.writeBinFile fresh content
    IO.FS.rename fresh path

def socketAddress (port : Nat) : Std.Net.IPAddr → Std.Net.SocketAddress
  | .v4 address => .v4 ⟨address, port.toUInt16⟩
  | .v6 address => .v6 ⟨address, port.toUInt16⟩

/-- Sends a request. Only plain connections can be made. -/
def post (request : HttpRequest) : IO (Option HttpResponse) := do
  if request.url.secure then return none
  try
    let port := request.url.port
    let host := String.ofList (request.url.host.toList.filter fun char => char != '[' && char != ']')
    let found : Array Std.Net.IPAddr ← (Std.Async.DNS.getAddrInfo host (toString port)).block
    let some address := found.toList.head? | return none
    let socket ← Std.Async.TCP.Socket.Client.mk
    (socket.connect (socketAddress port address)).block
    (socket.send request.bytes).block
    let mut received := ByteArray.empty
    repeat
      match ← (socket.recv? 65536).block with
      | some piece => received := received ++ piece
      | none => break
    return HttpResponse.ofBytes? received
  catch _ => return none

/-- Repeats a computation until every request in it has an answer. -/
partial def settled {α : Type} (run : Exchange → α) (after : α → Exchange) (exchange : Exchange) :
    IO α := do
  let result := run exchange
  match (after result).unanswered with
  | none => return result
  | some request => settled run after (exchange.learn (← post request))

def processEnvironment : IO Environment := do
  return ⟨(← Std.Internal.UV.System.osEnviron).toList⟩

/-- Prints at once, so that a watch shows what it does. -/
def say (output : String) : IO Unit := do
  IO.print output
  (← IO.getStdout).flush

/-- Polls for as long as no round fails. -/
partial def watch (surroundings : Surroundings Exchange) (settings : Settings)
    (invocation : Invocation) (options : MonitorOptions) (dryRun : Bool) (current : Watch Exchange) :
    IO FileFailure := do
  let files ← readFiles surroundings.environment invocation
  let current := { current with files }
  let fresh := current.monitor.fresh files
  match fresh with
  | .error failure => return failure
  | .ok [] =>
    IO.sleep options.pollInterval.toUInt32
    watch surroundings settings invocation options dryRun current
  | .ok _ =>
    IO.sleep options.debounce.toUInt32
    let files ← readFiles surroundings.environment invocation
    let round ← settled
      (fun exchange =>
        let executor := { current.executor with state := exchange }
        { current with files, executor }.round surroundings settings invocation.output dryRun)
      (·.watch.executor.state) current.executor.state
    say round.output
    writeFiles files round.watch.files
    match round.result with
    | .error failure => return failure
    | .ok () =>
      IO.sleep options.pollInterval.toUInt32
      watch surroundings settings invocation options dryRun round.watch

def fail (error : ProgramError) : IO UInt32 := do
  match error with
  | .usage .help =>
    let names := Invocation.grammar.commands.map (·.1)
    IO.println ("Usage: " ++ programName ++ " [OPTIONS] <COMMAND>\n\nCommands: " ++
      ", ".intercalate names)
  | .usage (.version command) => IO.print (versionText command)
  | error => IO.eprintln error.report
  return error.exitStatus.toUInt32

/-- Watches until a round fails or the process is stopped. -/
def serve (surroundings : Surroundings Exchange) (invocation : Invocation)
    (options : MonitorOptions) (dryRun : Bool) : IO UInt32 := do
  let files ← readFiles surroundings.environment invocation
  match invocation.prepare files surroundings.environment with
  | .error error => fail error
  | .ok settings =>
    say (watchHeading settings)
    let first := Watch.start surroundings settings { files, server := {} }
    let failure ← watch surroundings settings invocation options dryRun first
    fail (.command (.failed .watch failure))

/-- Carries out any other command. -/
def carryOut (surroundings : Surroundings Exchange) (invocation : Invocation)
    (arguments : List String) : IO UInt32 := do
  let files ← readFiles surroundings.environment invocation
  let completion ← settled
    (fun exchange => CommandLine.run surroundings arguments [] { files, server := exchange })
    (·.world.server) {}
  IO.print completion.output
  writeFiles files completion.world.files
  match completion.verdict with
  | .ok _ => return completion.exitStatus.toUInt32
  | .error error => fail error

end TextScenario.Main

open TextScenario CommandLine in
def main (arguments : List String) : IO UInt32 := do
  match Invocation.ofArguments arguments with
  | .error error => Main.fail (.usage error)
  | .ok invocation =>
    let surroundings : Surroundings Exchange :=
      { environment := ← Main.processEnvironment, server := Exchange.server }
    match invocation.command with
    | .watch options dryRun => Main.serve surroundings invocation options dryRun
    | _ => Main.carryOut surroundings invocation arguments
