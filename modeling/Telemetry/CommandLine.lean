import Telemetry.Config.File
import Telemetry.Library.Packaged
import Telemetry.Service

namespace Telemetry

/-- What the command line can be asked for. -/
inductive Command where
  | profiles
  | probe (host : String) (preferStrong everything : Bool)
  | get (server channel : String) (kind : Kind) (config : Option String)
  | poll (config : Option String) (once : Bool)
deriving DecidableEq, Repr

/-- The path that is named for the configuration. -/
def Command.config? : Command → Option String
  | profiles => none
  | probe _ _ _ => none
  | get _ _ _ config => config
  | poll config _ => config

/-- A command, and whether everything that is reported is shown as well. -/
structure Invocation where
  command : Command
  verbose : Bool
deriving DecidableEq, Repr

namespace Invocation

/-- The options and the arguments of a command. -/
structure Words where
  flags : List String := []
  /-- The values of options, the latest first. -/
  values : List (String × String) := []
  arguments : List String := []
deriving DecidableEq, Repr

/-- Splits an option at its equals sign. -/
def splitOption (word : String) : String × Option String :=
  let cs := word.toList
  match cs.dropWhile (· ≠ '=') with
  | _ :: value => (String.ofList (cs.takeWhile (· ≠ '=')), some (String.ofList value))
  | [] => (word, none)

/-- Is the word an option? A hyphen alone is none. -/
def isOption (word : String) : Bool :=
  word.toList.head? == some '-' && word ≠ "-"

/-- Sorts the words of a command, given the names of its flags and of its options with a value. Behind
two hyphens all words are arguments. -/
def sortWords (flags options : List String) : List String → Option Words
  | [] => some {}
  | "--" :: rest => some { arguments := rest }
  | word :: rest =>
    if isOption word then
      match splitOption word with
      | (name, none) =>
        if name ∈ flags then
          (sortWords flags options rest).map fun words => { words with flags := name :: words.flags }
        else if name ∈ options then
          match rest with
          | value :: rest => (sortWords flags options rest).map fun words =>
              { words with values := words.values ++ [(name, value)] }
          | [] => none
        else none
      | (name, some value) =>
        if name ∈ options then
          (sortWords flags options rest).map fun words =>
            { words with values := words.values ++ [(name, value)] }
        else none
    else
      (sortWords flags options rest).map fun words =>
        { words with arguments := word :: words.arguments }

def commandOf (name : String) (rest : List String) : Option Command := do
  match name with
  | "profiles" =>
    match (← sortWords [] [] rest).arguments with
    | [] => some .profiles
    | _ => none
  | "probe" =>
    let words ← sortWords ["--strong", "--all"] [] rest
    match words.arguments with
    | [host] => some (.probe host ("--strong" ∈ words.flags) ("--all" ∈ words.flags))
    | _ => none
  | "get" =>
    let words ← sortWords [] ["--kind", "--config"] rest
    match words.arguments with
    | [server, channel] =>
      let kind ← (Kind.parse ((words.values.lookup "--kind").getD "text")).toOption
      some (.get server channel kind (words.values.lookup "--config"))
    | _ => none
  | "poll" =>
    let words ← sortWords ["--once"] ["--config"] rest
    match words.arguments with
    | [] => some (.poll (words.values.lookup "--config") ("--once" ∈ words.flags))
    | _ => none
  | _ => none

/-- Is the word one or more of the flag for showing everything? -/
def isVerbose (word : String) : Bool :=
  word == "--verbose" ||
    match word.toList with
    | '-' :: letters => !letters.isEmpty && letters.all (· == 'v')
    | _ => false

/-- What the arguments ask for; nothing where they are wrong. -/
def parse : List String → Option Invocation
  | [] => none
  | word :: rest =>
    if isVerbose word then (parse rest).map fun invocation => { invocation with verbose := true }
    else if word = "--" then
      match rest with
      | name :: rest => (commandOf name rest).map (⟨·, false⟩)
      | [] => none
    else if isOption word then none
    else (commandOf word rest).map (⟨·, false⟩)

end Invocation

/-- What ends a command early. -/
inductive Stop where
  /-- An error that is told to the user. -/
  | told (message : String)
  /-- Nothing more to say. -/
  | failed
  | fault (fault : Fault)
  | file (fault : FileFault)
  | config (fault : Config.FileFault)
  /-- Ids of servers that cannot be put in order or in one line. -/
  | mixedIds
deriving Repr

structure Output where
  shown : String := ""
  errors : String := ""
deriving DecidableEq, Repr

abbrev Running := ExceptT Stop (StateT Output Online)

namespace Running

def line (text : String) : Running Unit :=
  modify fun output => { output with shown := output.shown ++ text ++ "\n" }

def errorLine (text : String) : Running Unit :=
  modify fun output => { output with errors := output.errors ++ text ++ "\n" }

def online {α : Type} (act : Online α) : Running α :=
  ExceptT.lift (StateT.lift act)

def attempt {α : Type} (act : Attempt α) : Running α := do
  match ← online act.run with
  | .ok result => pure result
  | .error fault => throw (.fault fault)

def refuse {α : Type} (refusal : Service.Refusal) : Running α :=
  match refusal.message? with
  | some message => throw (.told message)
  | none => throw .mixedIds

end Running

/-- What a command works with: files, folders, and how many ticks a poll makes before it is
interrupted. -/
structure Surroundings where
  files : Files
  folders : Folders
  ticks : Nat

namespace Command

open Running

/-- The service, with the warnings of its library written. -/
def service (surroundings : Surroundings) (preferStrong : Bool) : Running Service := do
  let folders := surroundings.folders
  let start := Service.start (Library.packaged folders.package) surroundings.files folders preferStrong
  match ← online (Online.noting start.run) with
  | .error fault => throw (.file fault)
  | .ok service =>
    for warning in service.warnings do errorLine ("Warning: " ++ warning)
    pure service

/-- The service with the configuration in a file. -/
def configured (surroundings : Surroundings) (path : Option String) : Running Service := do
  let service ← service surroundings false
  match Config.load surroundings.files surroundings.folders path with
  | .ok config => attempt (service.configure config)
  | .error fault =>
    throw (if fault.fault.isContained then .told fault.message else .config fault.fault)

def showProfile (profile : Profile) : Running Unit := do
  let device ← attempt (Attempt.building (Service.describe profile))
  line (device.name ++ " (" ++ device.maturity ++ "): " ++ profile.origin)
  for name in Text.sorted device.groups.keys do
    match device.group? name with
    | some group => line ("  " ++ name ++ ": " ++ ", ".intercalate group.names)
    | none => pure ()

def showProfiles (surroundings : Surroundings) : Running Unit := do
  let service ← service surroundings false
  if service.profiles.isEmpty then
    line "No profiles loaded"
    throw .failed
  for profile in service.profiles do showProfile profile

/-- Writes the profile that fits a host, or how well each profile does. -/
def showProbe (surroundings : Surroundings) (host : String) (preferStrong everything : Bool) :
    Running Unit := do
  let service ← service surroundings preferStrong
  if everything then
    let results ← attempt (service.probeAll host Refresh.defaultTimeout)
    for (name, strength) in results do line (name ++ ": " ++ Service.strengthWord strength)
  else
    match ← attempt (service.discover host) with
    | .ok profile => line (host ++ " -> " ++ profile.name)
    | .error refusal => refuse refusal

def showValue (surroundings : Surroundings) (server channel : String) (kind : Kind)
    (config : Option String) : Running Unit := do
  let service ← configured surroundings config
  match (← online (service.reading (.text server) channel kind)).2 with
  | .error refusal => refuse refusal
  | .ok (some reading) => line (server ++ ":" ++ channel ++ " = " ++ reading.toText)
  | .ok none =>
    errorLine ("No value available for " ++ server ++ ":" ++ channel)
    throw .failed

def publish (published : List Publication) : Running Unit :=
  for item in published do line (item.binding.name ++ "=" ++ item.reading.toText)

/-- Writes the values of all bindings, once or until the poll is interrupted. -/
def showValues (surroundings : Surroundings) (config : Option String) (once : Bool) :
    Running Unit := do
  let service ← configured surroundings config
  if once then
    let (_, published) ← online (service.poller.tick service.registry)
    publish published
  else
    let (_, run) ← online (service.run surroundings.ticks)
    publish run.published
    match run.fault with
    | some fault => throw (.fault fault)
    | none => pure ()

def run (surroundings : Surroundings) : Command → Running Unit
  | profiles => showProfiles surroundings
  | probe host preferStrong everything => showProbe surroundings host preferStrong everything
  | get server channel kind config => showValue surroundings server channel kind config
  | poll config once => showValues surroundings config once

end Command

/-- What comes of a command line: the exit code, what was written, and what ended the command where
that is no error to be told. -/
structure Outcome where
  exit : Nat
  output : Output := {}
  stop : Option Stop := none
deriving Repr

namespace Outcome

def ofResult (output : Output) : Except Stop Unit → Outcome
  | .ok _ => { exit := 0, output }
  | .error (.told message) =>
    { exit := 1, output := { output with errors := output.errors ++ "Error: " ++ message ++ "\n" } }
  | .error .failed => { exit := 1, output }
  | .error stop => { exit := 1, output, stop := some stop }

def usage : Outcome := { exit := 2 }

end Outcome

namespace CommandLine

def usage : String :=
  "Usage: telemetry [--verbose] profiles\n" ++
  "       telemetry [--verbose] probe HOST [--strong] [--all]\n" ++
  "       telemetry [--verbose] get SERVER VARIABLE [--kind KIND] [--config FILE]\n" ++
  "       telemetry [--verbose] poll [--config FILE] [--once]"

def run (surroundings : Surroundings) (arguments : List String) : Online Outcome := do
  match Invocation.parse arguments with
  | none => pure .usage
  | some invocation =>
    let (result, output) ← ((invocation.command.run surroundings).run).run {}
    pure (.ofResult output result)

end CommandLine

end Telemetry
