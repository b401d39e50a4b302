import Telemetry.CommandLine

/-!
The program: reads the files that a command may need, runs the command, and writes what it has to
say. It has no connection to a network, so no host is in reach and no page is served; a poll makes
one round, since a second one would find the same.
-/

namespace Telemetry.Program

def withoutHosts (now : Int) : Network where
  now
  answer := fun _ _ => .failed
  reaches := fun _ _ => false

/-- What is at a path, if anything. -/
def entryAt (path : String) : IO (Option FileEntry) := do
  let file := System.mkFilePath [path]
  if ← file.isDir then pure (some .folder)
  else if ← file.pathExists then pure (some (.file (← IO.FS.readBinFile file).toList))
  else pure none

def addEntry (files : Files) (path : String) : IO Files := do
  match ← entryAt path with
  | some entry => pure (files.put (Path.target path) entry)
  | none => pure files

def pathsIn (folder : String) : IO (List String) := do
  let file := System.mkFilePath [folder]
  if ← file.isDir then
    pure ((← file.readDir).toList.map fun entry => Path.below folder entry.fileName)
  else pure []

/-- The files that a command may need. -/
def filesFor (folders : Folders) (config : Option String) : IO Files := do
  let profiles ← folders.profiles.mapM pathsIn
  let paths := folders.profiles ++ profiles.flatten ++ [config.getD folders.defaultConfig]
  paths.foldlM addEntry []

def userFolders : IO Folders := do
  let home := (← IO.getEnv "HOME").getD "."
  pure (.ofHome (← IO.getEnv "XDG_CONFIG_HOME") (← IO.getEnv "XDG_DATA_HOME") home
    (← IO.appDir).toString)

/-- Writes the outcome of a command and the records that are to be seen. -/
def report (outcome : Outcome) (seen : Log.Journal) : IO Unit := do
  for entry in seen do
    IO.eprintln (entry.level.name ++ " " ++ entry.source.name ++ ": " ++ entry.text)
  IO.eprint outcome.output.errors
  IO.print outcome.output.shown
  if outcome.stop.isSome then IO.eprintln "The command could not be finished."

/-- Runs the command line, and gives the exit code of its outcome. -/
def run (arguments : List String) : IO UInt32 := do
  let folders ← userFolders
  let invocation := Invocation.parse arguments
  let files ← filesFor folders (invocation.bind (·.command.config?))
  let now ← IO.monoMsNow
  let (outcome, network) := (CommandLine.run ⟨files, folders, 1⟩ arguments).run (withoutHosts now)
  let isSeen := fun (entry : Log.Entry) =>
    (invocation.map (·.verbose)).getD false || entry.level == .warning || entry.level == .error
  report outcome (network.journal.filter isSeen)
  if outcome.exit == 2 then IO.eprintln CommandLine.usage
  pure (UInt32.ofNat outcome.exit)

end Telemetry.Program

def main (arguments : List String) : IO UInt32 :=
  Telemetry.Program.run arguments
