import Telemetry.FileReader
import Telemetry.Profile.Reader

namespace Telemetry

/-- A library: the profiles by name, and what was reported while they were loaded. -/
structure Library where
  profiles : Keyed String Profile := []
  warnings : List String := []
deriving DecidableEq, Repr

def Profile.ofFile (files : Files) (path : String) : Except FileFault Profile := do
  let document ← Document.ofFile files path
  match Profile.ofDocument document path with
  | .ok profile => .ok profile
  | .error rejection => .error (.rejected rejection)

namespace Library

/-- The profiles in ascending order of their names. -/
def ordered (library : Library) : List Profile :=
  (Text.sorted library.profiles.keys).filterMap (library.profiles.lookup ·)

/-- The profiles that come with the program, a later one in place of an earlier one of its name. -/
def ofPackaged (profiles : List Profile) : Library where
  profiles := Keyed.ofList (profiles.map fun profile => (profile.name, profile))

/-- Is a file of that name among those that come with the program taken for a profile? -/
def isPackagedName (name : String) : Bool :=
  ".yml".toList.isSuffixOf name.toList || ".yaml".toList.isSuffixOf name.toList

/-- The profiles in a folder that comes with the program, by the names of their files. A file that is
none ends the reading. -/
def ofFolder (files : Files) (folder : String) : Except FileFault (List Profile) :=
  ((files.names folder).filter isPackagedName).mapM fun name =>
    Profile.ofFile files (Path.below folder name)

/-- Is a file of that name taken for a profile? -/
def isProfileName (name : String) : Bool :=
  Path.suffix name = ".yml" || Path.suffix name = ".yaml"

/-- The files of a folder that are taken for profiles, by name. -/
def filesOf (files : Files) (folder : String) : List String :=
  match files.at? folder with
  | some .folder => ((files.names folder).filter isProfileName).map (Path.below folder)
  | _ => []

def warn (library : Library) (level : Log.Level) (text : String) : Log.Noting Library := do
  Log.note ⟨level, .library, text⟩
  pure { library with warnings := library.warnings ++ [text] }

/-- Adds a profile. One that takes the place of another is reported. -/
def add (library : Library) (profile : Profile) : Log.Noting Library := do
  let library ←
    if library.profiles.has profile.name then
      library.warn .warning ("User profile '" ++ profile.name ++ "' overrides packaged profile")
    else pure library
  pure { library with profiles := library.profiles.put profile.name profile }

/-- Adds the profile in a file. A contained fault is reported, and the file skipped. -/
def addFile (files : Files) (library : Library) (path : String) :
    ExceptT FileFault Log.Noting Library :=
  match Profile.ofFile files path with
  | .ok profile => library.add profile
  | .error fault =>
    if fault.isContained then
      library.warn .error ("Skipping user profile " ++ path ++ ": " ++ fault.message path)
    else throw fault

def load (packaged : List Profile) (files : Files) (folders : Folders) :
    ExceptT FileFault Log.Noting Library :=
  (folders.profiles.flatMap (filesOf files)).foldlM (addFile files) (ofPackaged packaged)

end Library

end Telemetry
