import Telemetry.Config
import Telemetry.FileReader

namespace Telemetry.Config

inductive FileFault where
  | missing
  | unusable (fault : Telemetry.FileFault)
  | invalid (fault : Fault)
deriving Repr

namespace FileFault

/-- Is the fault one of the configuration? The others end whatever asks for it. -/
def isContained : FileFault → Bool
  | missing => true
  | unusable fault => fault.isContained
  | invalid fault => fault.isTold

def message (path : String) : FileFault → String
  | missing => "Configuration file " ++ path ++ " does not exist"
  | unusable fault => fault.message path
  | invalid fault => fault.message path

end FileFault

structure LoadFault where
  path : String
  fault : FileFault
deriving Repr

def LoadFault.message (fault : LoadFault) : String :=
  fault.fault.message fault.path

def ofFile (files : Files) (path : String) : Except FileFault Config :=
  if (files.at? path).isNone then .error .missing
  else
    match Document.ofFile files path with
    | .error fault => .error (.unusable fault)
    | .ok document =>
      match ofDocument document with
      | .error fault => .error (.invalid fault)
      | .ok config => .ok config

/-- The configuration in a named file, else in the one of the user. -/
def load (files : Files) (folders : Folders) (path : Option String) : Except LoadFault Config :=
  let path := (path.map Path.normal).getD folders.defaultConfig
  match ofFile files path with
  | .ok config => .ok config
  | .error fault => .error ⟨path, fault⟩

end Telemetry.Config
