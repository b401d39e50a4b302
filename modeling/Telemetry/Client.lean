import Telemetry.Config.File
import Telemetry.Service

namespace Telemetry.Client

/-- Why a configuration is not in force. -/
inductive Fault where
  | file (fault : Config.LoadFault)
  | binding (fault : Telemetry.Fault)
deriving Repr

/-- A computation on a service. -/
abbrev Acting := ExceptT Fault (StateT Service Online)

def attempt {α : Type} (act : Attempt α) : Acting α := do
  match ← (StateT.lift act.run : StateT Service Online _) with
  | .ok result => pure result
  | .error fault => throw (.binding fault)

/-- Binds the servers of a configuration in the service's registry. -/
def bindServers (config : Config) : Acting Unit := do
  let registry ← attempt ((← get).registry.configure config)
  modify fun service => { service with registry }

def enforce (config : Config) : Acting Unit := do
  bindServers config
  modify fun service => { service with config := some config }

/-- What a caller gives for a configuration: the configuration itself, or a file if not that of the
user. -/
inductive Given where
  | config (config : Config)
  | file (path : Option String)

def Given.load (files : Files) (folders : Folders) : Given → Except Config.LoadFault Config
  | config chosen => .ok chosen
  | file path => Config.load files folders path

def configure (files : Files) (folders : Folders) (given : Given) : Acting Config :=
  match given.load files folders with
  | .error fault => throw (.file fault)
  | .ok config => do
    enforce config
    pure config

end Telemetry.Client
