namespace Telemetry.Log

inductive Level where
  | debug
  | info
  | warning
  | error
deriving DecidableEq, Repr

def Level.name : Level → String
  | debug => "DEBUG"
  | info => "INFO"
  | warning => "WARNING"
  | error => "ERROR"

inductive Source where
  | template
  | refresh
  | model
  | codeTable
  | values
  | profile
  | matching
  | registry
  | poller
  | library
  | http
  | tcp
deriving DecidableEq, Repr

def Source.name : Source → String
  | template => "core.template"
  | refresh => "core.refresh"
  | model => "core.model"
  | codeTable => "core.transformer"
  | values => "core.values"
  | profile => "core.profile"
  | matching => "core.device_match"
  | registry => "core.registry"
  | poller => "core.poller"
  | library => "core.profile_loader"
  | http => "transports.http"
  | tcp => "transports.tcp"

structure Entry where
  level : Level
  source : Source
  text : String
deriving DecidableEq, Repr

/-- The records so far, oldest first. -/
abbrev Journal := List Entry

/-- A computation that may add records to a journal. -/
abbrev Noting := StateM Journal

def note (entry : Entry) : Noting Unit :=
  modify (· ++ [entry])

def noteAll (entries : List Entry) : Noting Unit :=
  modify (· ++ entries)

end Telemetry.Log
