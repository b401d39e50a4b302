import Telemetry.Group
import Telemetry.Profile.Probe

namespace Telemetry

structure Device where
  name : String
  host : Option String
  maturity : String
  author : String
  /-- What the placeholders in the profile stand for. -/
  definitions : Definitions
  options : Keyed String String
  probe : Probe
  /-- The timeout of requests in milliseconds. -/
  timeout : Int
  groups : Keyed String Group := []
  tables : CodeTables := []
  /-- The group that each channel is read from. -/
  index : Keyed String String := []
deriving DecidableEq, Repr

namespace Device

def group? (device : Device) (name : String) : Option Group :=
  device.groups.lookup name

def table? (device : Device) (name : String) : Option CodeTable :=
  device.tables.lookup name

/-- The channel that is read under a name, with its group. -/
def channel? (device : Device) (name : String) : Option (Group × Channel) := do
  let group ← device.group? (← device.index.lookup name)
  let channel ← group.channel? name
  pure (group, channel)

/-- The names of all channels in ascending order. -/
def channelNames (device : Device) : List String :=
  Text.sorted device.index.keys

def withGroup (device : Device) (group : Group) : Device :=
  { device with groups := device.groups.put group.name group }

def withTable (device : Device) (table : CodeTable) : Device :=
  { device with tables := device.tables.put table.name table }

def withTimeout (device : Device) (timeout : Int) : Device :=
  { device with
    timeout
    groups := device.groups.map fun (name, group) => (name, { group with timeout })
    tables := device.tables.map fun (name, table) => (name, { table with timeout }) }

/-- A round of a group. The result tells whether new data was taken in. -/
def round (device : Device) (group : Group) : Online (Device × Bool) := do
  let ((tables, group), changed) ← group.round device.tables
  pure ({ device with tables }.withGroup group, changed)

/-- A round of the group of that name, if there is one. -/
def refresh (device : Device) (name : String) : Online (Device × Bool) :=
  match device.group? name with
  | some group => device.round group
  | none => pure (device, false)

/-- Decodes a value by a code table of the device. -/
def resolve (device : Device) (table value source target : String) :
    Online (Device × Option String) :=
  match device.table? table with
  | some table => do
    let (table, output) ← table.resolve value source target
    pure (device.withTable table, output)
  | none => pure (device, none)

/-- A channel of a group, after a round of the group. -/
def groupChannel (device : Device) (group name : String) : Online (Device × Option Channel) := do
  let (device, _) ← device.refresh group
  pure (device, (device.group? group).bind (·.channel? name))

/-- Takes a text in as if the device had sent it for a channel. -/
def update (device : Device) (name : String) (raw : Option String) : Online Device :=
  match device.channel? name with
  | some (group, channel) => do
    let (tables, channel) ← channel.update device.tables raw
    pure ({ device with tables }.withGroup (group.withChannel channel))
  | none => pure device

def unknownEntry (device : Device) (name : String) : Log.Entry :=
  ⟨.warning, .profile, "Variable " ++ name ++ " is not defined in profile " ++ device.name⟩

/-- Looks a channel up after a round of its group. A name that no channel has is reported. -/
def read (device : Device) (name : String) : Online (Device × Option Channel) := do
  match device.channel? name with
  | none =>
    Online.note (device.unknownEntry name)
    pure (device, none)
  | some (group, _) =>
    let (device, _) ← device.round group
    pure (device, (device.channel? name).map Prod.snd)

def currentText (device : Device) (name : String) : Online (Device × Option String) := do
  let (device, channel) ← device.read name
  pure (device, channel.bind (·.decoded))

/-- The current value of a channel, as the wanted kind where its type allows. -/
def reading (device : Device) (name : String) (kind : Kind) : Online (Device × Option Reading) := do
  let (device, channel) ← device.read name
  match channel with
  | none => pure (device, none)
  | some channel => pure (device, ← channel.reading device.tables kind)

end Device

end Telemetry
