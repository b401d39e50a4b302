import Telemetry.Config
import Telemetry.Device.Build
import Telemetry.Matching

namespace Telemetry

/-- A registry: the profiles to choose from, and the device of each server. -/
structure Registry where
  library : List Profile
  /-- Does a strong fit go before an earlier weak one? -/
  preferStrong : Bool := false
  devices : Keyed Scalar Device := []

namespace Registry

/-- A profile of the library by name; of several the last one. -/
def profile? (registry : Registry) (name : String) : Option Profile :=
  (Keyed.ofList (registry.library.map fun profile => (profile.name, profile))).lookup name

/-- The profile that is given for a server. One that the library does not have is reported. -/
def pinned (registry : Registry) (id : Scalar) (name : String) : Online (Option Profile) := do
  match registry.profile? name with
  | some profile => pure (some profile)
  | none =>
    Online.note ⟨.error, .registry, "Server " ++ id.toText ++ " pins unknown profile " ++ name⟩
    pure none

/-- The profile that fits a server. That there is none is reported. -/
def discovered (registry : Registry) (id : Scalar) (host : String) (timeout : Int) :
    Attempt (Option Profile) := do
  match ← Matching.discover registry.library host registry.preferStrong timeout with
  | some profile => pure (some profile)
  | none =>
    Online.note ⟨.warning, .registry, "No profile found for server " ++ id.toText ++ " (" ++ host ++
      "), it will report no data"⟩
    pure none

def profileFor (registry : Registry) (id : Scalar) (server : Server) (timeout : Int) :
    Attempt (Option Profile) :=
  match server.profile with
  | some name => registry.pinned id name
  | none => registry.discovered id server.host timeout

def deviceFor (registry : Registry) (id : Scalar) (server : Server) (timeout : Int) :
    Attempt (Option Device) := do
  match ← registry.profileFor id server timeout with
  | none => pure none
  | some profile =>
    let device ← Device.build profile.properties (some server.host) timeout
    Online.note ⟨.info, .registry, "Server " ++ id.toText ++ " (" ++ server.host ++
      ") bound to profile " ++ profile.name⟩
    pure (some device)

/-- The devices for servers, added to those there are. -/
def devicesFor (registry : Registry) (timeout : Int) (devices : Keyed Scalar Device) :
    Servers → Attempt (Keyed Scalar Device)
  | [] => pure devices
  | (id, server) :: servers => do
    match ← registry.deviceFor id server timeout with
    | some device => devicesFor registry timeout (devices.put id device) servers
    | none => devicesFor registry timeout devices servers

/-- The registry with the devices of a configuration, in place of those it had. -/
def configure (registry : Registry) (config : Config) : Attempt Registry := do
  pure { registry with devices := ← registry.devicesFor config.timeout [] config.servers }

/-- The ids of the servers that have a device in ascending order, if they have one. -/
def serverIds? (registry : Registry) : Option (List Scalar) :=
  Scalar.sorted? registry.devices.keys

def device? (registry : Registry) (server : Scalar) : Option Device :=
  registry.devices.lookup server

def withDevice (registry : Registry) (server : Scalar) (device : Device) : Registry :=
  { registry with devices := registry.devices.adjust server fun _ => device }

def withTimeout (registry : Registry) (timeout : Int) : Registry :=
  { registry with devices := registry.devices.map fun (id, device) => (id, device.withTimeout timeout) }

/-- The current value of a channel of a server, as the wanted kind where its type allows. A server
without a device is reported. -/
def reading (registry : Registry) (server : Scalar) (channel : String) (kind : Kind) :
    Online (Registry × Option Reading) := do
  match registry.device? server with
  | none =>
    Online.note ⟨.warning, .registry, "Server " ++ server.toText ++
      " is not configured or has no matching profile"⟩
    pure (registry, none)
  | some device =>
    let (device, reading) ← device.reading channel kind
    pure (registry.withDevice server device, reading)

end Registry

end Telemetry
