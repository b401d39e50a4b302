import Telemetry.Client
import Telemetry.Proofs.Device.History
import Telemetry.Proofs.Registry.Configuration
import Telemetry.Proofs.Registry.Reading

namespace Telemetry

theorem Device.Operation.uses_run {pings : Bool} (operation : Operation) (device : Device) :
    Online.Uses true pings (operation.run device) := by
  cases operation with
  | currentText name => exact Online.Uses.map ((device.uses_read name).bind fun _ => .pure _) _
  | reading name kind => exact (device.uses_reading name kind).map _
  | groupChannel group name =>
      exact Online.Uses.map ((device.uses_refresh group).bind fun _ => .pure _) _
  | refresh group => exact (device.uses_refresh group).map _

namespace Client

variable {α β : Type} (service : Service) (network : Network)

/-- What a computation comes to, with the service and the network that it leaves. -/
def outcome (act : Acting α) : (Except Fault α × Service) × Network :=
  (act.run.run service).run network

theorem outcome_bind (act : Acting α) (next : α → Acting β) :
    outcome service network (act >>= next) =
      match outcome service network act with
      | ((.ok value, service), network) => outcome service network (next value)
      | ((.error fault, service), network) => ((.error fault, service), network) := by
  -- with its layers off, a bind is a case split on the first outcome
  have hrun : outcome service network (act >>= next) =
      ((ExceptT.bindCont next (outcome service network act).1.1).run
        (outcome service network act).1.2).run (outcome service network act).2 := rfl
  rw [hrun]
  obtain ⟨⟨result, service⟩, network⟩ := outcome service network act
  cases result with
  | ok value => rfl
  | error fault => rfl

theorem outcome_attempt (act : Attempt α) :
    outcome service network (attempt act) =
      match act.run.run network with
      | (.ok value, network) => ((.ok value, service), network)
      | (.error fault, network) => ((.error (.binding fault), service), network) := by
  have hlift : outcome service network (liftM (StateT.lift act.run : StateT Service Online _)) =
      ((.ok (act.run.run network).1, service), (act.run.run network).2) := rfl
  rw [attempt, outcome_bind, hlift]
  obtain ⟨result, network⟩ := act.run.run network
  cases result with
  | ok value => rfl
  | error fault => rfl

theorem outcome_bindServers (config : Config) :
    outcome service network (bindServers config) =
      match (service.registry.configure config).run.run network with
      | (.ok registry, network) => ((.ok (), { service with registry }), network)
      | (.error fault, network) => ((.error (.binding fault), service), network) := by
  have hget : outcome service network get = ((.ok service, service), network) := rfl
  rw [bindServers, outcome_bind, hget]
  dsimp only
  rw [outcome_bind, outcome_attempt]
  obtain ⟨result, network⟩ := (service.registry.configure config).run.run network
  cases result with
  | ok registry => rfl
  | error fault => rfl

theorem outcome_enforce (config : Config) :
    outcome service network (enforce config) =
      match (service.registry.configure config).run.run network with
      | (.ok registry, network) =>
        ((.ok (), { service with registry, config := some config }), network)
      | (.error fault, network) => ((.error (.binding fault), service), network) := by
  rw [enforce, outcome_bind, outcome_bindServers]
  obtain ⟨result, network⟩ := (service.registry.configure config).run.run network
  cases result with
  | ok registry => rfl
  | error fault => rfl

theorem outcome_configure (files : Files) (folders : Folders) (given : Given) :
    outcome service network (configure files folders given) =
      match given.load files folders with
      | .error fault => ((.error (.file fault), service), network)
      | .ok config =>
        match (service.registry.configure config).run.run network with
        | (.ok registry, network) =>
          ((.ok config, { service with registry, config := some config }), network)
        | (.error fault, network) => ((.error (.binding fault), service), network) := by
  unfold configure
  cases given.load files folders with
  | error fault => rfl
  | ok config =>
      dsimp only
      rw [outcome_bind, outcome_enforce]
      obtain ⟨result, network⟩ := (service.registry.configure config).run.run network
      cases result with
      | ok registry => rfl
      | error fault => rfl

variable {service network}

/-- A fault of any kind leaves the service alone. -/
theorem unchanged_of_fault (config : Config) (files : Files) (folders : Folders) (given : Given)
    (fault : Fault) :
    ((outcome service network (bindServers config)).1.1 = .error fault →
      (outcome service network (bindServers config)).1.2 = service) ∧
    ((outcome service network (enforce config)).1.1 = .error fault →
      (outcome service network (enforce config)).1.2 = service) ∧
    ((outcome service network (configure files folders given)).1.1 = .error fault →
      (outcome service network (configure files folders given)).1.2 = service) := by
  rw [outcome_bindServers, outcome_enforce, outcome_configure]
  refine ⟨?_, ?_, ?_⟩
  · rcases (service.registry.configure config).run.run network with ⟨_ | registry, network'⟩
    · exact fun _ => rfl
    · exact nofun
  · rcases (service.registry.configure config).run.run network with ⟨_ | registry, network'⟩
    · exact fun _ => rfl
    · exact nofun
  · rcases given.load files folders with _ | loaded
    · exact fun _ => rfl
    · dsimp only
      rcases (service.registry.configure loaded).run.run network with ⟨_ | registry, network'⟩
      · exact fun _ => rfl
      · exact nofun

theorem enforced_of_ok {files : Files} {folders : Folders} {given : Given} {config : Config}
    (hok : (outcome service network (configure files folders given)).1.1 = .ok config) :
    ∃ after, ((service.registry.configure config).run.run network).1 = .ok after ∧
      (outcome service network (configure files folders given)).1.2 =
        { service with registry := after, config := some config } := by
  rw [outcome_configure] at *
  cases hload : given.load files folders with
  | error fault =>
      rw [hload] at hok
      contradiction
  | ok loaded =>
      rw [hload] at hok
      dsimp only at *
      generalize hrun : (service.registry.configure loaded).run.run network = configured at *
      obtain ⟨result, network'⟩ := configured
      cases result with
      | error fault => contradiction
      | ok registry =>
          obtain rfl : loaded = config := Except.ok.inj hok
          exact ⟨registry, by rw [hrun], rfl⟩

/-- In a world, each server of a configuration is bound to what its profile builds, and no other server
has a part in it. Only servers without a given profile are looked at, and none is tried by a read. A
fault leaves the service as it was. -/
theorem configure_per_server_and_atomic {registry : Registry} {world : World} {config : Config}
    (hworld : network.Shows world) (hids : Keyed.Distinct config.servers) :
    (∀ after, ((registry.configure config).run.run network).1 = .ok after →
      registry.IsConfigured world config after) ∧
    (∀ (registry' : Registry) (network' : Network) (config' : Config) (after after' : Registry)
        (id : Scalar),
      registry'.library = registry.library → registry'.preferStrong = registry.preferStrong →
      network'.Shows world → Keyed.Distinct config'.servers → config'.timeout = config.timeout →
      config'.servers.lookup id = config.servers.lookup id →
      ((registry.configure config).run.run network).1 = .ok after →
      ((registry'.configure config').run.run network').1 = .ok after' →
      after'.device? id = after.device? id) ∧
    (∃ tried, tried <+: config.servers ∧
      registry.Probes world config.timeout tried network
        ((registry.configure config).run.run network).2 ∧
      (((registry.configure config).run.run network).1.isOk → tried = config.servers)) ∧
    (∀ (later : Registry) (network' : Network) (server : Scalar) (channel : String) (kind : Kind),
      ((later.reading server channel kind).run network').2.pings = network'.pings) ∧
    (∀ (device : Device) (operation : Device.Operation) (network' : Network),
      ((operation.run device).run network').2.pings = network'.pings) ∧
    (∀ (service : Service) (network' : Network) (config' : Config) (files : Files)
        (folders : Folders) (given : Given),
      (∀ fault, (outcome service network' (bindServers config')).1.1 = .error fault →
        (outcome service network' (bindServers config')).1.2 = service) ∧
      (∀ fault, (outcome service network' (enforce config')).1.1 = .error fault →
        (outcome service network' (enforce config')).1.2 = service) ∧
      (∀ fault, (outcome service network' (configure files folders given)).1.1 = .error fault →
        (outcome service network' (configure files folders given)).1.2 = service) ∧
      (∀ used, (outcome service network' (configure files folders given)).1.1 = .ok used →
        ∃ after, ((service.registry.configure used).run.run network').1 = .ok after ∧
          (outcome service network' (configure files folders given)).1.2 =
            { service with registry := after, config := some used })) := by
  refine ⟨fun after hreturns => Registry.isConfigured hworld hids hreturns, ?_,
    registry.exists_probes_configure hworld config, ?_, ?_, ?_⟩
  · intro registry' network' config' after after' id hlibrary hprefer hworld' hids' htimeout hentry
      hreturns hreturns'
    exact Registry.device?_configure_eq hworld hworld' hids hids' hlibrary hprefer htimeout hreturns
      hreturns' hentry
  · intro later network' server channel kind
    exact (later.uses_reading server channel kind).pings_eq network'
  · intro device operation network'
    exact (operation.uses_run device).pings_eq network'
  · intro service network' config' files folders given
    refine ⟨fun fault => ?_, fun fault => ?_, fun fault => ?_, fun used => enforced_of_ok⟩
    · exact (unchanged_of_fault config' files folders given fault).1
    · exact (unchanged_of_fault config' files folders given fault).2.1
    · exact (unchanged_of_fault config' files folders given fault).2.2

section Meters

/-- A profile of a meter that is recognised by a page. -/
def meterSource : Profile where
  name := "meter"
  origin := "meter.yaml"
  properties := Device.meterProfile ++ [("test.url", "%\x7bbase\x7d/id"), ("test.expr", "meter.*")]

/-- A world with one meter. -/
def meterWorld : World where
  page url := if url = "http://east/id" then some "meter 7" else none
  reaches _ _ := true

/-- A server to find a profile for, one with a given profile, and one that nothing is known of. -/
def meterConfig : Config where
  servers := [(.text "east", ⟨"east", none⟩), (.text "west", ⟨"west", some "meter"⟩),
    (.text "south", ⟨"south", none⟩)]
  timeout := 3000
  granularity := 1000

def meterRegistry : Registry where
  library := [meterSource]

theorem configure_meters :
    (Network.ofWorld meterWorld).Shows meterWorld ∧ Keyed.Distinct meterConfig.servers ∧
      ∃ after, ((meterRegistry.configure meterConfig).run.run (.ofWorld meterWorld)).1 = .ok after ∧
        meterRegistry.IsConfigured meterWorld meterConfig after ∧
        after.devices.keys.map Scalar.toText = ["east", "west"] := by
  have hworld : (Network.ofWorld meterWorld).Shows meterWorld := Network.shows_ofWorld _
  have hids : Keyed.Distinct meterConfig.servers := by
    unfold Keyed.Distinct
    decide
  have hkeys : ((meterRegistry.configure meterConfig).run.run (.ofWorld meterWorld)).1.toOption.map
      (·.devices.keys.map Scalar.toText) = some ["east", "west"] := by decide +kernel
  cases hrun : ((meterRegistry.configure meterConfig).run.run (.ofWorld meterWorld)).1 with
  | error fault =>
      rw [hrun] at hkeys
      contradiction
  | ok after =>
      rw [hrun] at hkeys
      have hconfigured := (configure_per_server_and_atomic hworld hids).1 after hrun
      exact ⟨hworld, hids, after, rfl, hconfigured, Option.some.inj hkeys⟩

end Meters

end Client

end Telemetry
