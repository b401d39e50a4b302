import Telemetry.Proofs.Document.ScalarKey
import Telemetry.Proofs.Keyed
import Telemetry.Proofs.Matching.Use
import Telemetry.Registry

/-!
What configuring comes to in a world. Which profile a server gets, and with it the device, is settled
by its own entry, the timeout and the library; the loop over the servers only puts the devices next to
each other, and ends at the first server that is a fault.
-/

namespace Telemetry

open Online

namespace Registry

variable (registry : Registry) (world : World) (timeout : Int)

/-- Discovering a profile for a server, in the plainest network of a world. -/
def discovery (server : Server) : Except Fault (Option Profile) × Network :=
  (Matching.discover registry.library server.host registry.preferStrong timeout).run.run
    (.ofWorld world)

/-- The profile that a server gets: the last one of the given name, or one that is discovered. -/
def sourceIn (server : Server) : Except Fault (Option Profile) :=
  match server.profile with
  | some name => .ok (registry.library.reverse.find? (·.name = name))
  | none => (registry.discovery world timeout server).1

/-- What becomes of a network when profiles are looked for, for some servers one after another. Those
with a given profile count for nothing. -/
structure Probes (servers : Servers) (before after : Network) : Prop where
  requests : after.requests = before.requests ++
    (servers.filter (·.2.profile.isNone)).flatMap fun entry =>
      (registry.discovery world timeout entry.2).2.requests
  pings : after.pings = before.pings ++
    (servers.filter (·.2.profile.isNone)).flatMap fun entry =>
      (registry.discovery world timeout entry.2).2.pings

end Registry

/-- The device that a profile makes for a server, if there is a profile. -/
def Server.deviceOf (server : Server) (timeout : Int) : Option Profile → Except Fault (Option Device)
  | none => .ok none
  | some profile => some <$> Device.built profile.properties (some server.host) timeout

def Registry.deviceIn (registry : Registry) (world : World) (timeout : Int) (server : Server) :
    Except Fault (Option Device) :=
  registry.sourceIn world timeout server >>= server.deviceOf timeout

/-- The device that a server gets; none if there is a fault. -/
def Registry.boundIn (registry : Registry) (world : World) (timeout : Int) (server : Server) :
    Option Device :=
  match registry.deviceIn world timeout server with
  | .ok bound => bound
  | .error _ => none

namespace Registry

variable {registry : Registry} {network : Network} {world : World}

theorem profile?_eq (name : String) :
    registry.profile? name = registry.library.reverse.find? (·.name = name) := by
  rw [profile?, Keyed.lookup_ofList, ← List.map_reverse, Keyed.lookup_map_key]
  rfl

theorem uses_profileFor (registry : Registry) (id : Scalar) (server : Server) (timeout : Int) :
    Uses false true (registry.profileFor id server timeout).run := by
  unfold profileFor
  split
  · unfold pinned
    refine Attempt.uses_liftM ?_
    split
    · exact .pure _
    · exact (Uses.note _).bind fun _ => .pure _
  · unfold discovered
    refine Attempt.uses_bind (Matching.uses_discover _ _ _ _) fun found => ?_
    split
    · exact Attempt.uses_pure _
    · exact Attempt.uses_bind (Attempt.uses_liftM (.note _)) fun _ => Attempt.uses_pure _

theorem uses_deviceFor (registry : Registry) (id : Scalar) (server : Server) (timeout : Int) :
    Uses false true (registry.deviceFor id server timeout).run := by
  unfold deviceFor
  refine Attempt.uses_bind (registry.uses_profileFor id server timeout) fun found => ?_
  split
  · exact Attempt.uses_pure _
  · refine Attempt.uses_bind (Attempt.uses_building (Device.gives_build _ _ _) :) fun device => ?_
    exact Attempt.uses_bind (Attempt.uses_liftM (.note _)) fun _ => Attempt.uses_pure _

theorem Probes.refl (timeout : Int) : registry.Probes world timeout [] network network :=
  ⟨(List.append_nil _).symm, (List.append_nil _).symm⟩

theorem Probes.cons {timeout : Int} {entry : Scalar × Server} {servers : Servers}
    {between after : Network} (hfirst : registry.Probes world timeout [entry] network between)
    (hrest : registry.Probes world timeout servers between after) :
    registry.Probes world timeout (entry :: servers) network after := by
  have hsplit : (entry :: servers).filter (·.2.profile.isNone) =
      [entry].filter (·.2.profile.isNone) ++ servers.filter (·.2.profile.isNone) := by
    rw [← List.filter_append, List.singleton_append]
  constructor
  · rw [hrest.requests, hfirst.requests, hsplit, List.flatMap_append, List.append_assoc]
  · rw [hrest.pings, hfirst.pings, hsplit, List.flatMap_append, List.append_assoc]

theorem Probes.of_given {timeout : Int} {entry : Scalar × Server} {after : Network}
    (hgiven : entry.2.profile.isSome) (hrequests : after.requests = network.requests)
    (hpings : after.pings = network.pings) :
    registry.Probes world timeout [entry] network after := by
  have hnone : [entry].filter (·.2.profile.isNone) = [] := by
    rw [List.filter_cons_of_neg (by simp [Option.isNone_eq_false_iff.mpr hgiven]), List.filter_nil]
  constructor
  · rw [hnone, hrequests, List.flatMap_nil, List.append_nil]
  · rw [hnone, hpings, List.flatMap_nil, List.append_nil]

theorem run_profileFor (registry : Registry) (hworld : network.Shows world) (id : Scalar)
    (server : Server) (timeout : Int) :
    ((registry.profileFor id server timeout).run.run network).1 =
        registry.sourceIn world timeout server ∧
      registry.Probes world timeout [(id, server)] network
        ((registry.profileFor id server timeout).run.run network).2 := by
  cases hprofile : server.profile with
  | some name =>
      have hgiven : ∀ after : Network, after.requests = network.requests →
          after.pings = network.pings → registry.Probes world timeout [(id, server)] network after :=
        fun _ => .of_given (by rw [hprofile]; rfl)
      simp only [profileFor, pinned, profile?_eq, sourceIn, hprofile]
      cases registry.library.reverse.find? (·.name = name) with
      | none => exact ⟨rfl, hgiven _ rfl rfl⟩
      | some profile => exact ⟨rfl, hgiven _ rfl rfl⟩
  | none =>
      have hone : [(id, server)].filter (·.2.profile.isNone) = [(id, server)] := by simp [hprofile]
      have hfound := (Matching.uses_discover registry.library server.host registry.preferStrong
        timeout).run_eq hworld
      have hprobes : registry.Probes world timeout [(id, server)] network
          ((Matching.discover registry.library server.host registry.preferStrong
            timeout).run.run network).2 := by
        constructor
        · rw [hone, List.flatMap_singleton]
          exact hfound.2.1
        · rw [hone, List.flatMap_singleton]
          exact hfound.2.2
      simp only [profileFor, discovered, sourceIn, discovery, hprofile, Attempt.run_run_bind]
      rw [← hfound.1]
      generalize (Matching.discover registry.library server.host registry.preferStrong
        timeout).run.run network = outcome at *
      obtain ⟨outcome, network'⟩ := outcome
      rcases outcome with fault | found | profile
      · exact ⟨rfl, hprobes⟩
      · exact ⟨rfl, hprobes.requests, hprobes.pings⟩
      · exact ⟨rfl, hprobes⟩

theorem run_deviceFor (registry : Registry) (hworld : network.Shows world) (id : Scalar)
    (server : Server) (timeout : Int) :
    ((registry.deviceFor id server timeout).run.run network).1 =
        registry.deviceIn world timeout server ∧
      registry.Probes world timeout [(id, server)] network
        ((registry.deviceFor id server timeout).run.run network).2 := by
  obtain ⟨hsource, hprobes⟩ := run_profileFor registry hworld id server timeout
  rw [deviceIn, ← hsource, deviceFor, Attempt.run_run_bind]
  generalize (registry.profileFor id server timeout).run.run network = outcome at *
  obtain ⟨outcome, network'⟩ := outcome
  rcases outcome with fault | found | profile
  · exact ⟨rfl, hprobes⟩
  · exact ⟨rfl, hprobes⟩
  · have hdevice : (Except.ok (some profile) >>= server.deviceOf timeout) =
        some <$> Device.built profile.properties (some server.host) timeout := rfl
    simp only [Attempt.run_run_bind, Attempt.run_run_liftM, hdevice]
    have hbuild := Device.gives_build profile.properties (some server.host) timeout network'.journal
    generalize (Device.build profile.properties (some server.host) timeout).run.run
      network'.journal = built at *
    obtain ⟨built, journal⟩ := built
    obtain rfl : built = Device.built profile.properties (some server.host) timeout := hbuild
    cases Device.built profile.properties (some server.host) timeout with
    | error fault => exact ⟨rfl, hprobes.requests, hprobes.pings⟩
    | ok device => exact ⟨rfl, hprobes.requests, hprobes.pings⟩

theorem devicesFor_returns (hworld : network.Shows world) {timeout : Int}
    {devices all : Keyed Scalar Device} {servers : Servers} (hdistinct : Keyed.Distinct servers)
    (hnew : ∀ entry ∈ servers, devices.lookup entry.1 = none)
    (hreturns : ((registry.devicesFor timeout devices servers).run.run network).1 = .ok all) :
    (∀ entry ∈ servers, ∃ bound, registry.deviceIn world timeout entry.2 = .ok bound) ∧
      all = devices ++ Keyed.selected (registry.boundIn world timeout) servers := by
  induction servers generalizing devices network with
  | nil =>
      obtain rfl : devices = all := Except.ok.inj hreturns
      exact ⟨List.forall_mem_nil _, (List.append_nil _).symm⟩
  | cons entry servers ih =>
      obtain ⟨id, server⟩ := entry
      obtain ⟨hfirst, hrest⟩ := List.pairwise_cons.mp hdistinct
      have hbound := (run_deviceFor registry hworld id server timeout).1
      have hshows := (uses_deviceFor registry id server timeout).shows hworld
      rw [devicesFor, Attempt.run_run_bind] at hreturns
      generalize (registry.deviceFor id server timeout).run.run network = outcome at *
      obtain ⟨outcome, network'⟩ := outcome
      rcases outcome with fault | found | device
      · contradiction
      · have hlater : ∀ entry ∈ servers, devices.lookup entry.1 = none :=
          fun entry hentry => hnew entry (List.mem_cons_of_mem _ hentry)
        obtain ⟨hall, rfl⟩ := ih hshows hrest hlater hreturns
        have hnone : registry.boundIn world timeout server = none := by rw [boundIn, ← hbound]
        refine ⟨List.forall_mem_cons.mpr ⟨⟨none, hbound.symm⟩, hall⟩, ?_⟩
        rw [Keyed.selected, Keyed.selected, List.filterMap_cons, hnone]
        rfl
      · -- the servers are distinct, so that the device takes no other one's place
        have hput : devices.put id device = devices ++ [(id, device)] :=
          Keyed.put_of_new (hnew _ List.mem_cons_self) device
        have hlater : ∀ entry ∈ servers, (devices.put id device).lookup entry.1 = none := by
          intro entry hentry
          have hother : (entry.1 == id) = false := by
            rw [BEq.comm]
            exact hfirst entry.1 (List.mem_map_of_mem hentry)
          rw [Keyed.lookup_put_of_ne hother]
          exact hnew entry (List.mem_cons_of_mem _ hentry)
        obtain ⟨hall, rfl⟩ := ih hshows hrest hlater hreturns
        have hsome : registry.boundIn world timeout server = some device := by rw [boundIn, ← hbound]
        refine ⟨List.forall_mem_cons.mpr ⟨⟨some device, hbound.symm⟩, hall⟩, ?_⟩
        rw [hput, List.append_assoc, Keyed.selected, Keyed.selected, List.filterMap_cons, hsome]
        rfl

theorem exists_probes (registry : Registry) (hworld : network.Shows world) (timeout : Int)
    (devices : Keyed Scalar Device) (servers : Servers) :
    ∃ tried, tried <+: servers ∧
      registry.Probes world timeout tried network
        ((registry.devicesFor timeout devices servers).run.run network).2 ∧
      (((registry.devicesFor timeout devices servers).run.run network).1.isOk → tried = servers) := by
  -- on the servers: the prefix ends with the first of them whose device is a fault
  induction servers generalizing devices network with
  | nil => exact ⟨[], List.prefix_rfl, .refl timeout, fun _ => rfl⟩
  | cons entry servers ih =>
      obtain ⟨id, server⟩ := entry
      have hfirst := (run_deviceFor registry hworld id server timeout).2
      have hshows := (uses_deviceFor registry id server timeout).shows hworld
      rw [devicesFor, Attempt.run_run_bind]
      generalize (registry.deviceFor id server timeout).run.run network = outcome at *
      obtain ⟨outcome, network'⟩ := outcome
      rcases outcome with fault | found | device
      · exact ⟨[(id, server)], List.prefix_append [_] _, hfirst, nofun⟩
      · obtain ⟨tried, hprefix, hrest, hall⟩ := ih hshows devices
        exact ⟨(id, server) :: tried, List.cons_prefix_cons.mpr ⟨rfl, hprefix⟩, hfirst.cons hrest,
          fun hreturns => congrArg _ (hall hreturns)⟩
      · obtain ⟨tried, hprefix, hrest, hall⟩ := ih hshows (devices.put id device)
        exact ⟨(id, server) :: tried, List.cons_prefix_cons.mpr ⟨rfl, hprefix⟩, hfirst.cons hrest,
          fun hreturns => congrArg _ (hall hreturns)⟩

variable {config : Config} {after : Registry}

/-- Configuring asks nothing of the network but what looking for profiles asks. -/
theorem exists_probes_configure (registry : Registry) (hworld : network.Shows world)
    (config : Config) :
    ∃ tried, tried <+: config.servers ∧
      registry.Probes world config.timeout tried network
        ((registry.configure config).run.run network).2 ∧
      (((registry.configure config).run.run network).1.isOk → tried = config.servers) := by
  have hprobes := registry.exists_probes hworld config.timeout [] config.servers
  rw [configure, Attempt.run_run_bind]
  generalize (registry.devicesFor config.timeout [] config.servers).run.run network = outcome at *
  obtain ⟨outcome, network'⟩ := outcome
  cases outcome with
  | error fault => exact hprobes
  | ok devices => exact hprobes

theorem configure_returns (hworld : network.Shows world) (hdistinct : Keyed.Distinct config.servers)
    (hreturns : ((registry.configure config).run.run network).1 = .ok after) :
    (∀ entry ∈ config.servers,
      ∃ bound, registry.deviceIn world config.timeout entry.2 = .ok bound) ∧
      after = { registry with
        devices := Keyed.selected (registry.boundIn world config.timeout) config.servers } := by
  have hdevices : ∀ all, ((registry.devicesFor config.timeout [] config.servers).run.run
      network).1 = .ok all → _ := fun all => devicesFor_returns hworld hdistinct fun _ _ => rfl
  rw [configure, Attempt.run_run_bind] at hreturns
  generalize (registry.devicesFor config.timeout [] config.servers).run.run network = outcome at *
  obtain ⟨outcome, network'⟩ := outcome
  cases outcome with
  | error fault => contradiction
  | ok devices =>
      obtain ⟨hall, rfl⟩ := hdevices devices rfl
      exact ⟨hall, (Except.ok.inj hreturns).symm⟩

/-- The devices that there were have no part in what a server gets. -/
theorem boundIn_congr {registry' : Registry} (hlibrary : registry'.library = registry.library)
    (hprefer : registry'.preferStrong = registry.preferStrong) (world : World) (timeout : Int) :
    registry'.boundIn world timeout = registry.boundIn world timeout := by
  funext server
  simp only [boundIn, deviceIn, sourceIn, discovery, hlibrary, hprefer]

theorem device?_configure_eq {registry' after' : Registry} {network' : Network} {config' : Config}
    (hworld : network.Shows world) (hworld' : network'.Shows world)
    (hdistinct : Keyed.Distinct config.servers) (hdistinct' : Keyed.Distinct config'.servers)
    (hlibrary : registry'.library = registry.library)
    (hprefer : registry'.preferStrong = registry.preferStrong)
    (htimeout : config'.timeout = config.timeout)
    (hreturns : ((registry.configure config).run.run network).1 = .ok after)
    (hreturns' : ((registry'.configure config').run.run network').1 = .ok after') {id : Scalar}
    (hentry : config'.servers.lookup id = config.servers.lookup id) :
    after'.device? id = after.device? id := by
  obtain ⟨-, rfl⟩ := configure_returns hworld hdistinct hreturns
  obtain ⟨-, rfl⟩ := configure_returns hworld' hdistinct' hreturns'
  simp only [device?, Keyed.lookup_selected _ hdistinct, Keyed.lookup_selected _ hdistinct', hentry,
    htimeout, boundIn_congr hlibrary hprefer]

/-- What a registry is after a configuration, in a world. -/
structure IsConfigured (registry : Registry) (world : World) (config : Config) (after : Registry) :
    Prop where
  library : after.library = registry.library
  preferStrong : after.preferStrong = registry.preferStrong
  distinct : Keyed.Distinct after.devices
  /-- A server is bound if there is a profile for it. -/
  ids : ∀ id, id ∈ after.devices.keys ↔ ∃ server profile, (id, server) ∈ config.servers ∧
    registry.sourceIn world config.timeout server = .ok (some profile)
  /-- It is bound to what the profile builds for its host. -/
  device : ∀ id server profile, (id, server) ∈ config.servers →
    registry.sourceIn world config.timeout server = .ok (some profile) →
    ∃ device, after.device? id = some device ∧ ∀ journal,
      ((Device.build profile.properties (some server.host) config.timeout).run.run journal).1 =
        .ok device

theorem exists_source_of_boundIn {timeout : Int} {server : Server}
    (hbound : (registry.boundIn world timeout server).isSome) :
    ∃ profile, registry.sourceIn world timeout server = .ok (some profile) := by
  rw [boundIn, deviceIn] at hbound
  rcases hsource : registry.sourceIn world timeout server with fault | found | profile
  · rw [hsource] at hbound
    contradiction
  · rw [hsource] at hbound
    contradiction
  · exact ⟨profile, rfl⟩

theorem isConfigured (hworld : network.Shows world) (hdistinct : Keyed.Distinct config.servers)
    (hreturns : ((registry.configure config).run.run network).1 = .ok after) :
    registry.IsConfigured world config after := by
  obtain ⟨hall, rfl⟩ := configure_returns hworld hdistinct hreturns
  have hbound : ∀ id server profile, (id, server) ∈ config.servers →
      registry.sourceIn world config.timeout server = .ok (some profile) →
      ∃ device, registry.boundIn world config.timeout server = some device ∧
        Device.built profile.properties (some server.host) config.timeout = .ok device := by
    intro id server profile hmem hsource
    obtain ⟨bound, hdevice⟩ := hall _ hmem
    have hmade : registry.deviceIn world config.timeout server =
        some <$> Device.built profile.properties (some server.host) config.timeout := by
      rw [deviceIn, hsource]
      rfl
    rw [boundIn, hmade]
    rw [hmade] at hdevice
    cases hbuilt : Device.built profile.properties (some server.host) config.timeout with
    | error fault =>
        rw [hbuilt] at hdevice
        contradiction
    | ok device => exact ⟨device, rfl, rfl⟩
  refine ⟨rfl, rfl, hdistinct.selected _, fun id => ?_, fun id server profile hmem hsource => ?_⟩
  · rw [Keyed.mem_keys_selected]
    constructor
    · rintro ⟨server, hmem, hsome⟩
      obtain ⟨profile, hsource⟩ := exists_source_of_boundIn hsome
      exact ⟨server, profile, hmem, hsource⟩
    · rintro ⟨server, profile, hmem, hsource⟩
      obtain ⟨device, hdevice, -⟩ := hbound id server profile hmem hsource
      exact ⟨server, hmem, by rw [hdevice]; rfl⟩
  · obtain ⟨device, hdevice, hbuilt⟩ := hbound id server profile hmem hsource
    refine ⟨device, ?_, fun journal => (Device.gives_build _ _ _ journal).trans hbuilt⟩
    rw [device?, Keyed.lookup_selected _ hdistinct, hdistinct.lookup_of_mem hmem, Option.bind_some,
      hdevice]

end Registry

end Telemetry
