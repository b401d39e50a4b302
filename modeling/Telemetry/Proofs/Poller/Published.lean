import Telemetry.Proofs.Device.Reachable
import Telemetry.Proofs.Poller.Ticks

namespace Telemetry

/-- Is it what a channel is read as, when a kind is wanted? -/
def Reading.IsOffered (kind : Kind) (reading : Reading) : Prop :=
  ∃ (channel : Channel) (tables : CodeTables) (journal : Log.Journal),
    ((channel.reading tables kind).run journal).1 = some reading

theorem Reading.IsOffered.serves {kind : Kind} {reading : Reading} (hoffered : reading.IsOffered kind) :
    reading.Serves kind := by
  obtain ⟨channel, tables, journal, hrun⟩ := hoffered
  exact Channel.serves_of_run hrun

namespace Device

theorem run_reading_of_channel? {device : Device} {name : String} {group : Group} {channel : Channel}
    (hchannel : device.channel? name = some (group, channel)) (kind : Kind) (network : Network) :
    ((device.reading name kind).run network).1 =
      let outcome := (device.round group).run network
      (outcome.1.1, (outcome.1.1.channel? name).bind fun found =>
        ((found.2.reading outcome.1.1.tables kind).run outcome.2.journal).1) := by
  simp only [reading, read, hchannel, Online.run_bind, Online.run_pure]
  cases ((device.round group).run network).1.1.channel? name <;> rfl

theorem isOffered_of_reading {device : Device} {name : String} {kind : Kind} {network : Network}
    {reading : Reading} (hreading : ((device.reading name kind).run network).1.2 = some reading) :
    reading.IsOffered kind := by
  cases hchannel : device.channel? name with
  | none =>
      simp [Device.reading, read, hchannel] at hreading
  | some found =>
      rw [run_reading_of_channel? hchannel] at hreading
      obtain ⟨found, -, hfound⟩ := Option.bind_eq_some_iff.mp hreading
      exact ⟨found.2, _, _, hfound⟩

theorem offers_reading {device : Device} (hsettled : device.IsSettled) {name : String}
    {found : Group × Channel} (hchannel : device.channel? name = some found) (kind : Kind)
    (network : Network) :
    ∃ group channel,
      ((device.reading name kind).run network).1.1.channel? name = some (group, channel) ∧
      channel.Offers ((device.reading name kind).run network).1.1.tables kind
        ((device.reading name kind).run network).1.2 := by
  obtain ⟨group, channel⟩ := found
  obtain ⟨id, -, hgroup, -⟩ := channel?_eq_some_iff.mp hchannel
  obtain ⟨⟨group', channel'⟩, hchannel'⟩ := hsettled.channel?_round hchannel network
  have hafter := hsettled.round hgroup network
  obtain ⟨id', -, hgroup', hfound'⟩ := channel?_eq_some_iff.mp hchannel'
  have hsettled' := (hafter.group id' group' hgroup').channel name channel' hfound'
  rw [run_reading_of_channel? hchannel]
  refine ⟨group', channel', hchannel', ?_⟩
  simp only [hchannel', Option.bind_some]
  exact Channel.offers_run hsettled' _ kind _

end Device

namespace Registry

variable {registry : Registry} {server : Scalar}

theorem device?_withDevice {device : Device} (hdevice : registry.device? server = some device)
    (device' : Device) : (registry.withDevice server device').device? server = some device' := by
  rw [device?] at hdevice
  rw [device?, withDevice, Keyed.lookup_adjust, hdevice]
  simp

theorem run_reading_of_device? {device : Device} (hdevice : registry.device? server = some device)
    (name : String) (kind : Kind) (network : Network) :
    (registry.reading server name kind).run network =
      let outcome := (device.reading name kind).run network
      ((registry.withDevice server outcome.1.1, outcome.1.2), outcome.2) := by
  rw [reading, hdevice]
  rfl

theorem isOffered_of_reading {name : String} {kind : Kind} {network : Network} {reading : Reading}
    (hreading : ((registry.reading server name kind).run network).1.2 = some reading) :
    reading.IsOffered kind := by
  cases hdevice : registry.device? server with
  | none =>
      rw [Registry.reading, hdevice] at hreading
      contradiction
  | some device =>
      rw [run_reading_of_device? hdevice] at hreading
      exact Device.isOffered_of_reading hreading

end Registry

namespace Poller

variable {registry registry' : Registry} {network network' : Network} {reads : List Read}

theorem Made.isOffered (hmade : Made reads registry network registry' network')
    {publication : Publication} (hpublished : publication ∈ reads.filterMap Read.publication?) :
    publication.reading.IsOffered publication.binding.kind := by
  induction hmade with
  | done => contradiction
  | @read task reading reads _ _ _ _ _ _ hreading _ ih =>
      cases reading with
      | none => exact ih hpublished
      | some reading =>
          rcases List.mem_cons.mp hpublished with rfl | hlater
          · exact Registry.isOffered_of_reading (congrArg (·.1.2) hreading)
          · exact ih hlater

theorem exists_made_of_tick (poller : Poller) (registry : Registry) (network : Network) :
    ∃ reads, Made reads registry network.read ((poller.tick registry).run network).1.1.2
        ((poller.tick registry).run network).2 ∧
      reads.map (·.task.binding) = poller.agenda network.reading ∧
      ((poller.tick registry).run network).1.2 = reads.filterMap Read.publication? := by
  rw [run_tick]
  refine ⟨_, made_recordedTick poller registry network, ?_, rfl⟩
  rw [← map_binding_regrouped, ← map_task_recordedTick poller registry, List.map_map]
  rfl

theorem isOffered_of_mem_tick {poller : Poller} {publication : Publication}
    (hpublished : publication ∈ ((poller.tick registry).run network).1.2) :
    publication.reading.IsOffered publication.binding.kind := by
  obtain ⟨reads, hmade, -, heq⟩ := exists_made_of_tick poller registry network
  rw [heq] at hpublished
  exact hmade.isOffered hpublished

end Poller

/-- Only well-formed values leave the system. In every state of a device that was built from a
profile, a channel offers a valid value of the wanted kind, or a text, or nothing; and it offers
nothing just if it has no text yet, or the one that is to be converted does not convert. A registry
that the device is bound in gives what the device gives, and leaves it in such a state again; a tick
publishes what the registry gives for its bindings in turn, as far as that is anything. -/
theorem values_well_formed {properties : Properties} {host : Option String} {timeout : Int}
    {journal : Log.Journal} {start device : Device}
    (hbuild : ((Device.build properties host timeout).run.run journal).1 = .ok start)
    (hreachable : start.Reachable device) :
    (∀ id group name channel, device.group? id = some group → group.channel? name = some channel →
      ∀ kind journal,
        channel.Offers device.tables kind ((channel.reading device.tables kind).run journal).1) ∧
    (∀ name found, device.channel? name = some found → ∀ kind network, ∃ group channel,
      ((device.reading name kind).run network).1.1.channel? name = some (group, channel) ∧
      channel.Offers ((device.reading name kind).run network).1.1.tables kind
        ((device.reading name kind).run network).1.2) ∧
    (∀ (registry : Registry) server, registry.device? server = some device → ∀ name kind network,
      let outcome := (device.reading name kind).run network
      (registry.reading server name kind).run network =
          ((registry.withDevice server outcome.1.1, outcome.1.2), outcome.2) ∧
        (registry.withDevice server outcome.1.1).device? server = some outcome.1.1 ∧
        start.Reachable outcome.1.1) ∧
    (∀ (registry : Registry) server name kind network reading,
      ((registry.reading server name kind).run network).1.2 = some reading →
        reading.Serves kind) ∧
    (∀ (poller : Poller) (registry : Registry) network,
      let outcome := (poller.tick registry).run network
      ∃ reads, Poller.Made reads registry network.read outcome.1.1.2 outcome.2 ∧
        reads.map (·.task.binding) = poller.agenda network.reading ∧
        outcome.1.2 = reads.filterMap Poller.Read.publication?) ∧
    ∀ (poller : Poller) (registry : Registry) network publication,
      publication ∈ ((poller.tick registry).run network).1.2 →
        publication.reading.Serves publication.binding.kind := by
  have hsettled := hreachable.isSettled (Device.isSettled_of_build hbuild)
  refine ⟨?_, ?_, ?_, ?_, Poller.exists_made_of_tick, ?_⟩
  · intro id group name channel hgroup hchannel kind journal
    exact Channel.offers_run ((hsettled.group id group hgroup).channel name channel hchannel) _ _ _
  · intro name found hchannel kind network
    exact Device.offers_reading hsettled hchannel kind network
  · intro registry server hdevice name kind network
    refine ⟨Registry.run_reading_of_device? hdevice name kind network,
      Registry.device?_withDevice hdevice _, ?_⟩
    exact hreachable.called (.ask (.reading name kind)) network
  · intro registry server name kind network reading hreading
    exact (Registry.isOffered_of_reading hreading).serves
  · intro poller registry network publication hpublished
    exact (Poller.isOffered_of_mem_tick hpublished).serves

/-- A gauge with a flow and a level in percent. -/
def gaugeProfile : Properties := [
  ("name", "gauge"),
  ("values.tank.vars", "flow,level"),
  ("values.tank.url", "http://host/tank"),
  ("values.tank.split", ";"),
  ("values.tank.types", "number,dimmer")]

def gauge : Device :=
  ((Device.build gaugeProfile (some "host") 3000).run.run []).1.toOption.getD Device.meter

/-- Its flow is no number, signalling or not. -/
def gaugeNetwork : Network where
  now := 1
  answer _ _ := ⟨some "-sNaN;1E+2", 0⟩
  reaches _ _ := true

def gaugeRegistry : Registry where
  library := []
  devices := [(.text "tank", gauge)]

theorem values_well_formed_gauge :
    ((Device.build gaugeProfile (some "host") 3000).run.run []).1 = .ok gauge ∧
      ((gauge.reading "level" .percent).run gaugeNetwork).1.2 =
        some (.percent (.finite false 1 2)) ∧
      (Reading.percent (.finite false 1 2)).Serves .percent ∧
      ((gauge.reading "flow" .number).run gaugeNetwork).1.2 = none ∧
      ((gaugeRegistry.reading (.text "tank") "level" .percent).run gaugeNetwork).1.2 =
        some (.percent (.finite false 1 2)) ∧
      ∃ group channel,
        ((gauge.reading "flow" .number).run gaugeNetwork).1.1.channel? "flow" =
          some (group, channel) ∧
        (channel.scaled = none ∨ ∃ text fault,
          channel.selected? ((gauge.reading "flow" .number).run gaugeNetwork).1.1.tables .number =
            some text ∧ Reading.read .number text = .error fault) := by
  have hbuild : ((Device.build gaugeProfile (some "host") 3000).run.run []).1 = .ok gauge :=
    eq_ok_getD_of_isSome (by decide +kernel) Device.meter
  have hlevel : ((gauge.reading "level" .percent).run gaugeNetwork).1.2 =
      some (.percent (.finite false 1 2)) := by
    decide +kernel
  have hflow : ((gauge.reading "flow" .number).run gaugeNetwork).1.2 = none := by
    decide +kernel
  have hfound : ∀ name ∈ ["flow", "level"], (gauge.channel? name).isSome = true := by
    decide +kernel
  obtain ⟨-, hreads, hregistry, -⟩ := values_well_formed hbuild .start
  have hbound : gaugeRegistry.device? (.text "tank") = some gauge := by rfl
  obtain ⟨hserved, -⟩ := hregistry gaugeRegistry (.text "tank") hbound "level" .percent gaugeNetwork
  obtain ⟨found, hchannel⟩ := Option.isSome_iff_exists.mp (hfound "level" (by simp))
  obtain ⟨_, _, _, hoffers⟩ := hreads "level" found hchannel .percent gaugeNetwork
  obtain ⟨found', hchannel'⟩ := Option.isSome_iff_exists.mp (hfound "flow" (by simp))
  obtain ⟨group, channel, hafter, hoffers'⟩ :=
    hreads "flow" found' hchannel' .number gaugeNetwork
  refine ⟨hbuild, hlevel, hoffers.serves _ hlevel, hflow, ?_, group, channel, hafter,
    hoffers'.absent.mp hflow⟩
  rw [hserved]
  exact hlevel

end Telemetry
