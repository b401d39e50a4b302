import Telemetry.Proofs.Device.Lookups

namespace Telemetry

theorem Pattern.source_of_compile {source : String} {pattern : Pattern}
    (hcompile : compile source = .ok pattern) : pattern.source = source := by
  unfold compile at hcompile
  split at hcompile
  · cases hcompile
    rfl
  · contradiction

namespace Device

/-- What a channel has from the properties. -/
structure ChannelDescribedBy (properties : Properties) (device : Device) (id name : String)
    (channel : Channel) : Prop where
  named : channel.name = name
  type : (Kind.ofTag? channel.type).isSome
  factor : ∀ factor, channel.factor = some factor → factor.isFinite
  /-- It is bound if a key of its own group binds it to a table that the device has. -/
  decoding : ∀ decoding, channel.decoding = some decoding ↔
    (∃ property ∈ properties, Binds property id name decoding) ∧
      ∃ table, device.table? decoding.table = some table ∧ table.name = decoding.table

/-- What a group has from the properties. -/
structure GroupDescribedBy (properties : Properties) (device : Device) (id : String)
    (group : Group) : Prop where
  named : group.name = id
  listed : ∃ property ∈ properties, Lists property id group.names
  full : ∀ name, (group.channel? name).isSome ↔ name ∈ group.names
  channel : ∀ name channel, group.channel? name = some channel →
    ChannelDescribedBy properties device id name channel
  /-- A separator that is no pattern is passed over. -/
  separator : ∀ separator, group.separator = some separator ↔
    ∃ property ∈ properties, Splits property id separator
  compiles : ∀ separator, group.separator = some separator →
    Pattern.compile separator.source = .ok separator

/-- What a device has from the properties. -/
structure DescribedBy (properties : Properties) (device : Device) : Prop where
  nodupGroups : (Keyed.keys device.groups).Nodup
  nodupTables : (Keyed.keys device.tables).Nodup
  hasGroup : ∀ id, (device.group? id).isSome ↔
    ∃ property ∈ properties, ∃ names, Lists property id names
  hasTable : ∀ id, (device.table? id).isSome ↔
    ∃ property ∈ properties, ∃ part, Text.fields '.' property.1 = ["transforms", id, part]
  group : ∀ id group, device.group? id = some group → GroupDescribedBy properties device id group
  table : ∀ id table, device.table? id = some table → table.name = id
  /-- The index has the names of all groups, and no others. -/
  index : ∀ name, name ∈ Keyed.keys device.index ↔
    ∃ id group, device.group? id = some group ∧ name ∈ group.names
  found : ∀ name ∈ Keyed.keys device.index, (device.channel? name).isSome
  /-- Where several groups list a name, it leads to the channel of the last one. -/
  channel : ∀ name group channel, device.channel? name = some (group, channel) ↔
    LastLists properties name group.name ∧ device.group? group.name = some group ∧
      group.channel? name = some channel

section Assembled

variable {properties : Properties} {host : Option String} {timeout : Int} {probe : Probe}

theorem isSome_group?_assembled_iff {id : String} :
    ((assembled properties host timeout probe).group? id).isSome ↔
      ∃ property ∈ properties, ∃ names, Lists property id names := by
  rw [group?_assembled, Option.isSome_map, isSome_namesOf_iff]

theorem table?_assembled_iff {id : String} :
    (∃ table, (assembled properties host timeout probe).table? id = some table ∧ table.name = id) ↔
      (settingOf properties host).hasTable id := by
  have hformed := wellFormed_assembled properties host timeout probe
  constructor
  · rintro ⟨table, htable, -⟩
    rw [table?_assembled, Option.ite_none_right_eq_some] at htable
    exact htable.1
  · intro hhas
    have htable := table?_assembled properties host timeout probe id
    rw [if_pos hhas] at htable
    exact ⟨_, htable, hformed.table id _ htable⟩

theorem exists_group_of_owner (hkeys : (Keyed.keys properties).Nodup) {name id : String}
    (howner : ownerOf properties name = some id) :
    ∃ group, (assembled properties host timeout probe).group? id = some group ∧
      name ∈ group.names := by
  obtain ⟨before, property, after, names, hsplit, hlists, hname, -⟩ :=
    ownerOf_eq_some_iff.mp howner
  have hproperty : property ∈ properties := by simp [hsplit]
  obtain ⟨group, hgroup⟩ := Option.isSome_iff_exists.mp
    (isSome_group?_assembled_iff.mpr ⟨property, hproperty, names, hlists⟩)
  have hnames := (namesOf_of_assembled hgroup).symm.trans (namesOf_of_lists hkeys hproperty hlists)
  rw [← Option.some.inj hnames] at hname
  exact ⟨group, hgroup, hname⟩

theorem mem_index_assembled_iff (hkeys : (Keyed.keys properties).Nodup) {name : String} :
    name ∈ Keyed.keys (assembled properties host timeout probe).index ↔
      ∃ id group, (assembled properties host timeout probe).group? id = some group ∧
        name ∈ group.names := by
  rw [← Keyed.has_iff_mem_keys, Keyed.has, lookup_index_assembled]
  constructor
  · intro howner
    obtain ⟨id, howner⟩ := Option.isSome_iff_exists.mp howner
    exact ⟨id, exists_group_of_owner hkeys howner⟩
  · rintro ⟨id, group, hgroup, hname⟩
    obtain ⟨property, hproperty, hlists⟩ := exists_lists_of_namesOf (namesOf_of_assembled hgroup)
    rw [Option.isSome_iff_ne_none]
    intro hnone
    exact ownerOf_eq_none_iff.mp hnone property hproperty id group.names hlists hname

theorem isSome_channel?_assembled (hkeys : (Keyed.keys properties).Nodup) {name : String}
    (hname : name ∈ Keyed.keys (assembled properties host timeout probe).index) :
    ((assembled properties host timeout probe).channel? name).isSome := by
  rw [← Keyed.has_iff_mem_keys, Keyed.has, lookup_index_assembled] at hname
  obtain ⟨id, howner⟩ := Option.isSome_iff_exists.mp hname
  obtain ⟨group, hgroup, hname⟩ := exists_group_of_owner hkeys howner
  have hindex : (assembled properties host timeout probe).index.lookup name = some id := by
    rw [lookup_index_assembled, howner]
  obtain ⟨channel, hchannel⟩ :=
    Option.isSome_iff_exists.mp ((isFull_of_assembled hgroup name).mpr hname)
  rw [channel?_eq_some_iff.mpr ⟨id, hindex, hgroup, hchannel⟩]
  rfl

theorem channel?_assembled_iff {name : String} {group : Group} {channel : Channel} :
    (assembled properties host timeout probe).channel? name = some (group, channel) ↔
      LastLists properties name group.name ∧
        (assembled properties host timeout probe).group? group.name = some group ∧
        group.channel? name = some channel := by
  rw [channel?_eq_some_iff, lookup_index_assembled]
  constructor
  · rintro ⟨id, howner, hgroup, hchannel⟩
    obtain rfl := ((wellFormed_assembled properties host timeout probe).group id group hgroup).1
    exact ⟨ownerOf_eq_some_iff.mp howner, hgroup, hchannel⟩
  · rintro ⟨hlast, hgroup, hchannel⟩
    exact ⟨group.name, ownerOf_eq_some_iff.mpr hlast, hgroup, hchannel⟩

theorem channelDescribedBy_assembled (hkeys : (Keyed.keys properties).Nodup) {id name : String}
    {group : Group} (hgroup : (assembled properties host timeout probe).group? id = some group)
    {channel : Channel} (hchannel : group.channel? name = some channel) :
    ChannelDescribedBy properties (assembled properties host timeout probe) id name channel := by
  have hequipped := equipped_assembled properties host timeout probe
  have hformed := (hequipped.attaching.wellFormed.group id group hgroup).2
  obtain ⟨htype, hfactor⟩ := (hequipped.group id group hgroup).2 name channel hchannel
  refine ⟨hformed.named name channel hchannel, htype, hfactor, fun decoding => ?_⟩
  rw [decoding_assembled_iff hgroup hkeys hchannel, table?_assembled_iff, and_comm]

theorem groupDescribedBy_assembled (hkeys : (Keyed.keys properties).Nodup) {id : String}
    {group : Group} (hgroup : (assembled properties host timeout probe).group? id = some group) :
    GroupDescribedBy properties (assembled properties host timeout probe) id group where
  named := ((wellFormed_assembled properties host timeout probe).group id group hgroup).1
  listed := exists_lists_of_namesOf (namesOf_of_assembled hgroup)
  full := isFull_of_assembled hgroup
  channel := fun _ _ => channelDescribedBy_assembled hkeys hgroup
  separator := fun _ => separator_assembled_iff hgroup hkeys
  compiles := by
    intro separator hseparator
    obtain ⟨property, -, hsplits⟩ := (separator_assembled_iff hgroup hkeys).mp hseparator
    rw [Pattern.source_of_compile hsplits.value, hsplits.value]

theorem describedBy_assembled (hkeys : (Keyed.keys properties).Nodup) :
    DescribedBy properties (assembled properties host timeout probe) where
  nodupGroups := (wellFormed_assembled properties host timeout probe).nodupGroups
  nodupTables := (wellFormed_assembled properties host timeout probe).nodupTables
  hasGroup := fun _ => isSome_group?_assembled_iff
  hasTable := by
    intro id
    rw [table?_assembled, Option.isSome_ite, hasTable_iff]
  group := fun _ _ => groupDescribedBy_assembled hkeys
  table := (wellFormed_assembled properties host timeout probe).table
  index := fun _ => mem_index_assembled_iff hkeys
  found := fun _ => isSome_channel?_assembled hkeys
  channel := fun _ _ _ => channel?_assembled_iff

end Assembled

/-- A device that has been built is what its properties describe, and no lookup failed on the way. -/
theorem described_of_build {properties : Properties} (hkeys : (Keyed.keys properties).Nodup)
    {host : Option String} {timeout : Int} {journal : Log.Journal} {device : Device}
    (hbuild : ((build properties host timeout).run.run journal).1 = .ok device) :
    DescribedBy properties device ∧ LookupsSucceed properties host timeout := by
  obtain ⟨probe, rfl⟩ := exists_eq_assembled properties host timeout hbuild
  exact ⟨describedBy_assembled hkeys, lookupsSucceed properties host timeout⟩

/-- A profile of which much is passed over: items without a name, an unknown type, a factor that is
none, a separator that is no pattern, a binding to a table that nothing declares, and a key that
declares a table but has no known attribute. -/
def stationProfile : Properties := [
  ("name", "station"),
  ("values.roof.vars", "power, state,,power"),
  ("values.roof.split", "[;,]"),
  ("values.roof.types", "Number, Switch ,Watt"),
  ("values.roof.factors", "0.1,null,NaN"),
  ("values.roof.transforms.state", "codes,code,word"),
  ("values.yard.transforms.state", "words,code,word"),
  ("values.yard.vars", "state"),
  ("values.yard.split", "("),
  ("values.void.vars", " , "),
  ("transforms.codes.colour", "red")]

theorem described_of_build_stationProfile :
    (Keyed.keys stationProfile).Nodup ∧ ∃ device,
      ((build stationProfile (some "host") 3000).run.run []).1 = .ok device ∧
      DescribedBy stationProfile device ∧ LookupsSucceed stationProfile (some "host") 3000 ∧
      device.index = [("power", "roof"), ("state", "yard")] ∧
      Keyed.keys device.groups = ["roof", "yard"] ∧ Keyed.keys device.tables = ["codes"] := by
  have hkeys : (Keyed.keys stationProfile).Nodup := by decide +kernel
  have hbuilt : ((build stationProfile (some "host") 3000).run.run []).1.toOption.map
      (fun device => (device.index, Keyed.keys device.groups, Keyed.keys device.tables)) =
      some ([("power", "roof"), ("state", "yard")], ["roof", "yard"], ["codes"]) := by
    decide +kernel
  cases hbuild : ((build stationProfile (some "host") 3000).run.run []).1 with
  | error fault =>
      rw [hbuild] at hbuilt
      contradiction
  | ok device =>
      rw [hbuild] at hbuilt
      obtain ⟨hindex, hgroups, htables⟩ := by
        simpa only [Except.toOption, Option.map_some, Option.some.injEq, Prod.mk.injEq] using hbuilt
      obtain ⟨hdescribed, hlookups⟩ := described_of_build hkeys hbuild
      exact ⟨hkeys, device, rfl, hdescribed, hlookups, hindex, hgroups, htables⟩

end Device

end Telemetry
