import Telemetry.Proofs.Device.Attaching
import Telemetry.Proofs.Text.Blank

namespace Telemetry

theorem Kind.ofTag?_strip (tag : String) : ofTag? (Text.strip tag) = ofTag? tag := by
  rw [ofTag?, ofTag?, Text.strip_strip]

namespace Channel

/-- Does the declared type stand for a kind, and is the factor a finite number? -/
structure IsSound (channel : Channel) : Prop where
  type : (Kind.ofTag? channel.type).isSome
  factor : ∀ factor, channel.factor = some factor → factor.isFinite

theorem isSome_ofTag?_defaultType : (Kind.ofTag? defaultType).isSome := by
  decide +kernel

theorem isSound_fresh (name : String) : ({ name } : Channel).IsSound where
  type := isSome_ofTag?_defaultType
  factor := nofun

theorem isSome_ofTag?_typeOf (tag : String) : (Kind.ofTag? (typeOf tag)).isSome := by
  unfold typeOf
  split
  · rename_i htag
    rwa [Kind.ofTag?_strip]
  · exact isSome_ofTag?_defaultType

theorem isFinite_of_readFactor {text : String} {factor : Decimal}
    (hread : readFactor text = some factor) : factor.isFinite :=
  (Option.filter_eq_some_iff.mp hread).2

theorem IsSound.factored {channel : Channel} (hsound : channel.IsSound) (text : Option String) :
    (channel.factored text).IsSound where
  type := hsound.type
  factor := by
    intro factor hfactor
    obtain ⟨text, -, hafter⟩ := Option.bind_eq_some_iff.mp hfactor
    split at hafter
    · contradiction
    · rcases Option.or_eq_some_iff.mp hafter with hread | ⟨-, hbefore⟩
      · exact isFinite_of_readFactor hread
      · exact hsound.factor factor hbefore

theorem exists_typed_eq_with (tag : String) (channel : Channel) :
    ∃ type, channel.typed tag = { channel with type } ∧ (Kind.ofTag? type).isSome :=
  ⟨typeOf tag, rfl, isSome_ofTag?_typeOf tag⟩

theorem IsSound.typed {channel : Channel} (hsound : channel.IsSound) (tag : String) :
    (channel.typed tag).IsSound := by
  obtain ⟨type, htyped, htype⟩ := exists_typed_eq_with tag channel
  rw [htyped]
  exact ⟨htype, hsound.factor⟩

theorem IsSound.decodedBy {channel : Channel} (hsound : channel.IsSound) (found : Decoding) :
    (channel.decodedBy found).IsSound :=
  ⟨hsound.type, hsound.factor⟩

theorem decoding_factored (text : Option String) (channel : Channel) :
    (channel.factored text).decoding = channel.decoding :=
  rfl

theorem decoding_typed (tag : String) (channel : Channel) :
    (channel.typed tag).decoding = channel.decoding := by
  obtain ⟨type, htyped, -⟩ := exists_typed_eq_with tag channel
  rw [htyped]

theorem decoding_afterFields {α : Type} {each : α → Channel → Channel}
    (heach : ∀ what channel, (each what channel).decoding = channel.decoding)
    (fields : List (String × α)) (channel : Channel) :
    (afterFields each fields channel).decoding = channel.decoding :=
  afterFields_rec (fun after => after.decoding = channel.decoding)
    (fun what after hsame => (heach what after).trans hsame) fields rfl

end Channel

namespace Group

/-- Is there a channel for each name of the group, and for no other? -/
def IsFull (group : Group) : Prop :=
  ∀ name, (group.channel? name).isSome ↔ name ∈ group.names

theorem isFull_declare (name : String) (names : List String) (refresh : Int) (cached : Bool)
    (timeout : Int) : (declare name names refresh cached timeout).IsFull := by
  intro key
  have hchannels : (declare name names refresh cached timeout).channel? key =
      (names.reverse.map fun name => (name, ({ name } : Channel))).lookup key := by
    rw [List.map_reverse]
    exact Keyed.lookup_ofList _ _
  rw [hchannels, ← Keyed.has, Keyed.has_iff_mem_keys, Keyed.keys, List.map_map]
  simp [Function.comp_def, declare]

/-- Are all channels sound? -/
def IsSound (group : Group) : Prop :=
  ∀ name channel, group.channel? name = some channel → channel.IsSound

theorem isSound_declare (name : String) (names : List String) (refresh : Int) (cached : Bool)
    (timeout : Int) : (declare name names refresh cached timeout).IsSound := by
  intro key channel hchannel
  rw [eq_of_channel?_declare hchannel]
  exact Channel.isSound_fresh key

end Group

namespace Device

namespace GroupEdit

theorem isFull_apply {group : Group} (hfull : group.IsFull) (edit : GroupEdit) :
    (edit.apply group).IsFull := by
  intro name
  rw [channel?_apply, Option.isSome_map, names_apply]
  exact hfull name

theorem isSound_apply {group : Group} (hsound : group.IsSound) (edit : GroupEdit) :
    (edit.apply group).IsSound := by
  intro name channel hchannel
  rw [channel?_apply, Option.map_eq_some_iff] at hchannel
  obtain ⟨before, hbefore, rfl⟩ := hchannel
  exact onChannel_rec (fun text _ hchannel => hchannel.factored text)
    (fun tag _ hchannel => hchannel.typed tag) (fun found _ hchannel => hchannel.decodedBy found)
    group edit (hsound name before hbefore)

/-- The separator that an edit gives its group. -/
def separator? : GroupEdit → Option Pattern
  | separator found => some found
  | _ => none

theorem separator?_eq_some_iff {edit : GroupEdit} {found : Pattern} :
    edit.separator? = some found ↔ edit = .separator found := by
  cases edit <;> simp [separator?]

theorem slot_of_separator? {edit : GroupEdit} {found : Pattern}
    (hfound : edit.separator? = some found) : edit.slot = .inl .split := by
  rw [separator?_eq_some_iff.mp hfound]
  rfl

theorem separator_apply (group : Group) (edit : GroupEdit) :
    (edit.apply group).separator = edit.separator?.or group.separator := by
  cases edit <;> rfl

/-- The decoding that an edit gives a channel of its group. -/
def decoding? (name : String) : GroupEdit → Option Decoding
  | decoding channel found => if channel = name then some found else none
  | _ => none

theorem decoding?_eq_some_iff {name : String} {edit : GroupEdit} {found : Decoding} :
    edit.decoding? name = some found ↔ edit = .decoding name found := by
  cases edit <;> simp [decoding?]

theorem slot_of_decoding? {name : String} {edit : GroupEdit} {found : Decoding}
    (hfound : edit.decoding? name = some found) : edit.slot = .inr name := by
  rw [decoding?_eq_some_iff.mp hfound]
  rfl

theorem decoding_onChannel (group : Group) (edit : GroupEdit) (channel : Channel) :
    (edit.onChannel group channel).decoding = (edit.decoding? channel.name).or channel.decoding := by
  cases edit with
  | factors => exact Channel.decoding_afterFields Channel.decoding_factored _ channel
  | types => exact Channel.decoding_afterFields Channel.decoding_typed _ channel
  | decoding name found =>
      simp only [onChannel, Channel.onlyAt, decoding?]
      by_cases hname : channel.name = name
      · rw [if_pos hname, if_pos hname.symm]
        rfl
      · rw [if_neg hname, if_neg (Ne.symm hname), Option.none_or]
  | _ => rfl

/-- The decoding of a channel of a group. -/
def decodingIn (name : String) (group : Group) : Option Decoding :=
  (group.channel? name).bind (·.decoding)

theorem decodingIn_declare (key name : String) (names : List String) (refresh : Int) (cached : Bool)
    (timeout : Int) : decodingIn key (.declare name names refresh cached timeout) = none := by
  unfold decodingIn
  cases hchannel : (Group.declare name names refresh cached timeout).channel? key with
  | none => rfl
  | some channel =>
      rw [Option.bind_some, Group.eq_of_channel?_declare hchannel]

/-- A group with a channel of this name, on which an edit for the name has an effect. -/
structure HasChannel (name : String) (group : Group) : Prop where
  wellFormed : group.WellFormed
  isSome : (group.channel? name).isSome

theorem hasChannel_declare {key : String} {names : List String} (hname : key ∈ names)
    (name : String) (refresh : Int) (cached : Bool) (timeout : Int) :
    HasChannel key (.declare name names refresh cached timeout) where
  wellFormed := Group.wellFormed_declare
  isSome := (Group.isFull_declare name names refresh cached timeout key).mpr hname

theorem HasChannel.apply {name : String} {group : Group} (hgroup : HasChannel name group)
    (edit : GroupEdit) : HasChannel name (edit.apply group) where
  wellFormed := wellFormed_apply hgroup.wellFormed edit
  isSome := by
    rw [channel?_apply, Option.isSome_map]
    exact hgroup.isSome

theorem HasChannel.decodingIn_apply {name : String} {group : Group} (hgroup : HasChannel name group)
    (edit : GroupEdit) :
    decodingIn name (edit.apply group) = (edit.decoding? name).or (decodingIn name group) := by
  obtain ⟨channel, hchannel⟩ := Option.isSome_iff_exists.mp hgroup.isSome
  rw [decodingIn, decodingIn, channel?_apply, hchannel, Option.map_some, Option.bind_some,
    Option.bind_some, decoding_onChannel, hgroup.wellFormed.named name channel hchannel]

end GroupEdit

/-- The property says what separates the fields of a group. -/
structure Splits (property : String × String) (id : String) (separator : Pattern) : Prop where
  key : Text.fields '.' property.1 = ["values", id, "split"]
  value : Pattern.compile (unquote property.2) = .ok separator

/-- The property binds a channel of a group to a code table, with the relations to decode by. -/
structure Binds (property : String × String) (id channel : String) (decoding : Decoding) :
    Prop where
  key : Text.fields '.' property.1 = ["values", id, "transforms", channel]
  value : Text.items property.2 = [decoding.table, decoding.source, decoding.target]

namespace Setting

variable {setting : Setting} {property : String × String} {id : String}

theorem groupEditAt_of_group {field : GroupField}
    (hkey : PropertyKey.ofText property.1 = .group id field) :
    setting.groupEditAt property =
      if setting.hasGroup id then
        (setting.groupEdit? field property.2).toOption.join.map (id, ·) else none := by
  simp only [groupEditAt, groupEditOf, hkey]
  split
  · cases setting.groupEdit? field property.2 with
    | ok edit => cases edit <;> rfl
    | error fault => rfl
  · rfl

theorem groupEditAt_of_binding {channel : String}
    (hkey : PropertyKey.ofText property.1 = .binding id channel) :
    setting.groupEditAt property =
      if setting.hasGroup id then (setting.bindingEdit? channel property.2).map (id, ·)
      else none := by
  simp only [groupEditAt, groupEditOf, hkey]
  split
  · cases setting.bindingEdit? channel property.2 <;> rfl
  · rfl

theorem groupEdit?_split_iff (setting : Setting) {value : String} {separator : Pattern} :
    (setting.groupEdit? .split value).toOption.join = some (.separator separator) ↔
      Pattern.compile (unquote value) = .ok separator := by
  unfold groupEdit? Building.compiled
  cases Pattern.compile (unquote value) with
  | ok found => simp [Except.toOption]
  | error fault => cases fault <;> simp [Except.toOption]

theorem bindingEdit?_eq_some_iff (setting : Setting) (channel : String) {value : String}
    {found : Decoding} :
    setting.bindingEdit? channel value = some (.decoding channel found) ↔
      setting.hasTable found.table ∧
        Text.items value = [found.table, found.source, found.target] := by
  unfold bindingEdit?
  split
  · rename_i table source target hitems
    obtain ⟨table', source', target'⟩ := found
    rw [hitems]
    constructor
    · intro hedit
      split at hedit
      · cases hedit
        exact ⟨‹_›, rfl⟩
      · contradiction
    · rintro ⟨htable, hsame⟩
      simp only [List.cons.injEq, and_true] at hsame
      obtain ⟨rfl, rfl, rfl⟩ := hsame
      rw [if_pos htable]
  · rename_i hitems
    refine ⟨nofun, ?_⟩
    rintro ⟨-, hsame⟩
    exact absurd hsame (hitems _ _ _)

theorem groupEditAt_eq_separator_iff {separator : Pattern} :
    setting.groupEditAt property = some (id, .separator separator) ↔
      setting.hasGroup id ∧ Splits property id separator := by
  have hiff : ∀ hkey : PropertyKey.ofText property.1 = .group id .split,
      setting.groupEditAt property = some (id, .separator separator) ↔
        setting.hasGroup id ∧ Pattern.compile (unquote property.2) = .ok separator := by
    intro hkey
    rw [groupEditAt_of_group hkey, ← setting.groupEdit?_split_iff]
    simp
  constructor
  · intro hedit
    have hfields := fields_of_groupEditAt hedit
    obtain ⟨hgroup, hcompile⟩ := (hiff (PropertyKey.ofText_eq_group_iff.mpr hfields)).mp hedit
    exact ⟨hgroup, hfields, hcompile⟩
  · rintro ⟨hgroup, hsplits⟩
    exact (hiff (PropertyKey.ofText_eq_group_iff.mpr hsplits.key)).mpr ⟨hgroup, hsplits.value⟩

theorem groupEditAt_eq_decoding_iff {channel : String} {found : Decoding} :
    setting.groupEditAt property = some (id, .decoding channel found) ↔
      setting.hasGroup id ∧ setting.hasTable found.table ∧ Binds property id channel found := by
  have hiff : ∀ hkey : PropertyKey.ofText property.1 = .binding id channel,
      setting.groupEditAt property = some (id, .decoding channel found) ↔
        setting.hasGroup id ∧ setting.hasTable found.table ∧
          Text.items property.2 = [found.table, found.source, found.target] := by
    intro hkey
    rw [groupEditAt_of_binding hkey, ← setting.bindingEdit?_eq_some_iff channel]
    simp
  constructor
  · intro hedit
    have hfields := fields_of_groupEditAt hedit
    obtain ⟨hgroup, htable, hitems⟩ :=
      (hiff (PropertyKey.ofText_eq_binding_iff.mpr hfields)).mp hedit
    exact ⟨hgroup, htable, hfields, hitems⟩
  · rintro ⟨hgroup, htable, hbinds⟩
    exact (hiff (PropertyKey.ofText_eq_binding_iff.mpr hbinds.key)).mpr
      ⟨hgroup, htable, hbinds.value⟩

end Setting

/-- What holds of a device while properties are attached: its groups are those that the properties
declare, with a channel for each of their names, and the channels are sound. -/
structure Equipped (properties : Properties) (host : Option String) (device : Device) : Prop where
  attaching : Attaching properties host device
  group : ∀ id group, device.group? id = some group → group.IsFull ∧ group.IsSound

section Equipped

variable {properties : Properties} {host : Option String} {device : Device}

theorem equipped_declaredWith (properties : Properties) (host : Option String) (timeout : Int)
    (probe : Probe) : Equipped properties host (declaredWith properties host timeout probe) where
  attaching := attaching_declaredWith properties host timeout probe
  group := by
    intro id group hgroup
    rw [group?_declaredWith, Option.map_eq_some_iff] at hgroup
    obtain ⟨names, -, rfl⟩ := hgroup
    exact ⟨Group.isFull_declare id names _ _ _, Group.isSound_declare id names _ _ _⟩

theorem Equipped.tablesEdited (hdevice : Equipped properties host device)
    (property : String × String) :
    Equipped properties host (device.tablesEdited (settingOf properties host) property) where
  attaching := hdevice.attaching.tablesEdited property
  group := by
    intro id group hgroup
    rw [group?, groups_tablesEdited] at hgroup
    exact hdevice.group id group hgroup

theorem Equipped.groupsEdited (hdevice : Equipped properties host device)
    (property : String × String) :
    Equipped properties host (device.groupsEdited (settingOf properties host) property) where
  attaching := hdevice.attaching.groupsEdited property
  group := by
    intro id group hgroup
    rcases group?_groupsEdited hgroup with hsame | ⟨edit, before, -, hbefore, rfl⟩
    · exact hdevice.group id group hsame
    · obtain ⟨hfull, hsound⟩ := hdevice.group id before hbefore
      exact ⟨GroupEdit.isFull_apply hfull edit, GroupEdit.isSound_apply hsound edit⟩

theorem equipped_assembled (properties : Properties) (host : Option String) (timeout : Int)
    (probe : Probe) : Equipped properties host (assembled properties host timeout probe) := by
  refine List.foldlRecOn (motive := Equipped properties host) _ _ ?_
    fun device hdevice property _ => hdevice.groupsEdited property
  exact List.foldlRecOn (motive := Equipped properties host) _ _
    (equipped_declaredWith properties host timeout probe)
    fun device hdevice property _ => hdevice.tablesEdited property

end Equipped

section Assembled

variable {properties : Properties} {host : Option String} {timeout : Int} {probe : Probe}
  {id : String} {group : Group}
  (hgroup : (assembled properties host timeout probe).group? id = some group)
include hgroup

theorem namesOf_of_assembled : namesOf properties id = some group.names :=
  ((equipped_assembled properties host timeout probe).attaching.group id group hgroup).1

theorem isFull_of_assembled : group.IsFull :=
  ((equipped_assembled properties host timeout probe).group id group hgroup).1

theorem read_assembled_eq_some_iff (hkeys : (Keyed.keys properties).Nodup) {ρ : Type}
    (Holds : Group → Prop) (read : Group → Option ρ) {sets : GroupEdit → Option ρ}
    {slot : GroupField ⊕ String}
    (hdeclare : ∀ names refresh cached, namesOf properties id = some names →
      Holds (.declare id names refresh cached timeout) ∧
        read (.declare id names refresh cached timeout) = none)
    (happly : ∀ group edit, Holds group → Holds (GroupEdit.apply group edit))
    (hread : ∀ group edit, Holds group →
      read (GroupEdit.apply group edit) = (sets edit).or (read group))
    (hslot : ∀ edit result, sets edit = some result → edit.slot = slot) (result : ρ) :
    read group = some result ↔ ∃ property ∈ properties, ∃ edit,
      (settingOf properties host).groupEditAt property = some (id, edit) ∧
        sets edit = some result := by
  rw [group?_assembled, Option.map_eq_some_iff] at hgroup
  obtain ⟨names, hnames, rfl⟩ := hgroup
  obtain ⟨hholds, hnone⟩ := hdeclare names (settingOf properties host).defaults.refresh
    (settingOf properties host).defaults.cached hnames
  rw [Keyed.read_editedAt_eq_some_iff Holds read happly hread ?_ hholds hnone]
  · constructor
    · rintro ⟨edit, hedit, hresult⟩
      obtain ⟨property, hproperty, hmade⟩ := List.mem_filterMap.mp hedit
      exact ⟨property, hproperty, edit, hmade, hresult⟩
    · rintro ⟨property, hproperty, edit, hmade, hresult⟩
      exact ⟨edit, List.mem_filterMap.mpr ⟨property, hproperty, hmade⟩, hresult⟩
  -- Edits that set the attribute have one slot, so the properties they come from have one key.
  · intro edit edit' hedit hedit' first second hfirst hsecond
    have hpath : GroupEdit.path id edit.slot = GroupEdit.path id edit'.slot := by
      rw [hslot edit first hfirst, hslot edit' second hsecond]
    have hsame := eq_of_mem_of_path_eq hkeys (fun _ _ => Setting.fields_of_groupEditAt) hedit hedit'
      hpath
    rw [(Prod.mk.inj hsame).2, hsecond] at hfirst
    exact (Option.some.inj hfirst).symm

theorem hasGroup_of_assembled : (settingOf properties host).hasGroup id := by
  have hnames := namesOf_of_assembled hgroup
  exact Option.isSome_iff_exists.mpr ⟨_, hnames⟩

theorem separator_assembled_iff (hkeys : (Keyed.keys properties).Nodup) {separator : Pattern} :
    group.separator = some separator ↔ ∃ property ∈ properties, Splits property id separator := by
  rw [read_assembled_eq_some_iff hgroup hkeys (fun _ => True) Group.separator
    (fun _ _ _ _ => ⟨trivial, rfl⟩) (fun _ _ _ => trivial)
    (fun group edit _ => GroupEdit.separator_apply group edit)
    (fun _ _ => GroupEdit.slot_of_separator?)]
  simp only [GroupEdit.separator?_eq_some_iff, exists_eq_right, Setting.groupEditAt_eq_separator_iff,
    hasGroup_of_assembled hgroup, true_and]

theorem decoding_assembled_iff (hkeys : (Keyed.keys properties).Nodup) {name : String}
    {channel : Channel} (hchannel : group.channel? name = some channel) {decoding : Decoding} :
    channel.decoding = some decoding ↔ (settingOf properties host).hasTable decoding.table ∧
      ∃ property ∈ properties, Binds property id name decoding := by
  have hname : name ∈ group.names := by
    rw [← isFull_of_assembled hgroup, hchannel]
    rfl
  have hread : GroupEdit.decodingIn name group = channel.decoding := by
    rw [GroupEdit.decodingIn, hchannel, Option.bind_some]
  have hdeclare : ∀ names refresh cached, namesOf properties id = some names →
      GroupEdit.HasChannel name (.declare id names refresh cached timeout) ∧
        GroupEdit.decodingIn name (.declare id names refresh cached timeout) = none := by
    intro names refresh cached hnames
    obtain rfl : group.names = names :=
      Option.some.inj ((namesOf_of_assembled hgroup).symm.trans hnames)
    exact ⟨GroupEdit.hasChannel_declare hname id refresh cached timeout,
      GroupEdit.decodingIn_declare name id group.names refresh cached timeout⟩
  rw [← hread, read_assembled_eq_some_iff hgroup hkeys (GroupEdit.HasChannel name)
    (GroupEdit.decodingIn name) hdeclare (fun _ edit hhas => hhas.apply edit)
    (fun _ edit hhas => hhas.decodingIn_apply edit) (fun _ _ => GroupEdit.slot_of_decoding?)]
  simp only [GroupEdit.decoding?_eq_some_iff, exists_eq_right, Setting.groupEditAt_eq_decoding_iff,
    hasGroup_of_assembled hgroup, true_and]
  constructor
  · rintro ⟨property, hproperty, htable, hbinds⟩
    exact ⟨htable, property, hproperty, hbinds⟩
  · rintro ⟨htable, property, hproperty, hbinds⟩
    exact ⟨property, hproperty, htable, hbinds⟩

end Assembled

end Device

end Telemetry
