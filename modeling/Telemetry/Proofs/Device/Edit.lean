import Telemetry.Device.Build
import Telemetry.Proofs.Group.Channels
import Telemetry.Proofs.Template.Definitions

namespace Telemetry

namespace Building

/-- The pattern that a text stands for, if it is well-formed. -/
def compiled (source : String) : Except Fault (Option Pattern) :=
  match Pattern.compile source with
  | .ok pattern => .ok (some pattern)
  | .error .malformed => .ok none
  | .error fault => .error (.pattern fault)

theorem gives_pattern (source context : String) : Gives (pattern source context) (compiled source) := by
  unfold pattern compiled
  cases Pattern.compile source with
  | ok pattern => exact gives_pure _
  | error fault =>
      cases fault with
      | malformed => exact (gives_liftM (Log.gives_note _)).bind (gives_pure _)
      | _ => exact gives_throw _

end Building

namespace Refresh

def intervalOf (text : Option String) (default : Int) : Int :=
  (text.bind fun text => (read text).toOption).getD default

theorem gives_interval (text : Option String) (default : Int) (context : String) :
    Log.Gives (interval text default context) (intervalOf text default) := by
  cases text with
  | none => exact Log.gives_pure _
  | some text =>
      simp only [interval, intervalOf, Option.bind_some]
      cases read text with
      | ok interval => exact Log.gives_pure _
      | error fault => exact (Log.gives_note _).bind (Log.gives_pure _)

def cacheOf (text : Option String) (default : Bool) : Bool :=
  (text.map fun text => (readCache? text).getD true).getD default

theorem gives_cache (text : Option String) (default : Bool) (context : String) :
    Log.Gives (cache text default context) (cacheOf text default) := by
  cases text with
  | none => exact Log.gives_pure _
  | some text =>
      simp only [cache, cacheOf, Option.map_some, Option.getD_some]
      cases readCache? text with
      | some enabled => exact Log.gives_pure _
      | none => exact (Log.gives_note _).bind (Log.gives_pure _)

end Refresh

namespace Device

/-- What the properties of a profile are read against. -/
structure Setting where
  defaults : Defaults
  /-- What a template comes to. -/
  expanded : String → String
  hasTable : String → Bool
  hasGroup : String → Bool

/-- Does a device under construction stand in the setting? -/
structure Setting.Fits (setting : Setting) (device : Device) : Prop where
  expanded : ∀ template, Template.expanded device.definitions template = setting.expanded template
  hasTable : ∀ id, device.tables.has id = setting.hasTable id
  hasGroup : ∀ id, device.groups.has id = setting.hasGroup id

/-- The url that a template gives, if it can be taken apart. -/
def Setting.url (setting : Setting) (template : String) : Except Fault String :=
  let url := setting.expanded (Text.strip template)
  if Template.hasHole url then .ok url
  else
    match Url.read url with
    | .ok _ => .ok url
    | .error fault => .error (.url fault)

theorem Setting.Fits.gives_expandUrl {setting : Setting} {device : Device}
    (hfits : setting.Fits device) (template context : String) :
    Building.Gives (device.expandUrl template context) (setting.url template) := by
  unfold expandUrl Setting.url
  refine (Building.gives_liftM (Template.gives_expand _ _ _)).bind ?_
  rw [hfits.expanded]
  dsimp only
  split
  · exact (Building.gives_liftM (Log.gives_note _)).bind (Building.gives_pure _)
  · unfold Building.url
    cases Url.read (setting.expanded (Text.strip template)) with
    | error fault => exact (Building.gives_throw (.url fault)).bind_error _
    | ok url =>
        refine (Building.gives_pure url).bind ?_
        split
        · exact (Building.gives_liftM (Log.gives_note _)).bind (Building.gives_pure _)
        · exact Building.gives_pure _

/-- What a property does to a group. -/
inductive GroupEdit where
  | url (url : String)
  | separator (separator : Pattern)
  | pattern (pattern : Option Pattern)
  | refresh (refresh : Int)
  | cached (cached : Bool)
  | factors (texts : List String)
  | types (tags : List String)
  | decoding (channel : String) (decoding : Decoding)
deriving DecidableEq, Repr

def GroupEdit.apply (group : Group) : GroupEdit → Group
  | url text => { group with url := some text }
  | separator found => { group with separator := some found }
  | pattern found => { group with pattern := found }
  | refresh interval => { group with refresh := interval }
  | cached enabled => { group with cached := enabled }
  | factors texts =>
    group.mapChannels (Channel.afterFields Channel.factored (group.perField (texts.map some)))
  | types tags => group.mapChannels (Channel.afterFields Channel.typed (group.perField tags))
  | decoding channel found => group.mapChannels (Channel.onlyAt channel (Channel.decodedBy found))

/-- What an edit is about: an attribute of the group, or the decoding of a channel. -/
def GroupEdit.slot : GroupEdit → GroupField ⊕ String
  | url _ => .inl .url
  | separator _ => .inl .split
  | pattern _ => .inl .expr
  | refresh _ => .inl .refresh
  | cached _ => .inl .cache
  | factors _ => .inl .factors
  | types _ => .inl .types
  | decoding channel _ => .inr channel

namespace GroupEdit

@[simp] theorem name_apply (group : Group) (edit : GroupEdit) :
    (edit.apply group).name = group.name := by
  cases edit <;> rfl

@[simp] theorem names_apply (group : Group) (edit : GroupEdit) :
    (edit.apply group).names = group.names := by
  cases edit <;> rfl

/-- What an edit of a group does to each of its channels. -/
def onChannel (group : Group) : GroupEdit → Channel → Channel
  | factors texts => Channel.afterFields Channel.factored (group.perField (texts.map some))
  | types tags => Channel.afterFields Channel.typed (group.perField tags)
  | decoding channel found => Channel.onlyAt channel (Channel.decodedBy found)
  | _ => id

theorem channel?_apply (group : Group) (edit : GroupEdit) (name : String) :
    (edit.apply group).channel? name = (group.channel? name).map (edit.onChannel group) := by
  cases edit with
  | factors | types | decoding => exact Group.channel?_mapChannels _ group name
  | _ => exact (congrFun Option.map_id _).symm

theorem onChannel_rec {Holds : Channel → Prop}
    (hfactored : ∀ text channel, Holds channel → Holds (channel.factored text))
    (htyped : ∀ tag channel, Holds channel → Holds (channel.typed tag))
    (hdecoded : ∀ found channel, Holds channel → Holds (channel.decodedBy found))
    (group : Group) (edit : GroupEdit) {channel : Channel} (hchannel : Holds channel) :
    Holds (edit.onChannel group channel) := by
  cases edit with
  | factors => exact Channel.afterFields_rec Holds hfactored _ hchannel
  | types => exact Channel.afterFields_rec Holds htyped _ hchannel
  | decoding name found => exact Channel.onlyAt_rec (hdecoded found) name hchannel
  | _ => exact hchannel

theorem wellFormed_apply {group : Group} (hgroup : group.WellFormed) (edit : GroupEdit) :
    (edit.apply group).WellFormed := by
  cases edit with
  | factors => exact hgroup.mapChannels (Channel.name_afterFields Channel.name_factored _)
  | types => exact hgroup.mapChannels (Channel.name_afterFields Channel.name_typed _)
  | decoding channel found =>
      exact hgroup.mapChannels (Channel.name_onlyAt (Channel.name_decodedBy found) channel)
  | _ => exact ⟨hgroup.nodup, hgroup.named⟩

variable (texts tags : List String) (channel : String) (found : Decoding) (group : Group)

theorem types_factors :
    (types tags).apply ((factors texts).apply group) =
      (factors texts).apply ((types tags).apply group) := by
  apply Group.mapChannels_comm
  apply Channel.afterFields_comm (Channel.name_afterFields Channel.name_factored _)
  intro tag channel
  have hcomm := fun text channel => Channel.factored_typed text tag channel
  exact (Channel.afterFields_comm (Channel.name_typed tag) hcomm _ channel).symm

theorem factors_decoding :
    (factors texts).apply ((decoding channel found).apply group) =
      (decoding channel found).apply ((factors texts).apply group) := by
  apply Group.mapChannels_comm
  apply Channel.afterFields_comm (Channel.name_onlyAt (Channel.name_decodedBy found) channel)
  intro text channel
  have hcomm := Channel.decodedBy_factored found text
  exact (Channel.onlyAt_comm (Channel.name_factored text) hcomm _ channel).symm

theorem types_decoding :
    (types tags).apply ((decoding channel found).apply group) =
      (decoding channel found).apply ((types tags).apply group) := by
  apply Group.mapChannels_comm
  apply Channel.afterFields_comm (Channel.name_onlyAt (Channel.name_decodedBy found) channel)
  intro tag channel
  have hcomm := Channel.decodedBy_typed found tag
  exact (Channel.onlyAt_comm (Channel.name_typed tag) hcomm _ channel).symm

theorem decoding_decoding {channel other : String} (hne : channel ≠ other) (found found' : Decoding) :
    (decoding channel found).apply ((decoding other found').apply group) =
      (decoding other found').apply ((decoding channel found).apply group) := by
  apply Group.mapChannels_comm
  exact Channel.onlyAt_onlyAt_of_ne (Channel.name_decodedBy found) (Channel.name_decodedBy found') hne

/-- Edits of different slots commute. Plain attributes are fields of their own; factors, types and
decodings are different fields of the channels. -/
theorem apply_comm {edit edit' : GroupEdit} (hslot : edit.slot ≠ edit'.slot) (group : Group) :
    edit'.apply (edit.apply group) = edit.apply (edit'.apply group) := by
  -- only edits that go through the channels can meet each other
  cases edit with
  | factors texts =>
      cases edit' with
      | factors => exact absurd rfl hslot
      | types tags => exact types_factors texts tags group
      | decoding channel found => exact (factors_decoding texts channel found group).symm
      | _ => rfl
  | types tags =>
      cases edit' with
      | types => exact absurd rfl hslot
      | factors texts => exact (types_factors texts tags group).symm
      | decoding channel found => exact (types_decoding tags channel found group).symm
      | _ => rfl
  | decoding channel found =>
      cases edit' with
      | factors texts => exact factors_decoding texts channel found group
      | types tags => exact types_decoding tags channel found group
      | decoding other found' =>
          refine decoding_decoding group (fun hother => hslot ?_) found' found
          rw [hother]
          rfl
      | _ => rfl
  | _ => cases edit' <;> first | rfl | exact absurd rfl hslot

end GroupEdit

/-- What a property does to a code table. -/
inductive TableEdit where
  | url (url : String)
  | types (types : List String)
  | expr (pattern : Pattern) (relations : List String)
  | refresh (refresh : Int)
  | cached (cached : Bool)
deriving DecidableEq, Repr

namespace TableEdit

def apply (table : CodeTable) : TableEdit → CodeTable
  | url text => { table with url := some text }
  | types tags => { table with types := tags }
  | expr found relations => { table with pattern := some found, relations }
  | refresh interval => { table with refresh := interval }
  | cached enabled => { table with cached := enabled }

def slot : TableEdit → TableField
  | url _ => .url
  | types _ => .types
  | expr _ _ => .expr
  | refresh _ => .refresh
  | cached _ => .cache

@[simp] theorem name_apply (table : CodeTable) (edit : TableEdit) :
    (edit.apply table).name = table.name := by
  cases edit <;> rfl

theorem apply_comm {edit edit' : TableEdit} (hslot : edit.slot ≠ edit'.slot) (table : CodeTable) :
    edit'.apply (edit.apply table) = edit.apply (edit'.apply table) := by
  cases edit <;> cases edit' <;> first | rfl | exact absurd rfl hslot

end TableEdit

namespace Setting

/-- The edit that an attribute of a group stands for, if its value is well-formed. -/
def groupEdit? (setting : Setting) (field : GroupField) (value : String) :
    Except Fault (Option GroupEdit) :=
  match field with
  | .vars => .ok none
  | .factors => .ok (some (.factors (Text.items value)))
  | .types => .ok (some (.types (Text.items value)))
  | .split => Option.map .separator <$> Building.compiled (unquote value)
  | .expr => (fun pattern => some (.pattern pattern)) <$> Building.compiled (unquote value)
  | .url => (fun url => some (.url url)) <$> setting.url value
  | .refresh => .ok (some (.refresh (Refresh.intervalOf (some value) setting.defaults.refresh)))
  | .cache => .ok (some (.cached (Refresh.cacheOf (some value) true)))

/-- The edit that a binding of a channel stands for, if its value is well-formed. -/
def bindingEdit? (setting : Setting) (channel value : String) : Option GroupEdit :=
  match Text.items value with
  | [table, source, target] =>
    if setting.hasTable table then some (.decoding channel ⟨table, source, target⟩) else none
  | _ => none

/-- The edit that the pattern and the relations of a code table stand for, if well-formed. -/
def exprEdit? (value : String) : Except Fault (Option TableEdit) :=
  match takeExpr value with
  | none => .ok none
  | some (source, names) =>
    Option.map (fun pattern => .expr pattern (Text.items names)) <$> Building.compiled source

/-- The edit that an attribute of a code table stands for, if its value is well-formed. -/
def tableEdit? (setting : Setting) (field : TableField) (value : String) :
    Except Fault (Option TableEdit) :=
  match field with
  | .url => (fun url => some (.url url)) <$> setting.url value
  | .types => .ok (some (.types (Text.items value)))
  | .expr => exprEdit? value
  | .refresh => .ok (some (.refresh (Refresh.intervalOf (some value) setting.defaults.refresh)))
  | .cache => .ok (some (.cached (Refresh.cacheOf (some value) true)))

def tableEditOf (setting : Setting) (property : String × String) :
    Except Fault (Option (String × TableEdit)) :=
  match PropertyKey.ofText property.1 with
  | .table id field => Option.map (id, ·) <$> setting.tableEdit? field property.2
  | _ => .ok none

/-- The edit of a group that a property stands for. One of a group without channels is none. -/
def groupEditOf (setting : Setting) (property : String × String) :
    Except Fault (Option (String × GroupEdit)) :=
  match PropertyKey.ofText property.1 with
  | .group id field =>
    if setting.hasGroup id then Option.map (id, ·) <$> setting.groupEdit? field property.2
    else .ok none
  | .binding id channel =>
    if setting.hasGroup id then
      Option.map (id, ·) <$> Except.ok (setting.bindingEdit? channel property.2)
    else .ok none
  | _ => .ok none

/-- The edit of a code table that a property makes. -/
def tableEditAt (setting : Setting) (property : String × String) : Option (String × TableEdit) :=
  (setting.tableEditOf property).toOption.join

/-- The edit of a group that a property makes. -/
def groupEditAt (setting : Setting) (property : String × String) : Option (String × GroupEdit) :=
  (setting.groupEditOf property).toOption.join

end Setting

theorem gives_attachExpr (table : CodeTable) (key value : String) :
    Building.Gives (attachExpr table key value)
      ((fun edit => edit.elim table (·.apply table)) <$> Setting.exprEdit? value) := by
  unfold attachExpr Setting.exprEdit?
  cases takeExpr value with
  | none => exact (Building.gives_liftM (Log.gives_note _)).bind (Building.gives_pure _)
  | some expr =>
      obtain ⟨source, names⟩ := expr
      dsimp only
      rw [Functor.map_map]
      refine (Building.gives_pattern _ _).bind_map ?_
      intro pattern
      cases pattern with
      | none => exact Building.gives_pure _
      | some pattern =>
          dsimp only
          split
          · exact (Building.gives_liftM (Log.gives_note _)).bind (Building.gives_pure _)
          · exact Building.gives_pure _

namespace Setting.Fits

variable {setting : Setting} {device : Device}

theorem gives_attachTable (hfits : setting.Fits device) (table : CodeTable) (field : TableField)
    (key value : String) :
    Building.Gives (attachTable setting.defaults device table field key value)
      ((fun edit => edit.elim table (·.apply table)) <$> setting.tableEdit? field value) := by
  cases field with
  | url =>
      simp only [attachTable, tableEdit?, Functor.map_map]
      exact (hfits.gives_expandUrl value key).bind_map fun _ => Building.gives_pure _
  | types => exact Building.gives_pure _
  | expr => exact gives_attachExpr table key value
  | refresh =>
      exact (Building.gives_liftM (Refresh.gives_interval _ _ _)).bind (Building.gives_pure _)
  | cache => exact (Building.gives_liftM (Refresh.gives_cache _ _ _)).bind (Building.gives_pure _)

theorem gives_attachGroup (hfits : setting.Fits device) {group : Group} (hgroup : group.WellFormed)
    (field : GroupField) (key value : String) :
    Building.Gives (attachGroup setting.defaults device group field key value)
      ((fun edit => edit.elim group (·.apply group)) <$> setting.groupEdit? field value) := by
  cases field with
  | vars => exact Building.gives_pure group
  | factors => exact Building.gives_liftM (hgroup.gives_withFactors _)
  | types => exact Building.gives_liftM (hgroup.gives_withTypes _)
  | split =>
      simp only [attachGroup, groupEdit?, Functor.map_map]
      refine (Building.gives_pattern _ _).bind_map ?_
      intro separator
      cases separator <;> exact Building.gives_pure _
  | expr =>
      simp only [attachGroup, groupEdit?, Functor.map_map]
      exact (Building.gives_pattern _ _).bind_map fun _ => Building.gives_pure _
  | url =>
      simp only [attachGroup, groupEdit?, Functor.map_map]
      exact (hfits.gives_expandUrl value key).bind_map fun _ => Building.gives_pure _
  | refresh =>
      exact (Building.gives_liftM (Refresh.gives_interval _ _ _)).bind (Building.gives_pure _)
  | cache => exact (Building.gives_liftM (Refresh.gives_cache _ _ _)).bind (Building.gives_pure _)

theorem gives_bind (hfits : setting.Fits device) {group : Group} (hgroup : group.WellFormed)
    (key channel value : String) :
    Log.Gives (device.bind group key channel value)
      ((setting.bindingEdit? channel value).elim group (·.apply group)) := by
  unfold Device.bind bindingEdit?
  generalize Text.items value = items
  match items with
  | [table, source, target] =>
      simp only [hfits.hasTable]
      cases setting.hasTable table with
      | false => exact (Log.gives_note _).bind (Log.gives_pure _)
      | true =>
          cases hchannel : group.channel? channel with
          | none =>
              have hsame := hgroup.mapChannels_onlyAt_eq_self hchannel
              simp only [if_true, Option.elim_some, GroupEdit.apply, hsame]
              exact (Log.gives_note _).bind (Log.gives_pure _)
          | some found =>
              have hsame := hgroup.withChannel_eq hchannel
                (Channel.name_decodedBy ⟨table, source, target⟩ found)
              simp only [if_true, Option.elim_some, GroupEdit.apply, ← hsame]
              exact (found.gives_withDecoding _).bind (Log.gives_pure _)
  | [] | [_] | [_, _] | _ :: _ :: _ :: _ :: _ => exact (Log.gives_note _).bind (Log.gives_pure _)

end Setting.Fits

end Device

end Telemetry
