import Telemetry.Proofs.Device.Attributes
import Telemetry.Proofs.Device.Listing

namespace Telemetry

namespace Building

theorem eq_of_outcome {α : Type} {fault? : Option Fault} {value result : α}
    (houtcome : outcome fault? value = .ok result) : result = value := by
  cases fault? with
  | some fault => cases houtcome
  | none => exact (Except.ok.inj houtcome).symm

end Building

namespace Device

/-- The defaults, and the device with all groups and code tables declared and nothing attached. -/
def declareAll (properties : Properties) (host : Option String) (timeout : Int) :
    Building (Defaults × Device) := do
  let device ← blank properties host timeout
  let defaults ← device.defaults
  let device ← (properties.foldlM (declare defaults) device : Log.Noting Device)
  pure (defaults, device)

/-- The device when these properties have been attached to the code tables. -/
def tablesSoFar (properties attached : Properties) (host : Option String) (timeout : Int) :
    Building Device := do
  let (defaults, device) ← declareAll properties host timeout
  attached.foldlM (attachToTables defaults) device

/-- The device when all properties have been attached to the code tables, and these to the groups. -/
def groupsSoFar (properties attached : Properties) (host : Option String) (timeout : Int) :
    Building Device := do
  let (defaults, device) ← declareAll properties host timeout
  let device ← properties.foldlM (attachToTables defaults) device
  attached.foldlM (attachToGroups defaults) device

theorem groupsSoFar_self (properties : Properties) (host : Option String) (timeout : Int) :
    groupsSoFar properties properties host timeout = build properties host timeout := by
  simp only [groupsSoFar, declareAll, build, bind_assoc, pure_bind]

/-- Is everything there that is looked up while properties are attached? -/
structure LookupsSucceed (properties : Properties) (host : Option String) (timeout : Int) : Prop where
  /-- Both loops, run to their ends, are the building of the device. -/
  complete : groupsSoFar properties properties host timeout = build properties host timeout
  /-- When the turn of a key comes, the device has the code table that it is about. -/
  table : ∀ before property after, properties = before ++ property :: after →
    ∀ id part, Text.fields '.' property.1 = ["transforms", id, part] →
      Building.Ensures (tablesSoFar properties before host timeout) fun device =>
        (device.table? id).isSome
  /-- Whenever the turn of a key comes, a group has the channels that factors and types are for. -/
  channel : ∀ before after, properties = before ++ after →
    Building.Ensures (groupsSoFar properties before host timeout) fun device =>
      ∀ id group, device.group? id = some group →
        ∀ name ∈ group.names, (group.channel? name).isSome

section Loops

variable {properties : Properties} {host : Option String} {timeout : Int}

theorem ensures_declareAll :
    Building.Ensures (declareAll properties host timeout) fun declared =>
      declared.1 = (settingOf properties host).defaults ∧ Equipped properties host declared.2 := by
  unfold declareAll
  refine (gives_blank properties host timeout).ensures.bind fun device hblank => ?_
  obtain ⟨probe, -, rfl⟩ := Building.eq_ok_of_map hblank
  refine (Building.gives_liftM (gives_defaults _)).ensures.bind fun defaults hdefaults => ?_
  obtain rfl := Except.ok.inj hdefaults
  refine (Building.gives_liftM (gives_foldlM_declare _ _ _)).ensures.bind fun device hdeclared => ?_
  obtain rfl := Except.ok.inj hdeclared
  exact Building.ensures_pure ⟨rfl, equipped_declaredWith properties host timeout probe⟩

theorem Equipped.ensures_attachToTables {device : Device} (hdevice : Equipped properties host device)
    {property : String × String} (hproperty : property ∈ properties) :
    Building.Ensures (attachToTables (settingOf properties host).defaults device property)
      (Equipped properties host) := by
  have hgives := gives_attachToTables hdevice.attaching.wellFormed hdevice.attaching.fits property
    fun id field hkey => hasTable_of_mem properties host hproperty hkey
  intro journal after hafter
  rw [Building.eq_of_outcome (hgives.ensures journal after hafter)]
  exact hdevice.tablesEdited property

theorem Equipped.ensures_attachToGroups {device : Device} (hdevice : Equipped properties host device)
    (property : String × String) :
    Building.Ensures (attachToGroups (settingOf properties host).defaults device property)
      (Equipped properties host) := by
  have hgives := gives_attachToGroups hdevice.attaching.wellFormed hdevice.attaching.fits property
  intro journal after hafter
  rw [Building.eq_of_outcome (hgives.ensures journal after hafter)]
  exact hdevice.groupsEdited property

theorem ensures_tablesSoFar {attached : Properties} (hattached : attached ⊆ properties) :
    Building.Ensures (tablesSoFar properties attached host timeout) (Equipped properties host) := by
  refine ensures_declareAll.bind ?_
  rintro ⟨defaults, device⟩ ⟨rfl, hdevice⟩
  exact Building.ensures_foldlM (fun device hdevice property hproperty =>
    hdevice.ensures_attachToTables (hattached hproperty)) hdevice

theorem ensures_groupsSoFar (attached : Properties) :
    Building.Ensures (groupsSoFar properties attached host timeout) (Equipped properties host) := by
  refine ensures_declareAll.bind ?_
  rintro ⟨defaults, device⟩ ⟨rfl, hdevice⟩
  have htables := Building.ensures_foldlM (fun device hdevice property hproperty =>
    Equipped.ensures_attachToTables hdevice hproperty) hdevice
  refine htables.bind fun device hdevice => ?_
  exact Building.ensures_foldlM (fun device hdevice property _ =>
    Equipped.ensures_attachToGroups hdevice property) hdevice

theorem lookupsSucceed (properties : Properties) (host : Option String) (timeout : Int) :
    LookupsSucceed properties host timeout where
  complete := groupsSoFar_self properties host timeout
  table := by
    intro before property after hsplit id part hfields journal device hdevice
    have hbefore : before ⊆ properties := by simp [hsplit]
    have hequipped := ensures_tablesSoFar hbefore journal device hdevice
    have hhas := hequipped.attaching.fits.hasTable id
    rw [table?, ← Keyed.has, hhas, hasTable_iff]
    exact ⟨property, by simp [hsplit], part, hfields⟩
  channel := by
    intro before after _ journal device hdevice id group hgroup name hname
    have hequipped := ensures_groupsSoFar before journal device hdevice
    exact ((hequipped.group id group hgroup).1 name).mpr hname

end Loops

end Device

end Telemetry
