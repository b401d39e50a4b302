import Telemetry.Proofs.Device.Declaration

/-!
What the building of a device comes to. `assembled` says it without reports and in three strokes: the
groups and the code tables that the properties declare, the edits of the tables, the edits of the
groups. `gives_build` says that this is what comes out, unless one of the edits is a fault.
-/

namespace Telemetry

namespace Probe

/-- The pattern of a probe, if it is well-formed. -/
def patternIn (expr : Option String) : Except Fault (Option Pattern) :=
  match expr with
  | none => .ok none
  | some expr => if expr = "" then .ok none else Building.compiled (unquote expr)

/-- The probe that a profile's properties give. -/
def read (properties : Properties) : Except Fault Probe :=
  (fun pattern => {
    url := ((properties.lookup "test.url").filter (· ≠ "")).map Text.strip
    pattern
    port := (properties.lookup "test.port").bind Text.readInt }) <$>
  patternIn (properties.lookup "test.expr")

theorem gives_patternOf (expr : Option String) (name : String) :
    Building.Gives (patternOf expr name) (patternIn expr) := by
  cases expr with
  | none => exact Building.gives_pure _
  | some expr =>
      simp only [patternOf, patternIn]
      split
      · exact Building.gives_pure _
      · exact Building.gives_pattern _ _

theorem gives_portOf (port : Option String) (name : String) :
    Log.Gives (portOf port name) (port.bind Text.readInt) := by
  cases port with
  | none => exact Log.gives_pure _
  | some port =>
      simp only [portOf, Option.bind_some]
      cases Text.readInt port with
      | some port => exact Log.gives_pure _
      | none => exact (Log.gives_note _).bind (Log.gives_pure _)

theorem gives_ofProperties (properties : Properties) (name : String) :
    Building.Gives (ofProperties properties name) (read properties) := by
  unfold ofProperties read
  refine (gives_patternOf _ _).bind_map fun pattern => ?_
  exact (Building.gives_liftM (gives_portOf _ _)).bind (Building.gives_pure _)

end Probe

namespace Device

theorem GroupEdit.pristine_apply {group : Group} (hgroup : group.Pristine) (edit : GroupEdit) :
    (edit.apply group).Pristine := by
  intro key channel hchannel
  rw [channel?_apply, Option.map_eq_some_iff] at hchannel
  obtain ⟨before, hbefore, rfl⟩ := hchannel
  obtain ⟨hkey, hempty⟩ := hgroup key before hbefore
  rw [names_apply]
  exact ⟨hkey, onChannel_rec (fun text _ hempty => hempty.factored text)
    (fun tag _ hempty => hempty.typed tag) (fun found _ hempty => hempty.decodedBy found)
    group edit hempty⟩

def tablesEdited (setting : Setting) (device : Device) (property : String × String) : Device :=
  match setting.tableEditAt property with
  | some edit =>
    { device with tables := device.tables.adjust edit.1 fun table => edit.2.apply table }
  | none => device

def groupsEdited (setting : Setting) (device : Device) (property : String × String) : Device :=
  match setting.groupEditAt property with
  | some edit =>
    { device with groups := device.groups.adjust edit.1 fun group => edit.2.apply group }
  | none => device

theorem WellFormed.withTable_eq {device : Device} (hdevice : device.WellFormed) {id : String}
    {table : CodeTable} (hfound : device.table? id = some table) {f : CodeTable → CodeTable}
    (hname : (f table).name = table.name) :
    device.withTable (f table) = { device with tables := device.tables.adjust id f } := by
  rw [Device.withTable, hname, hdevice.table id table hfound,
    Keyed.put_eq_adjust hdevice.nodupTables hfound]

theorem WellFormed.withGroup_eq {device : Device} (hdevice : device.WellFormed) {id : String}
    {group : Group} (hfound : device.group? id = some group) {f : Group → Group}
    (hname : (f group).name = group.name) :
    device.withGroup (f group) = { device with groups := device.groups.adjust id f } := by
  rw [Device.withGroup, hname, (hdevice.group id group hfound).1,
    Keyed.put_eq_adjust hdevice.nodupGroups hfound]

theorem WellFormed.withTable_eq_self {device : Device} (hdevice : device.WellFormed) {id : String}
    {table : CodeTable} (hfound : device.table? id = some table) :
    device.withTable table = device := by
  rw [Device.withTable, hdevice.table id table hfound, Keyed.put_eq_self hfound]

theorem WellFormed.withGroup_eq_self {device : Device} (hdevice : device.WellFormed) {id : String}
    {group : Group} (hfound : device.group? id = some group) :
    device.withGroup group = device := by
  rw [Device.withGroup, (hdevice.group id group hfound).1, Keyed.put_eq_self hfound]

section Attached

variable {setting : Setting} {device : Device} (hdevice : device.WellFormed)
  (hfits : setting.Fits device)
include hdevice hfits

theorem gives_attachToTables (property : String × String)
    (htable : ∀ id field, PropertyKey.ofText property.1 = .table id field → setting.hasTable id) :
    Building.Gives (attachToTables setting.defaults device property)
      (Building.outcome (Building.faultOf (setting.tableEditOf property))
        (device.tablesEdited setting property)) := by
  unfold attachToTables tablesEdited Setting.tableEditAt Setting.tableEditOf
  cases hkey : PropertyKey.ofText property.1 with
  | table id field =>
      obtain ⟨table, hfound⟩ : ∃ table, device.table? id = some table :=
        Option.isSome_iff_exists.mp ((hfits.hasTable id).trans (htable id field hkey))
      have hgives := hfits.gives_attachTable table field property.1 property.2
      simp only [hfound]
      cases hedit : setting.tableEdit? field property.2 with
      | error fault =>
          rw [hedit] at hgives
          exact hgives.bind_error _
      | ok edit =>
          rw [hedit] at hgives
          refine hgives.bind (Building.gives_pure_of_eq ?_)
          cases edit with
          | none => exact hdevice.withTable_eq_self hfound
          | some edit => exact hdevice.withTable_eq (f := (edit.apply ·)) hfound (edit.name_apply table)
  | wrongTable id => exact (Building.gives_liftM (Log.gives_note _)).bind (Building.gives_pure _)
  | _ => exact Building.gives_pure _

theorem gives_attachToGroups (property : String × String) :
    Building.Gives (attachToGroups setting.defaults device property)
      (Building.outcome (Building.faultOf (setting.groupEditOf property))
        (device.groupsEdited setting property)) := by
  unfold attachToGroups groupsEdited Setting.groupEditAt Setting.groupEditOf
  cases hkey : PropertyKey.ofText property.1 with
  | group id field =>
      simp only [hkey]
      rw [← hfits.hasGroup id, Keyed.has, ← group?]
      cases hfound : device.group? id with
      | none => exact (Building.gives_liftM (Log.gives_note _)).bind (Building.gives_pure _)
      | some group =>
          have hgroup := (hdevice.group id group hfound).2
          have hgives := hfits.gives_attachGroup hgroup field property.1 property.2
          simp only [Option.isSome_some, if_true]
          cases hedit : setting.groupEdit? field property.2 with
          | error fault =>
              rw [hedit] at hgives
              exact hgives.bind_error _
          | ok edit =>
              rw [hedit] at hgives
              refine hgives.bind (Building.gives_pure_of_eq ?_)
              cases edit with
              | none => exact hdevice.withGroup_eq_self hfound
              | some edit =>
                  exact hdevice.withGroup_eq (f := (edit.apply ·)) hfound (edit.name_apply group)
  | binding id channel =>
      simp only [hkey]
      rw [← hfits.hasGroup id, Keyed.has, ← group?]
      cases hfound : device.group? id with
      | none => exact (Building.gives_liftM (Log.gives_note _)).bind (Building.gives_pure _)
      | some group =>
          have hgroup := (hdevice.group id group hfound).2
          have hgives := hfits.gives_bind hgroup property.1 channel property.2
          simp only [Option.isSome_some, if_true]
          refine (Building.gives_liftM hgives).bind (Building.gives_pure_of_eq ?_)
          cases setting.bindingEdit? channel property.2 with
          | none => exact hdevice.withGroup_eq_self hfound
          | some edit =>
              exact hdevice.withGroup_eq (f := (edit.apply ·)) hfound (edit.name_apply group)
  | wrongGroup | malformed | unknown =>
      simp only [hkey]
      exact (Building.gives_liftM (Log.gives_note _)).bind (Building.gives_pure _)
  | _ =>
      simp only [hkey]
      exact Building.gives_pure _

end Attached

section Edited

variable {setting : Setting} {device : Device}

theorem WellFormed.tablesEdited (hdevice : device.WellFormed) (property : String × String) :
    (device.tablesEdited setting property).WellFormed := by
  unfold Device.tablesEdited
  split
  · rename_i edit _
    refine ⟨hdevice.nodupGroups, ?_, hdevice.group, ?_⟩
    · rw [Keyed.keys_adjust]
      exact hdevice.nodupTables
    · intro id table hfound
      rw [table?, Keyed.lookup_adjust, Option.map_eq_some_iff] at hfound
      obtain ⟨before, hbefore, rfl⟩ := hfound
      have hname := hdevice.table id before hbefore
      split
      · exact (edit.2.name_apply before).trans hname
      · exact hname
  · exact hdevice

theorem WellFormed.groupsEdited (hdevice : device.WellFormed) (property : String × String) :
    (device.groupsEdited setting property).WellFormed := by
  unfold Device.groupsEdited
  split
  · rename_i edit _
    refine ⟨?_, hdevice.nodupTables, ?_, hdevice.table⟩
    · rw [Keyed.keys_adjust]
      exact hdevice.nodupGroups
    · intro id group hfound
      rw [group?, Keyed.lookup_adjust, Option.map_eq_some_iff] at hfound
      obtain ⟨before, hbefore, rfl⟩ := hfound
      obtain ⟨hname, hgroup⟩ := hdevice.group id before hbefore
      split
      · exact ⟨(edit.2.name_apply before).trans hname, GroupEdit.wellFormed_apply hgroup edit.2⟩
      · exact ⟨hname, hgroup⟩
  · exact hdevice

theorem Setting.Fits.tablesEdited (hfits : setting.Fits device) (property : String × String) :
    setting.Fits (device.tablesEdited setting property) := by
  unfold Device.tablesEdited
  split
  · refine ⟨hfits.expanded, fun id => ?_, hfits.hasGroup⟩
    rw [Keyed.has_adjust]
    exact hfits.hasTable id
  · exact hfits

theorem Setting.Fits.groupsEdited (hfits : setting.Fits device) (property : String × String) :
    setting.Fits (device.groupsEdited setting property) := by
  unfold Device.groupsEdited
  split
  · refine ⟨hfits.expanded, hfits.hasTable, fun id => ?_⟩
    rw [Keyed.has_adjust]
    exact hfits.hasGroup id
  · exact hfits

end Edited

def Setting.tableEdits (setting : Setting) (properties : Properties) : List (String × TableEdit) :=
  properties.filterMap setting.tableEditAt

def Setting.groupEdits (setting : Setting) (properties : Properties) : List (String × GroupEdit) :=
  properties.filterMap setting.groupEditAt

theorem foldl_tablesEdited (setting : Setting) (device : Device) (properties : Properties) :
    properties.foldl (tablesEdited setting) device =
      { device with
        tables := Keyed.edited TableEdit.apply (setting.tableEdits properties) device.tables } := by
  induction properties generalizing device with
  | nil => rfl
  | cons property properties ih =>
      rw [List.foldl_cons, ih, Setting.tableEdits, Setting.tableEdits, tablesEdited]
      cases hedit : setting.tableEditAt property with
      | none => rw [List.filterMap_cons_none hedit]
      | some edit =>
          rw [List.filterMap_cons_some hedit]
          rfl

theorem foldl_groupsEdited (setting : Setting) (device : Device) (properties : Properties) :
    properties.foldl (groupsEdited setting) device =
      { device with
        groups := Keyed.edited GroupEdit.apply (setting.groupEdits properties) device.groups } := by
  induction properties generalizing device with
  | nil => rfl
  | cons property properties ih =>
      rw [List.foldl_cons, ih, Setting.groupEdits, Setting.groupEdits, groupsEdited]
      cases hedit : setting.groupEditAt property with
      | none => rw [List.filterMap_cons_none hedit]
      | some edit =>
          rw [List.filterMap_cons_some hedit]
          rfl

/-- What holds where a group or a table says nothing. -/
def defaultsOf (options : Keyed String String) : Defaults where
  refresh := Refresh.intervalOf (options.lookup "refresh") Refresh.defaultInterval
  cached := Refresh.cacheOf (options.lookup "cache") true

/-- What properties are read against, for a host. -/
def settingOf (properties : Properties) (host : Option String) : Setting where
  defaults := defaultsOf (properties.family "options")
  expanded := Template.expanded (Template.resolved (properties.family "vars") host)
  hasTable id := (properties.filterMap tableName?).contains id
  hasGroup id := (namesOf properties id).isSome

def blankWith (properties : Properties) (host : Option String) (timeout : Int) (probe : Probe) :
    Device where
  name := properties.name?.getD "undefined"
  host := host
  maturity := (properties.lookup "properties.maturity").getD "draft"
  author := (properties.lookup "properties.author").getD ""
  definitions := Template.resolved (properties.family "vars") host
  options := properties.family "options"
  probe := probe
  timeout := timeout

/-- The device with the groups and the code tables that properties declare. -/
def declaredWith (properties : Properties) (host : Option String) (timeout : Int) (probe : Probe) :
    Device :=
  properties.foldl (declared (settingOf properties host).defaults)
    (blankWith properties host timeout probe)

/-- The device that properties describe. -/
def assembled (properties : Properties) (host : Option String) (timeout : Int) (probe : Probe) :
    Device :=
  properties.foldl (groupsEdited (settingOf properties host))
    (properties.foldl (tablesEdited (settingOf properties host))
      (declaredWith properties host timeout probe))

/-- The fault of the first property that is one: of a code table, or else of a group. -/
def editFault? (setting : Setting) (properties : Properties) : Option Fault :=
  (properties.findSome? fun property => Building.faultOf (setting.tableEditOf property)).or
    (properties.findSome? fun property => Building.faultOf (setting.groupEditOf property))

/-- What the building of a device comes to. -/
def built (properties : Properties) (host : Option String) (timeout : Int) : Except Fault Device :=
  Probe.read properties >>= fun probe =>
    Building.outcome (editFault? (settingOf properties host) properties)
      (assembled properties host timeout probe)

theorem gives_blank (properties : Properties) (host : Option String) (timeout : Int) :
    Building.Gives (blank properties host timeout)
      (blankWith properties host timeout <$> Probe.read properties) := by
  unfold blank
  refine (Building.gives_liftM (Log.gives_noteAll _)).bind ?_
  refine (Building.gives_liftM (Template.gives_resolve _ _)).bind ?_
  exact (Probe.gives_ofProperties _ _).bind_map fun _ => Building.gives_pure _

theorem gives_defaults (device : Device) :
    Log.Gives device.defaults (defaultsOf device.options) :=
  (Refresh.gives_interval _ _ _).bind ((Refresh.gives_cache _ _ _).bind (Log.gives_pure _))

section Build

variable (properties : Properties) (host : Option String) (timeout : Int) (probe : Probe)

theorem wellFormed_declaredWith : (declaredWith properties host timeout probe).WellFormed := by
  refine List.foldlRecOn (motive := WellFormed) _ _ ?_ ?_
  · constructor
    · exact List.nodup_nil
    · exact List.nodup_nil
    · intro id group hgroup
      contradiction
    · intro id table htable
      contradiction
  · intro device hdevice property _
    exact hdevice.declared _ property

theorem group?_declaredWith (id : String) :
    (declaredWith properties host timeout probe).group? id =
      (namesOf properties id).map fun names =>
        Group.declare id names (settingOf properties host).defaults.refresh
          (settingOf properties host).defaults.cached timeout := by
  rw [declaredWith, group?_foldl_declared]
  exact Option.or_none

theorem table?_declaredWith (id : String) :
    (declaredWith properties host timeout probe).table? id =
      if (settingOf properties host).hasTable id then
        some (freshTable (settingOf properties host).defaults timeout id) else none := by
  rw [declaredWith, table?_foldl_declared]
  exact Option.none_or

theorem fits_declaredWith :
    (settingOf properties host).Fits (declaredWith properties host timeout probe) := by
  constructor
  · intro template
    rw [declaredWith, foldl_declared_eq_with]
    rfl
  · intro id
    rw [Keyed.has, ← table?, table?_declaredWith]
    cases (settingOf properties host).hasTable id <;> rfl
  · intro id
    rw [Keyed.has, ← group?, group?_declaredWith, Option.isSome_map]
    rfl

theorem hasTable_of_mem {property : String × String} (hproperty : property ∈ properties) {id : String}
    {field : TableField} (hkey : PropertyKey.ofText property.1 = .table id field) :
    (settingOf properties host).hasTable id := by
  have hname : tableName? property = some id := by
    simp only [tableName?, hkey]
  have hmem : id ∈ properties.filterMap tableName? :=
    List.mem_filterMap.mpr ⟨property, hproperty, hname⟩
  exact List.contains_iff_mem.mpr hmem

theorem gives_foldlM_attachToTables :
    Building.Gives
      (properties.foldlM (attachToTables (settingOf properties host).defaults)
        (declaredWith properties host timeout probe))
      (Building.outcome
        (properties.findSome? fun property =>
          Building.faultOf ((settingOf properties host).tableEditOf property))
        (properties.foldl (tablesEdited (settingOf properties host))
          (declaredWith properties host timeout probe))) := by
  have hstep : ∀ device, device.WellFormed ∧ (settingOf properties host).Fits device →
      ∀ property ∈ properties,
        Building.Gives (attachToTables (settingOf properties host).defaults device property)
          (Building.outcome
            (Building.faultOf ((settingOf properties host).tableEditOf property))
            (device.tablesEdited (settingOf properties host) property)) := by
    rintro device ⟨hdevice, hfits⟩ property hproperty
    refine gives_attachToTables hdevice hfits property fun id field hkey => ?_
    exact hasTable_of_mem properties host hproperty hkey
  refine Building.gives_foldlM hstep ?_ ⟨?_, fits_declaredWith properties host timeout probe⟩
  · rintro device ⟨hdevice, hfits⟩ property
    exact ⟨hdevice.tablesEdited property, hfits.tablesEdited property⟩
  · exact wellFormed_declaredWith properties host timeout probe

theorem tablesEdited_declaredWith :
    (properties.foldl (tablesEdited (settingOf properties host))
      (declaredWith properties host timeout probe)).WellFormed ∧
    (settingOf properties host).Fits (properties.foldl (tablesEdited (settingOf properties host))
      (declaredWith properties host timeout probe)) := by
  refine List.foldlRecOn (motive := fun device =>
    device.WellFormed ∧ (settingOf properties host).Fits device) _ _ ?_ ?_
  · exact ⟨wellFormed_declaredWith properties host timeout probe,
      fits_declaredWith properties host timeout probe⟩
  · rintro device ⟨hdevice, hfits⟩ property -
    exact ⟨hdevice.tablesEdited property, hfits.tablesEdited property⟩

theorem gives_foldlM_attachToGroups {device : Device} (hdevice : device.WellFormed)
    (hfits : (settingOf properties host).Fits device) :
    Building.Gives
      (properties.foldlM (attachToGroups (settingOf properties host).defaults) device)
      (Building.outcome
        (properties.findSome? fun property =>
          Building.faultOf ((settingOf properties host).groupEditOf property))
        (properties.foldl (groupsEdited (settingOf properties host)) device)) := by
  have hstep : ∀ device, device.WellFormed ∧ (settingOf properties host).Fits device →
      ∀ property ∈ properties,
        Building.Gives (attachToGroups (settingOf properties host).defaults device property)
          (Building.outcome
            (Building.faultOf ((settingOf properties host).groupEditOf property))
            (device.groupsEdited (settingOf properties host) property)) := by
    rintro device ⟨hdevice, hfits⟩ property -
    exact gives_attachToGroups hdevice hfits property
  refine Building.gives_foldlM hstep ?_ ⟨hdevice, hfits⟩
  rintro device ⟨hdevice, hfits⟩ property
  exact ⟨hdevice.groupsEdited property, hfits.groupsEdited property⟩

/-- What comes out of a building: the assembled device, unless the pattern of the probe or an edit is
a fault. -/
theorem gives_build :
    Building.Gives (build properties host timeout) (built properties host timeout) := by
  unfold build built
  have hblank := gives_blank properties host timeout
  cases hprobe : Probe.read properties with
  | error fault =>
      rw [hprobe] at hblank
      exact hblank.bind_error _
  | ok probe =>
      rw [hprobe] at hblank
      refine hblank.bind ?_
      refine (Building.gives_liftM (gives_defaults _)).bind ?_
      refine (Building.gives_liftM (gives_foldlM_declare _ _ _)).bind ?_
      have htables := gives_foldlM_attachToTables properties host timeout probe
      simp only [Building.outcome, editFault?]
      cases hfault : properties.findSome? fun property =>
          Building.faultOf ((settingOf properties host).tableEditOf property) with
      | some fault =>
          rw [hfault] at htables
          exact htables.bind_error _
      | none =>
          rw [hfault] at htables
          refine htables.bind ?_
          obtain ⟨hdevice, hfits⟩ := tablesEdited_declaredWith properties host timeout probe
          exact gives_foldlM_attachToGroups properties host hdevice hfits

theorem wellFormed_assembled : (assembled properties host timeout probe).WellFormed := by
  refine List.foldlRecOn (motive := WellFormed) _ _ ?_ ?_
  · exact (tablesEdited_declaredWith properties host timeout probe).1
  · intro device hdevice property _
    exact hdevice.groupsEdited property

theorem exists_assembled_eq :
    ∃ groups tables index, assembled properties host timeout probe =
      { blankWith properties host timeout probe with groups, tables, index } := by
  rw [assembled, foldl_groupsEdited, foldl_tablesEdited, declaredWith, foldl_declared_eq_with]
  exact ⟨_, _, _, rfl⟩

theorem group?_assembled (id : String) :
    (assembled properties host timeout probe).group? id =
      (namesOf properties id).map fun names =>
        Keyed.editedAt GroupEdit.apply id ((settingOf properties host).groupEdits properties)
          (.declare id names (settingOf properties host).defaults.refresh
            (settingOf properties host).defaults.cached timeout) := by
  rw [assembled, foldl_groupsEdited, group?, Keyed.lookup_edited, foldl_tablesEdited]
  dsimp only
  rw [← group?, group?_declaredWith, Option.map_map]
  rfl

theorem table?_assembled (id : String) :
    (assembled properties host timeout probe).table? id =
      if (settingOf properties host).hasTable id then
        some (Keyed.editedAt TableEdit.apply id ((settingOf properties host).tableEdits properties)
          (freshTable (settingOf properties host).defaults timeout id))
      else none := by
  rw [assembled, foldl_groupsEdited, table?, foldl_tablesEdited, Keyed.lookup_edited]
  rw [← table?, table?_declaredWith]
  cases (settingOf properties host).hasTable id <;> rfl

theorem lookup_index_assembled (name : String) :
    (assembled properties host timeout probe).index.lookup name = ownerOf properties name := by
  rw [assembled, foldl_groupsEdited, foldl_tablesEdited, declaredWith, lookup_foldl_declared]
  exact Option.or_none

theorem pristine_assembled {id : String} {group : Group}
    (hgroup : (assembled properties host timeout probe).group? id = some group) : group.Pristine := by
  rw [group?_assembled, Option.map_eq_some_iff] at hgroup
  obtain ⟨names, -, rfl⟩ := hgroup
  exact Keyed.editedAt_rec Group.Pristine
    (fun _ edit hgroup => GroupEdit.pristine_apply hgroup edit) _ id Group.pristine_declare

theorem exists_eq_assembled {journal : Log.Journal} {device : Device}
    (hbuild : ((build properties host timeout).run.run journal).1 = .ok device) :
    ∃ probe, device = assembled properties host timeout probe := by
  rw [gives_build, built] at hbuild
  cases hprobe : Probe.read properties with
  | error fault =>
      rw [hprobe] at hbuild
      cases hbuild
  | ok probe =>
      rw [hprobe] at hbuild
      cases hedit : editFault? (settingOf properties host) properties with
      | some fault =>
          rw [hedit] at hbuild
          cases hbuild
      | none =>
          rw [hedit] at hbuild
          exact ⟨probe, (Except.ok.inj hbuild).symm⟩

end Build

/-- A profile of a meter, with the keys in an order in which a reader would expect them. -/
def meterProfile : Properties := [
  ("name", "meter"),
  ("vars.base", "http://%\x7bhost\x7d"),
  ("options.refresh", "5000"),
  ("values.live.vars", "power,status"),
  ("values.live.url", "%\x7bbase\x7d/live"),
  ("values.live.split", ";"),
  ("values.live.factors", "0.1,null"),
  ("values.live.transforms.status", "statuses,code,word"),
  ("transforms.statuses.url", "%\x7bbase\x7d/statuses"),
  ("transforms.statuses.expr", "\"(.),(.*)\",code,word")]

end Device

end Telemetry
