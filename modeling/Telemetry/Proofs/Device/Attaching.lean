import Telemetry.Proofs.Device.Listing
import Telemetry.Proofs.Device.Rejected

namespace Telemetry

namespace Device

theorem GroupEdit.pattern_apply_of_ne {edit : GroupEdit} (hslot : edit.slot ≠ .inl .expr)
    (group : Group) : (edit.apply group).pattern = group.pattern := by
  cases edit with
  | pattern => exact absurd rfl hslot
  | _ => rfl

theorem namesOf_eq_none_of_new {properties : Properties} {key id : String}
    (hfields : Text.fields '.' key = ["values", id, "vars"]) (hnew : key ∉ Keyed.keys properties) :
    namesOf properties id = none := by
  rw [Option.eq_none_iff_forall_ne_some]
  intro names hnames
  obtain ⟨property, hproperty, hlists⟩ := exists_lists_of_namesOf hnames
  rw [Text.fields_injective '.' (hfields.trans hlists.key.symm)] at hnew
  exact hnew (List.mem_map_of_mem hproperty)

/-- What holds of a device while properties are attached: it has the groups and the code tables that
they declare. -/
structure Attaching (properties : Properties) (host : Option String) (device : Device) : Prop where
  wellFormed : device.WellFormed
  fits : (settingOf properties host).Fits device
  group : ∀ id group, device.group? id = some group →
    namesOf properties id = some group.names ∧ group.Pristine

section Attached

variable {properties : Properties} {host : Option String} {device : Device}

theorem attaching_declaredWith (properties : Properties) (host : Option String) (timeout : Int)
    (probe : Probe) : Attaching properties host (declaredWith properties host timeout probe) where
  wellFormed := wellFormed_declaredWith properties host timeout probe
  fits := fits_declaredWith properties host timeout probe
  group := by
    intro id group hgroup
    rw [group?_declaredWith, Option.map_eq_some_iff] at hgroup
    obtain ⟨names, hnames, rfl⟩ := hgroup
    exact ⟨hnames, Group.pristine_declare⟩

theorem groups_tablesEdited (setting : Setting) (property : String × String) :
    (device.tablesEdited setting property).groups = device.groups := by
  unfold tablesEdited
  split <;> rfl

theorem Attaching.tablesEdited (hdevice : Attaching properties host device)
    (property : String × String) :
    Attaching properties host (device.tablesEdited (settingOf properties host) property) where
  wellFormed := hdevice.wellFormed.tablesEdited property
  fits := hdevice.fits.tablesEdited property
  group := by
    intro id group hgroup
    rw [group?, groups_tablesEdited] at hgroup
    exact hdevice.group id group hgroup

theorem group?_groupsEdited {setting : Setting} {property : String × String} {id : String}
    {group : Group} (hgroup : (device.groupsEdited setting property).group? id = some group) :
    device.group? id = some group ∨ ∃ edit before, setting.groupEditAt property = some (id, edit) ∧
      device.group? id = some before ∧ group = edit.apply before := by
  unfold groupsEdited at hgroup
  split at hgroup
  · rename_i edit hedit
    rw [group?, Keyed.lookup_adjust, Option.map_eq_some_iff] at hgroup
    obtain ⟨before, hbefore, rfl⟩ := hgroup
    split
    · rename_i hid
      rw [eq_of_beq hid] at hbefore ⊢
      exact .inr ⟨edit.2, before, hedit, hbefore, rfl⟩
    · exact .inl hbefore
  · exact .inl hgroup

theorem Attaching.groupsEdited (hdevice : Attaching properties host device)
    (property : String × String) :
    Attaching properties host (device.groupsEdited (settingOf properties host) property) where
  wellFormed := hdevice.wellFormed.groupsEdited property
  fits := hdevice.fits.groupsEdited property
  group := by
    intro id group hgroup
    rcases group?_groupsEdited hgroup with hsame | ⟨edit, before, -, hbefore, rfl⟩
    · exact hdevice.group id group hsame
    · obtain ⟨hnames, hpristine⟩ := hdevice.group id before hbefore
      rw [GroupEdit.names_apply]
      exact ⟨hnames, GroupEdit.pristine_apply hpristine edit⟩

theorem pattern_eq_none_of_foldl {setting : Setting} {key id : String}
    (hkey : Text.fields '.' key = ["values", id, "expr"]) {before : Properties}
    (hnew : key ∉ Keyed.keys before)
    (hnone : ∀ group, device.group? id = some group → group.pattern = none) :
    ∀ group, (before.foldl (groupsEdited setting) device).group? id = some group →
      group.pattern = none := by
  refine List.foldlRecOn (motive := fun device : Device => ∀ group, device.group? id = some group →
    group.pattern = none) _ _ hnone ?_
  intro device hnone property hproperty group hgroup
  rcases group?_groupsEdited hgroup with hsame | ⟨edit, old, hedit, hold, rfl⟩
  · exact hnone group hsame
  · rw [GroupEdit.pattern_apply_of_ne, hnone old hold]
    intro hslot
    have hfields := Setting.fields_of_groupEditAt hedit
    rw [hslot] at hfields
    apply hnew
    rw [Text.fields_injective '.' (hkey.trans hfields.symm)]
    exact List.mem_map_of_mem hproperty

end Attached

section Step

variable {properties : Properties} {host : Option String} {device : Device} {key value id : String}
  (hdevice : device.WellFormed) {defaults : Defaults}
include hdevice

theorem WellFormed.exists_reports_group {field : GroupField}
    (hkey : PropertyKey.ofText key = .group id field)
    (hattach : ∀ group, device.group? id = some group → ∃ entry,
      Building.Reports (attachGroup defaults device group field key value) (.ok group) [entry]) :
    ∃ entry, Building.Reports (attachToGroups defaults device (key, value)) (.ok device) [entry] := by
  unfold attachToGroups
  simp only [hkey]
  cases hfound : device.group? id with
  | none => exact ⟨_, Building.reports_note_pure _ _⟩
  | some group =>
      obtain ⟨entry, hentry⟩ := hattach group hfound
      refine ⟨entry, hentry.bind ?_⟩
      rw [hdevice.withGroup_eq_self hfound]
      exact Building.reports_pure device

theorem WellFormed.exists_reports_binding {channel : String}
    (hkey : PropertyKey.ofText key = .binding id channel)
    (hbind : ∀ group, device.group? id = some group → ∃ entry,
      Log.Reports (device.bind group key channel value) group [entry]) :
    ∃ entry, Building.Reports (attachToGroups defaults device (key, value)) (.ok device) [entry] := by
  unfold attachToGroups
  simp only [hkey]
  cases hfound : device.group? id with
  | none => exact ⟨_, Building.reports_note_pure _ _⟩
  | some group =>
      obtain ⟨entry, hentry⟩ := hbind group hfound
      refine ⟨entry, (Building.reports_liftM hentry).bind ?_⟩
      rw [hdevice.withGroup_eq_self hfound]
      exact Building.reports_pure device

end Step

theorem exists_reports_bind {device : Device} {group : Group} {key channel value : String}
    (hunfit : (Text.items value).length ≠ 3 ∨
      (∃ table source target, Text.items value = [table, source, target] ∧
        device.tables.has table = false) ∨ group.channel? channel = none) :
    ∃ entry, Log.Reports (device.bind group key channel value) group [entry] := by
  unfold Device.bind
  split
  · rename_i table source target hitems
    rcases hunfit with hlength | ⟨table', source', target', hitems', htable⟩ | hchannel
    · exact absurd (congrArg List.length hitems) hlength
    · obtain ⟨rfl, -, -⟩ : table = table' ∧ source = source' ∧ target = target' := by
        simpa using hitems.symm.trans hitems'
      rw [htable]
      exact ⟨_, Log.reports_note_pure _ _⟩
    · rw [hchannel]
      split
      · exact ⟨_, Log.reports_note_pure _ _⟩
      · exact ⟨_, Log.reports_note_pure _ _⟩
  · exact ⟨_, Log.reports_note_pure _ _⟩

theorem exists_reports_count {defaults : Defaults} {device : Device} {group : Group}
    {field : GroupField} {key value : String} (hfield : field = .factors ∨ field = .types)
    (hcount : (Text.items value).length ≠ group.names.length) :
    ∃ entry, Building.Reports (attachGroup defaults device group field key value) (.ok group)
      [entry] := by
  rcases hfield with rfl | rfl
  · have hcount' : ((Text.items value).map some).length ≠ group.names.length := by
      rwa [List.length_map]
    simp only [attachGroup, Group.withFactors, if_pos hcount']
    exact ⟨_, Building.reports_liftM (Log.reports_note_pure _ _)⟩
  · simp only [attachGroup, Group.withTypes, if_pos hcount]
    exact ⟨_, Building.reports_liftM (Log.reports_note_pure _ _)⟩

theorem exists_reports_pattern {defaults : Defaults} {device : Device} {group : Group}
    {field : GroupField} {key value : String} (hfield : field = .split ∨ field = .expr)
    (hcompile : Pattern.compile (unquote value) = .error .malformed)
    (hnone : field = .expr → group.pattern = none) :
    ∃ entry, Building.Reports (attachGroup defaults device group field key value) (.ok group)
      [entry] := by
  have hpattern : ∃ entry, Building.Reports (Building.pattern (unquote value) key) (.ok none)
      [entry] := by
    unfold Building.pattern
    rw [hcompile]
    exact ⟨_, Building.reports_note_pure _ _⟩
  obtain ⟨entry, hentry⟩ := hpattern
  refine ⟨entry, ?_⟩
  rcases hfield with rfl | rfl
  · exact hentry.bind (Building.reports_pure group)
  · -- the group is written back with the pattern that it has already
    have hsame : { group with pattern := none } = group := by
      rw [← hnone rfl]
    refine hentry.bind ?_
    rw [hsame]
    exact Building.reports_pure group

theorem exists_reports_wrong {defaults : Defaults} {device : Device} {key value : String}
    (hkey : PropertyKey.ofText key ∈ [PropertyKey.wrongGroup, .malformed, .unknown]) :
    ∃ entry, Building.Reports (attachToGroups defaults device (key, value)) (.ok device) [entry] := by
  simp only [List.mem_cons, List.not_mem_nil, or_false] at hkey
  unfold attachToGroups
  rcases hkey with hkey | hkey | hkey <;> simp only [hkey] <;>
    exact ⟨_, Building.reports_note_pure _ _⟩

theorem Attaching.exists_reports_undeclared {properties : Properties} {host : Option String}
    {device : Device} {key value id : String} {parts : List String}
    (hdevice : Attaching properties host device)
    (hfields : Text.fields '.' key = "values" :: id :: parts) (hnames : namesOf properties id = none)
    (defaults : Defaults) :
    ∃ entry, Building.Reports (attachToGroups defaults device (key, value)) (.ok device) [entry] := by
  have hkey := PropertyKey.ofText_eq_ofGroupParts hfields
  have hgroup : ∀ group, device.group? id ≠ some group := by
    intro group hfound
    rw [(hdevice.group id group hfound).1] at hnames
    contradiction
  rcases PropertyKey.ofGroupParts_cases (id :: parts) with
    ⟨id', field, hparts⟩ | ⟨id', channel, hparts⟩ | hparts
  · obtain ⟨rfl, -⟩ := List.cons.inj (PropertyKey.ofGroupParts_eq_group_iff.mp hparts)
    exact hdevice.wellFormed.exists_reports_group (hkey.trans hparts)
      fun group hfound => absurd hfound (hgroup group)
  · obtain ⟨rfl, -⟩ := List.cons.inj (PropertyKey.ofGroupParts_eq_binding_iff.mp hparts)
    exact hdevice.wellFormed.exists_reports_binding (hkey.trans hparts)
      fun group hfound => absurd hfound (hgroup group)
  · apply exists_reports_wrong
    rw [hkey, hparts]
    exact List.mem_cons_self

section Turn

variable {properties : Properties} {host : Option String} {device : Device} {key value : String}
  (hrejected : Rejected properties key value) (hnew : key ∉ Keyed.keys properties)
  (hjudged : ¬ Unjudged properties key value) (hdevice : Attaching properties host device)
  (hnone : ∀ id, PropertyKey.ofText key = .group id .expr →
    ∀ group, device.group? id = some group → group.pattern = none)
include hrejected hnew hjudged hdevice hnone

/-- A rejected property is reported when its turn comes, unless it was before. -/
theorem Rejected.exists_entry (defaults : Defaults) :
    PropertyKey.ofText key = .wrongTable none ∨ ∃ entry,
      Building.Reports (attachToGroups defaults device (key, value)) (.ok device) [entry] := by
  have hwellFormed := hdevice.wellFormed
  cases hrejected with
  | unknown hfields hfirst =>
      have hkey := PropertyKey.ofText_eq_unknown hfields hfirst
      exact .inr (exists_reports_wrong (by simp [hkey]))
  | malformed hfields hfirst hparts =>
      have hkey := PropertyKey.ofText_eq_malformed hfields hfirst hparts
      exact .inr (exists_reports_wrong (by simp [hkey]))
  | wrongTable hfields hparts =>
      exact .inl ((PropertyKey.ofText_eq_ofTableParts hfields).trans
        (PropertyKey.ofTableParts_of_length hparts))
  | wrongGroup hfields hfield hbinding =>
      have hkey := (PropertyKey.ofText_eq_ofGroupParts hfields).trans
        (PropertyKey.ofGroupParts_eq_wrongGroup hfield hbinding)
      exact .inr (exists_reports_wrong (by simp [hkey]))
  | undeclared hfields hparts hnames =>
      exact .inr (hdevice.exists_reports_undeclared hfields hnames defaults)
  | noNames hfields hitems =>
      have hnames := namesOf_eq_none_of_new hfields hnew
      exact .inr (hdevice.exists_reports_undeclared hfields hnames defaults)
  | bindingParts hfields hitems =>
      have hkey := PropertyKey.ofText_eq_binding_iff.mpr hfields
      exact .inr (hwellFormed.exists_reports_binding hkey fun group _ =>
        exists_reports_bind (.inl hitems))
  | bindingTable hfields hitems htable =>
      have hkey := PropertyKey.ofText_eq_binding_iff.mpr hfields
      refine .inr (hwellFormed.exists_reports_binding hkey fun group _ =>
        exists_reports_bind (.inr (.inl ⟨_, _, _, hitems, ?_⟩)))
      rw [hdevice.fits.hasTable, ← Bool.not_eq_true]
      exact fun hhas => htable (List.contains_iff_mem.mp hhas)
  | bindingChannel hfields hnames hchannel =>
      have hkey := PropertyKey.ofText_eq_binding_iff.mpr hfields
      refine .inr (hwellFormed.exists_reports_binding hkey fun group hgroup =>
        exists_reports_bind (.inr (.inr ?_)))
      obtain ⟨hnames', hpristine⟩ := hdevice.group _ group hgroup
      obtain rfl := Option.some.inj (hnames.symm.trans hnames')
      rw [Option.eq_none_iff_forall_ne_some]
      intro channel hfound
      exact hchannel (hpristine _ channel hfound).1
  | count hfields hfield hnames hcount =>
      have hkey := PropertyKey.ofText_eq_group_iff.mpr hfields
      refine .inr (hwellFormed.exists_reports_group hkey fun group hgroup =>
        exists_reports_count hfield ?_)
      obtain rfl := Option.some.inj (hnames.symm.trans (hdevice.group _ group hgroup).1)
      exact hcount
  | pattern hfields hfield hnames hcompile =>
      have hkey := PropertyKey.ofText_eq_group_iff.mpr hfields
      have hmalformed : Pattern.IsJudged (unquote value) :=
        Classical.byContradiction fun hnot =>
          hjudged ⟨_, _, hfields, hfield, by rw [hnames]; rfl, hnot⟩
      obtain rfl := hmalformed _ hcompile
      refine .inr (hwellFormed.exists_reports_group hkey fun group hgroup =>
        exists_reports_pattern hfield hcompile fun hexpr => ?_)
      subst hexpr
      exact hnone _ hkey group hgroup

theorem Rejected.exists_reports_attachToGroups (defaults : Defaults) :
    ∃ added, Building.Reports (attachToGroups defaults device (key, value)) (.ok device) added ∧
      (PropertyKey.ofText key ≠ .wrongTable none → added ≠ []) := by
  rcases hrejected.exists_entry hnew hjudged hdevice hnone defaults with hkey | ⟨entry, hreports⟩
  · refine ⟨[], ?_, fun hother => absurd hkey hother⟩
    unfold attachToGroups
    simp only [hkey]
    exact Building.reports_pure device
  · exact ⟨[entry], hreports, fun _ => List.cons_ne_nil _ _⟩

end Turn

section Loops

variable {properties : Properties} {host : Option String} {device : Device}
  (hdevice : Attaching properties host device)
include hdevice

theorem Attaching.foldl_tablesEdited (part : Properties) :
    Attaching properties host
      (part.foldl (Device.tablesEdited (settingOf properties host)) device) := by
  refine List.foldlRecOn (motive := Attaching properties host) _ _ hdevice ?_
  exact fun device hdevice property _ => hdevice.tablesEdited property

theorem Attaching.foldl_groupsEdited (part : Properties) :
    Attaching properties host
      (part.foldl (Device.groupsEdited (settingOf properties host)) device) := by
  refine List.foldlRecOn (motive := Attaching properties host) _ _ hdevice ?_
  exact fun device hdevice property _ => hdevice.groupsEdited property

theorem Attaching.gives_foldlM_attachToTables {part : Properties}
    (hpart : ∀ property ∈ part, property ∈ properties ∧
      Building.faultOf ((settingOf properties host).tableEditOf property) = none) :
    Building.Gives (part.foldlM (attachToTables (settingOf properties host).defaults) device)
      (.ok (part.foldl (Device.tablesEdited (settingOf properties host)) device)) := by
  have hstep : ∀ device, Attaching properties host device → ∀ property ∈ part,
      Building.Gives (attachToTables (settingOf properties host).defaults device property)
        (Building.outcome (Building.faultOf ((settingOf properties host).tableEditOf property))
          (device.tablesEdited (settingOf properties host) property)) := by
    intro device hdevice property hproperty
    refine gives_attachToTables hdevice.wellFormed hdevice.fits property fun id field hkey => ?_
    exact hasTable_of_mem properties host (hpart property hproperty).1 hkey
  have hgives := Building.gives_foldlM hstep (fun _ hdevice => hdevice.tablesEdited) hdevice
  rwa [List.findSome?_eq_none_iff.mpr fun property hproperty => (hpart property hproperty).2] at hgives

theorem Attaching.gives_foldlM_attachToGroups {part : Properties}
    (hpart : ∀ property ∈ part,
      Building.faultOf ((settingOf properties host).groupEditOf property) = none) :
    Building.Gives (part.foldlM (attachToGroups (settingOf properties host).defaults) device)
      (.ok (part.foldl (Device.groupsEdited (settingOf properties host)) device)) := by
  have hstep : ∀ device, Attaching properties host device → ∀ property ∈ part,
      Building.Gives (attachToGroups (settingOf properties host).defaults device property)
        (Building.outcome (Building.faultOf ((settingOf properties host).groupEditOf property))
          (device.groupsEdited (settingOf properties host) property)) := by
    intro device hdevice property _
    exact gives_attachToGroups hdevice.wellFormed hdevice.fits property
  have hgives := Building.gives_foldlM hstep (fun _ hdevice => hdevice.groupsEdited) hdevice
  rwa [List.findSome?_eq_none_iff.mpr hpart] at hgives

end Loops

end Device

end Telemetry
