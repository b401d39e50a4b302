import Telemetry.Proofs.Device.Build

namespace Telemetry

theorem Building.eq_ok_of_map {α β : Type} {f : α → β} {outcome : Except Fault α} {result : β}
    (hmap : f <$> outcome = .ok result) : ∃ value, outcome = .ok value ∧ f value = result := by
  cases outcome with
  | error fault => cases hmap
  | ok value => exact ⟨value, rfl, Except.ok.inj hmap⟩

namespace Properties

variable {properties properties' : Properties}

theorem exists_fields_of_mem_family {first : String} {made : String × String}
    (hmade : made ∈ properties.family first) :
    ∃ entry ∈ properties, Text.fields '.' entry.1 = [first, made.1] := by
  obtain ⟨entry, hentry, hread⟩ := List.mem_filterMap.mp hmade
  refine ⟨entry, hentry, ?_⟩
  dsimp only at hread
  split at hread
  · rename_i hparts
    split at hread
    · rename_i hpart
      rw [hparts, hpart, ← Option.some.inj hread]
    · contradiction
  · contradiction

theorem nodup_keys_family (hkeys : (Keyed.keys properties).Nodup) (first : String) :
    (Keyed.keys (properties.family first)).Nodup := by
  refine Keyed.nodup_keys_filterMap hkeys fun entry other made made' hmade hmade' hsame => ?_
  have hfamily : made ∈ Properties.family [entry] first :=
    List.mem_filterMap.mpr ⟨entry, List.mem_singleton_self entry, hmade⟩
  have hfamily' : made' ∈ Properties.family [other] first :=
    List.mem_filterMap.mpr ⟨other, List.mem_singleton_self other, hmade'⟩
  obtain ⟨found, hfound, hfields⟩ := exists_fields_of_mem_family hfamily
  obtain ⟨found', hfound', hfields'⟩ := exists_fields_of_mem_family hfamily'
  obtain rfl := List.mem_singleton.mp hfound
  obtain rfl := List.mem_singleton.mp hfound'
  apply Text.fields_injective '.'
  rw [hfields, hfields', hsame]

theorem lookup_family_eq_of_perm (hkeys : (Keyed.keys properties).Nodup)
    (hperm : properties.Perm properties') (first name : String) :
    (properties.family first).lookup name = (properties'.family first).lookup name :=
  Keyed.lookup_eq_of_perm (nodup_keys_family hkeys first) (hperm.filterMap _) name

end Properties

namespace Device

theorem fields_of_declaration? {property : String × String} {declaration : String × List String}
    (hdeclaration : declaration? property = some declaration) :
    Text.fields '.' property.1 = ["values", declaration.1, "vars"] := by
  unfold declaration? at hdeclaration
  split at hdeclaration
  · rename_i id hkey
    simp only [Option.ite_none_left_eq_some, Option.some.injEq] at hdeclaration
    rw [← hdeclaration.2]
    exact PropertyKey.ofText_eq_group_iff.mp hkey
  · contradiction

/-- The parts of the key that a property for a slot of a group has. -/
def GroupEdit.path (id : String) : GroupField ⊕ String → List String
  | .inl field => ["values", id, field.key]
  | .inr channel => ["values", id, "transforms", channel]

theorem Setting.slot_of_groupEdit? {setting : Setting} {field : GroupField} {value : String}
    {edit : GroupEdit} (hedit : setting.groupEdit? field value = .ok (some edit)) :
    edit.slot = .inl field := by
  cases field with
  | vars => cases hedit
  | split =>
      obtain ⟨pattern, -, hpattern⟩ := Building.eq_ok_of_map hedit
      obtain ⟨found, -, rfl⟩ := Option.map_eq_some_iff.mp hpattern
      rfl
  | expr | url =>
      obtain ⟨found, -, hfound⟩ := Building.eq_ok_of_map hedit
      obtain rfl := Option.some.inj hfound
      rfl
  | factors | types | refresh | cache =>
      obtain rfl := Option.some.inj (Except.ok.inj hedit)
      rfl

theorem Setting.slot_of_bindingEdit? {setting : Setting} {channel value : String} {edit : GroupEdit}
    (hedit : setting.bindingEdit? channel value = some edit) : edit.slot = .inr channel := by
  unfold bindingEdit? at hedit
  split at hedit
  · split at hedit
    · obtain rfl := Option.some.inj hedit
      rfl
    · contradiction
  · contradiction

theorem Setting.slot_of_tableEdit? {setting : Setting} {field : TableField} {value : String}
    {edit : TableEdit} (hedit : setting.tableEdit? field value = .ok (some edit)) :
    edit.slot = field := by
  cases field with
  | expr =>
      simp only [tableEdit?, exprEdit?] at hedit
      split at hedit
      · cases hedit
      · obtain ⟨pattern, -, hpattern⟩ := Building.eq_ok_of_map hedit
        obtain ⟨found, -, rfl⟩ := Option.map_eq_some_iff.mp hpattern
        rfl
  | url =>
      obtain ⟨found, -, hfound⟩ := Building.eq_ok_of_map hedit
      obtain rfl := Option.some.inj hfound
      rfl
  | types | refresh | cache =>
      obtain rfl := Option.some.inj (Except.ok.inj hedit)
      rfl

theorem eq_ok_of_join {ε : Type} {outcome : Except Fault (Option ε)} {id : String}
    {edit : String × ε} (hedit : (Option.map (id, ·) <$> outcome).toOption.join = some edit) :
    edit.1 = id ∧ outcome = .ok (some edit.2) := by
  cases outcome with
  | error fault => cases hedit
  | ok made =>
      cases made with
      | none => cases hedit
      | some made =>
          obtain rfl : (id, made) = edit := Option.some.inj hedit
          exact ⟨rfl, rfl⟩

theorem Setting.fields_of_groupEditAt {setting : Setting} {property : String × String}
    {edit : String × GroupEdit} (hedit : setting.groupEditAt property = some edit) :
    Text.fields '.' property.1 = GroupEdit.path edit.1 edit.2.slot := by
  unfold groupEditAt groupEditOf at hedit
  split at hedit
  · rename_i id field hkey
    split at hedit
    · obtain ⟨hid, hmade⟩ := eq_ok_of_join hedit
      rw [hid, slot_of_groupEdit? hmade]
      exact PropertyKey.ofText_eq_group_iff.mp hkey
    · cases hedit
  · rename_i id channel hkey
    split at hedit
    · obtain ⟨hid, hmade⟩ := eq_ok_of_join hedit
      rw [hid, slot_of_bindingEdit? (Except.ok.inj hmade)]
      exact PropertyKey.ofText_eq_binding_iff.mp hkey
    · cases hedit
  · cases hedit

theorem Setting.fields_of_tableEditAt {setting : Setting} {property : String × String}
    {edit : String × TableEdit} (hedit : setting.tableEditAt property = some edit) :
    Text.fields '.' property.1 = ["transforms", edit.1, edit.2.slot.key] := by
  unfold tableEditAt tableEditOf at hedit
  split at hedit
  · rename_i id field hkey
    obtain ⟨hid, hmade⟩ := eq_ok_of_join hedit
    rw [hid, slot_of_tableEdit? hmade]
    exact PropertyKey.ofText_eq_table_iff.mp hkey
  · cases hedit

theorem find?_eq_of_perm {α : Type} {elements elements' : List α} (hperm : elements.Perm elements')
    {test : α → Bool}
    (honce : ∀ element ∈ elements, ∀ other ∈ elements, test element → test other → element = other) :
    elements.find? test = elements'.find? test := by
  have hfind : ∀ found : List α, elements.Perm found → ∀ element,
      found.find? test = some element ↔ element ∈ elements ∧ test element := by
    intro found hfound element
    constructor
    · intro hsome
      exact ⟨hfound.mem_iff.mpr (List.mem_of_find?_eq_some hsome), List.find?_some hsome⟩
    · rintro ⟨hmem, htest⟩
      obtain ⟨other, hother⟩ : ∃ other, found.find? test = some other :=
        Option.isSome_iff_exists.mp (List.find?_isSome.mpr ⟨element, hfound.mem_iff.mp hmem, htest⟩)
      have hmem' := hfound.mem_iff.mpr (List.mem_of_find?_eq_some hother)
      rw [hother, honce other hmem' element hmem (List.find?_some hother) htest]
  apply Option.ext
  intro element
  rw [hfind elements (List.Perm.refl elements), hfind elements' hperm]

def Declares (property : String × String) (name : String) : Prop :=
  ∃ declaration, declaration? property = some declaration ∧ name ∈ declaration.2

/-- Do two devices differ at most in the order of what they hold? -/
structure SameButOrder (device device' : Device) : Prop where
  name : device.name = device'.name
  host : device.host = device'.host
  maturity : device.maturity = device'.maturity
  author : device.author = device'.author
  probe : device.probe = device'.probe
  timeout : device.timeout = device'.timeout
  definitions : ∀ name, device.definitions.lookup name = device'.definitions.lookup name
  options : ∀ name, device.options.lookup name = device'.options.lookup name
  group : ∀ id, device.group? id = device'.group? id
  table : ∀ id, device.table? id = device'.table? id

section Order

variable {properties properties' : Properties} (hkeys : (Keyed.keys properties).Nodup)
  (hperm : properties.Perm properties')
include hkeys

theorem eq_of_mem_of_path_eq {ε : Type} {read : String × String → Option ε} {path : ε → List String}
    (hpath : ∀ property edit, read property = some edit → Text.fields '.' property.1 = path edit)
    {edit edit' : ε} (hedit : edit ∈ properties.filterMap read)
    (hedit' : edit' ∈ properties.filterMap read) (hsame : path edit = path edit') : edit = edit' := by
  obtain ⟨property, hproperty, hmade⟩ := List.mem_filterMap.mp hedit
  obtain ⟨property', hproperty', hmade'⟩ := List.mem_filterMap.mp hedit'
  have hfields : Text.fields '.' property.1 = Text.fields '.' property'.1 := by
    rw [hpath property edit hmade, hpath property' edit' hmade', hsame]
  obtain rfl := Keyed.eq_of_mem_of_key_eq hkeys hproperty hproperty'
    (Text.fields_injective '.' hfields)
  exact Option.some.inj (hmade.symm.trans hmade')

/-- Edits of one group come from different properties, and those are about different slots. -/
theorem groupEdits_comm (setting : Setting) :
    ∀ edit ∈ setting.groupEdits properties, ∀ edit' ∈ setting.groupEdits properties,
      edit.1 = edit'.1 → ∀ group : Group,
        edit'.2.apply (edit.2.apply group) = edit.2.apply (edit'.2.apply group) := by
  intro edit hedit edit' hedit' hid group
  by_cases hslot : edit.2.slot = edit'.2.slot
  · rw [eq_of_mem_of_path_eq hkeys (fun _ _ => Setting.fields_of_groupEditAt) hedit hedit'
      (by rw [hid, hslot])]
  · exact GroupEdit.apply_comm hslot group

theorem tableEdits_comm (setting : Setting) :
    ∀ edit ∈ setting.tableEdits properties, ∀ edit' ∈ setting.tableEdits properties,
      edit.1 = edit'.1 → ∀ table : CodeTable,
        edit'.2.apply (edit.2.apply table) = edit.2.apply (edit'.2.apply table) := by
  intro edit hedit edit' hedit' hid table
  by_cases hslot : edit.2.slot = edit'.2.slot
  · rw [eq_of_mem_of_path_eq hkeys (fun _ _ => Setting.fields_of_tableEditAt) hedit hedit'
      (by rw [hid, hslot])]
  · exact TableEdit.apply_comm hslot table

include hperm

theorem namesOf_eq_of_perm (id : String) : namesOf properties id = namesOf properties' id := by
  have hdeclared : (Keyed.keys (properties.filterMap declaration?)).Nodup := by
    refine Keyed.nodup_keys_filterMap hkeys fun entry other made made' hmade hmade' hsame => ?_
    apply Text.fields_injective '.'
    rw [fields_of_declaration? hmade, fields_of_declaration? hmade', hsame]
  have hreverse : (properties.filterMap declaration?).reverse.Perm
      (properties'.filterMap declaration?).reverse :=
    (List.reverse_perm _).trans ((hperm.filterMap _).trans (List.reverse_perm _).symm)
  refine Keyed.lookup_eq_of_perm ?_ hreverse id
  exact ((List.reverse_perm _).map Prod.fst).nodup_iff.mpr hdeclared

theorem ownerOf_eq_of_perm {name : String}
    (honce : ∀ property ∈ properties, ∀ other ∈ properties,
      Declares property name → Declares other name → property.1 = other.1) :
    ownerOf properties name = ownerOf properties' name := by
  have hreverse : (properties.filterMap declaration?).reverse.Perm
      (properties'.filterMap declaration?).reverse :=
    (List.reverse_perm _).trans ((hperm.filterMap _).trans (List.reverse_perm _).symm)
  rw [ownerOf, ownerOf, find?_eq_of_perm hreverse]
  intro declaration hdeclaration other hother hname hname'
  obtain ⟨property, hproperty, hmade⟩ := List.mem_filterMap.mp (List.mem_reverse.mp hdeclaration)
  obtain ⟨property', hproperty', hmade'⟩ := List.mem_filterMap.mp (List.mem_reverse.mp hother)
  have hkey := honce property hproperty property' hproperty'
    ⟨declaration, hmade, of_decide_eq_true hname⟩ ⟨other, hmade', of_decide_eq_true hname'⟩
  obtain rfl := Keyed.eq_of_mem_of_key_eq hkeys hproperty hproperty' hkey
  exact Option.some.inj (hmade.symm.trans hmade')

theorem settingOf_eq_of_perm (host : Option String) :
    settingOf properties host = settingOf properties' host := by
  have hfamily := Properties.lookup_family_eq_of_perm hkeys hperm
  have hdefaults : defaultsOf (properties.family "options") =
      defaultsOf (properties'.family "options") := by
    rw [defaultsOf, defaultsOf, hfamily, hfamily]
  have hexpanded : Template.expanded (Template.resolved (properties.family "vars") host) =
      Template.expanded (Template.resolved (properties'.family "vars") host) :=
    funext (Template.expanded_congr (Template.lookup_resolved_congr (hfamily "vars") host))
  have htables : (properties.filterMap tableName?).contains =
      (properties'.filterMap tableName?).contains := by
    funext id
    rw [Bool.eq_iff_iff, List.contains_iff_mem, List.contains_iff_mem]
    exact (hperm.filterMap tableName?).mem_iff
  have hgroups : namesOf properties = namesOf properties' :=
    funext (namesOf_eq_of_perm hkeys hperm)
  rw [settingOf, settingOf, hdefaults, hexpanded, htables, hgroups]

theorem probe_eq_of_perm : Probe.read properties = Probe.read properties' := by
  have hlookup := Keyed.lookup_eq_of_perm hkeys hperm
  simp only [Probe.read, hlookup]

omit hkeys in
theorem isSome_editFault?_of_perm (setting : Setting) :
    (editFault? setting properties).isSome = (editFault? setting properties').isSome := by
  rw [Bool.eq_iff_iff]
  simp only [editFault?, Option.isSome_or, Bool.or_eq_true, List.findSome?_isSome_iff, hperm.mem_iff]

theorem sameButOrder_assembled (host : Option String) (timeout : Int) (probe : Probe) :
    SameButOrder (assembled properties host timeout probe)
      (assembled properties' host timeout probe) := by
  have hlookup := Keyed.lookup_eq_of_perm hkeys hperm
  have hfamily := Properties.lookup_family_eq_of_perm hkeys hperm
  have hsetting := settingOf_eq_of_perm hkeys hperm host
  obtain ⟨groups, tables, index, heq⟩ := exists_assembled_eq properties host timeout probe
  obtain ⟨groups', tables', index', heq'⟩ := exists_assembled_eq properties' host timeout probe
  constructor
  · rw [heq, heq']
    simp only [blankWith, Properties.name?, hlookup]
  · rw [heq, heq']
    rfl
  · rw [heq, heq']
    simp only [blankWith, hlookup]
  · rw [heq, heq']
    simp only [blankWith, hlookup]
  · rw [heq, heq']
    rfl
  · rw [heq, heq']
    rfl
  · rw [heq, heq']
    exact Template.lookup_resolved_congr (hfamily "vars") host
  · rw [heq, heq']
    exact hfamily "options"
  · intro id
    rw [group?_assembled, group?_assembled, ← hsetting, namesOf_eq_of_perm hkeys hperm id]
    have hedits : ((settingOf properties host).groupEdits properties).Perm
        ((settingOf properties host).groupEdits properties') := hperm.filterMap _
    have hcomm := groupEdits_comm hkeys (settingOf properties host)
    simp only [Keyed.editedAt_eq_of_perm hedits hcomm]
  · intro id
    rw [table?_assembled, table?_assembled, ← hsetting]
    have hedits : ((settingOf properties host).tableEdits properties).Perm
        ((settingOf properties host).tableEdits properties') := hperm.filterMap _
    have hcomm := tableEdits_comm hkeys (settingOf properties host)
    rw [Keyed.editedAt_eq_of_perm hedits hcomm]

/-- The order of the properties does not matter: both orders end with a fault, or both give the same
device, up to the order of what it holds. The index agrees on each name that one key declares at
most. -/
theorem build_eq_of_perm (host : Option String) (timeout : Int) (journal journal' : Log.Journal) :
    (∃ fault fault',
      ((build properties host timeout).run.run journal).1 = .error fault ∧
      ((build properties' host timeout).run.run journal').1 = .error fault') ∨
    ∃ device device',
      ((build properties host timeout).run.run journal).1 = .ok device ∧
      ((build properties' host timeout).run.run journal').1 = .ok device' ∧
      SameButOrder device device' ∧
      ∀ name,
        (∀ property ∈ properties, ∀ other ∈ properties,
          Declares property name → Declares other name → property.1 = other.1) →
        device.index.lookup name = device'.index.lookup name := by
  rw [gives_build properties host timeout journal, gives_build properties' host timeout journal']
  have hprobe := probe_eq_of_perm hkeys hperm
  have hsetting := settingOf_eq_of_perm hkeys hperm host
  have hfault := isSome_editFault?_of_perm hperm (settingOf properties host)
  unfold built
  rw [← hprobe, ← hsetting]
  cases Probe.read properties with
  | error fault => exact .inl ⟨fault, fault, rfl, rfl⟩
  | ok probe =>
      cases hedit : editFault? (settingOf properties host) properties with
      | some fault =>
          -- the other order need not come to the same fault first
          rw [hedit] at hfault
          obtain ⟨fault', hedit'⟩ := Option.isSome_iff_exists.mp hfault.symm
          rw [hedit']
          exact .inl ⟨fault, fault', rfl, rfl⟩
      | none =>
          rw [hedit] at hfault
          have hedit' := Option.isSome_eq_false_iff.mp hfault.symm
          rw [Option.isNone_iff_eq_none] at hedit'
          rw [hedit']
          refine .inr ⟨_, _, rfl, rfl, sameButOrder_assembled hkeys hperm host timeout probe, ?_⟩
          intro name honce
          rw [lookup_index_assembled, lookup_index_assembled]
          exact ownerOf_eq_of_perm hkeys hperm honce

end Order

theorem build_reversed_meterProfile :
    (Keyed.keys meterProfile).Nodup ∧ meterProfile.Perm meterProfile.reverse ∧
      ∃ device device',
        ((build meterProfile (some "host") 3000).run.run []).1 = .ok device ∧
        ((build meterProfile.reverse (some "host") 3000).run.run []).1 = .ok device' ∧
        SameButOrder device device' ∧
        ∀ name, device.index.lookup name = device'.index.lookup name := by
  have hkeys : (Keyed.keys meterProfile).Nodup := by decide +kernel
  have hperm : meterProfile.Perm meterProfile.reverse := (List.reverse_perm _).symm
  have hbuilt : ((build meterProfile (some "host") 3000).run.run []).1.toOption.isSome = true := by
    decide +kernel
  have hvars : ∀ property ∈ meterProfile,
      (declaration? property).isSome → property.1 = "values.live.vars" := by
    decide +kernel
  refine ⟨hkeys, hperm, ?_⟩
  rcases build_eq_of_perm hkeys hperm (some "host") 3000 [] [] with
    ⟨fault, -, hfault, -⟩ | ⟨device, device', hdevice, hdevice', hsame, hindex⟩
  · rw [hfault] at hbuilt
    contradiction
  · refine ⟨device, device', hdevice, hdevice', hsame, fun name => hindex name ?_⟩
    rintro property hproperty other hother ⟨_, hmade, -⟩ ⟨_, hmade', -⟩
    rw [hvars property hproperty (by simp [hmade]), hvars other hother (by simp [hmade'])]

end Device

end Telemetry
