import Telemetry.Proofs.Device.Edit
import Telemetry.Proofs.Device.PropertyKey
import Telemetry.Proofs.Device.Round

namespace Telemetry

namespace Group

variable {name : String} {names : List String} {refresh timeout : Int} {cached : Bool}

theorem eq_of_channel?_declare {key : String} {channel : Channel}
    (hchannel : (declare name names refresh cached timeout).channel? key = some channel) :
    channel = { name := key } := by
  have hmem := Keyed.mem_of_lookup_ofList hchannel
  simp only [List.mem_map, Prod.mk.injEq] at hmem
  obtain ⟨-, -, rfl, rfl⟩ := hmem
  rfl

theorem mem_of_channel?_declare {key : String} {channel : Channel}
    (hchannel : (declare name names refresh cached timeout).channel? key = some channel) :
    key ∈ names := by
  have hmem := Keyed.mem_of_lookup_ofList hchannel
  simp only [List.mem_map, Prod.mk.injEq] at hmem
  obtain ⟨_, hname, rfl, -⟩ := hmem
  exact hname

/-- Are the channels those of the fields, without anything from the device so far? -/
def Pristine (group : Group) : Prop :=
  ∀ key channel, group.channel? key = some channel → key ∈ group.names ∧ channel.IsEmpty

theorem pristine_declare : (declare name names refresh cached timeout).Pristine := by
  intro key channel hchannel
  refine ⟨mem_of_channel?_declare hchannel, ?_⟩
  rw [eq_of_channel?_declare hchannel]
  exact ⟨rfl, rfl, rfl⟩

theorem wellFormed_declare : (declare name names refresh cached timeout).WellFormed := by
  constructor
  · exact Keyed.nodup_keys_ofList _
  · intro key channel hchannel
    rw [eq_of_channel?_declare hchannel]

end Group

namespace Device

/-- Do the groups and the code tables occur once each, under their own names? -/
structure WellFormed (device : Device) : Prop where
  nodupGroups : (Keyed.keys device.groups).Nodup
  nodupTables : (Keyed.keys device.tables).Nodup
  group : ∀ id group, device.group? id = some group → group.name = id ∧ group.WellFormed
  table : ∀ id table, device.table? id = some table → table.name = id

theorem WellFormed.named {device : Device} (hdevice : device.WellFormed) : device.Named where
  group id group hgroup := (hdevice.group id group hgroup).1
  channel id group hgroup := (hdevice.group id group hgroup).2.named

/-- The group and its channels that a property declares. -/
def declaration? (property : String × String) : Option (String × List String) :=
  match PropertyKey.ofText property.1 with
  | .group id .vars =>
    let names := (Text.items property.2).filter (· ≠ "")
    if names.isEmpty then none else some (id, names)
  | _ => none

def tableName? (property : String × String) : Option String :=
  match PropertyKey.ofText property.1 with
  | .table id _ => some id
  | .wrongTable id => id
  | _ => none

/-- The index after the channels of a group were entered. -/
def entered (index : Keyed String String) (id : String) (names : List String) :
    Keyed String String :=
  names.foldl (fun index name => index.put name id) index

/-- The device after a property has declared what it is about. -/
def declared (defaults : Defaults) (device : Device) (property : String × String) : Device :=
  match declaration? property, tableName? property with
  | some (id, names), _ =>
    { device.withGroup (.declare id names defaults.refresh defaults.cached device.timeout) with
      index := entered device.index id names }
  | none, some id => device.declareTable defaults id
  | none, none => device

theorem gives_enter (device : Device) (group : Group) :
    Log.Gives (device.enter group)
      { device with index := entered device.index group.name group.names } := by
  unfold enter
  induction group.names generalizing device with
  | nil => exact Log.gives_pure device
  | cons name names ih =>
      rw [List.foldlM_cons]
      refine Log.Gives.bind ?_ (ih { device with index := device.index.put name group.name })
      split
      · exact (Log.gives_note _).bind (Log.gives_pure _)
      · exact Log.gives_pure _

theorem gives_declare (defaults : Defaults) (device : Device) (property : String × String) :
    Log.Gives (device.declare defaults property) (device.declared defaults property) := by
  unfold declare declared declaration? tableName?
  generalize PropertyKey.ofText property.1 = key
  cases key with
  | group id field =>
      cases field with
      | vars =>
          simp only [declareGroup]
          cases ((Text.items property.2).filter (· ≠ "")).isEmpty with
          | true => exact (Log.gives_note _).bind (Log.gives_pure _)
          | false => exact gives_enter _ _
      | _ => exact Log.gives_pure _
  | wrongTable id =>
      cases id with
      | none => exact Log.gives_pure _
      | some id => exact Log.gives_pure _
  | _ => exact Log.gives_pure _

/-- The names of the channels that the last property about a group declares. -/
def namesOf (properties : Properties) (id : String) : Option (List String) :=
  (properties.filterMap declaration?).reverse.lookup id

/-- The group that the last property about a channel declares it for. -/
def ownerOf (properties : Properties) (name : String) : Option String :=
  ((properties.filterMap declaration?).reverse.find? fun declaration =>
    name ∈ declaration.2).map Prod.fst

theorem namesOf_cons (property : String × String) (properties : Properties) (id : String) :
    namesOf (property :: properties) id =
      (namesOf properties id).or
        ((declaration? property).bind fun declaration =>
          if id == declaration.1 then some declaration.2 else none) := by
  cases hdeclaration : declaration? property with
  | none => simp [namesOf, hdeclaration]
  | some declaration =>
      obtain ⟨other, names⟩ := declaration
      simp [namesOf, hdeclaration, List.lookup_append, Keyed.lookup_single]

theorem ownerOf_cons (property : String × String) (properties : Properties) (name : String) :
    ownerOf (property :: properties) name =
      (ownerOf properties name).or
        ((declaration? property).bind fun declaration =>
          if name ∈ declaration.2 then some declaration.1 else none) := by
  cases hdeclaration : declaration? property with
  | none => simp [ownerOf, hdeclaration]
  | some declaration =>
      by_cases hname : name ∈ declaration.2 <;>
        simp [ownerOf, hdeclaration, List.find?_append, hname]

theorem lookup_entered (index : Keyed String String) (id : String) (names : List String)
    (name : String) :
    (entered index id names).lookup name = if name ∈ names then some id else index.lookup name := by
  unfold entered
  induction names generalizing index with
  | nil => simp
  | cons first names ih =>
      rw [List.foldl_cons, ih, Keyed.lookup_put]
      by_cases hrest : name ∈ names
      · simp [hrest]
      · by_cases hfirst : name = first <;> simp [hrest, hfirst]

theorem gives_foldlM_declare (defaults : Defaults) (device : Device) (properties : Properties) :
    Log.Gives (properties.foldlM (declare defaults) device)
      (properties.foldl (declared defaults) device) := by
  induction properties generalizing device with
  | nil => exact Log.gives_pure device
  | cons property properties ih => exact (gives_declare defaults device property).bind (ih _)

section Declared

variable (defaults : Defaults) (device : Device)

theorem timeout_declared (property : String × String) :
    (device.declared defaults property).timeout = device.timeout := by
  unfold declared
  split
  · rfl
  · unfold declareTable
    split <;> rfl
  · rfl

theorem group?_declared (property : String × String) (id : String) :
    (device.declared defaults property).group? id =
      (((declaration? property).bind fun declaration =>
        if id == declaration.1 then some declaration.2 else none).map fun names =>
          Group.declare id names defaults.refresh defaults.cached device.timeout).or
        (device.group? id) := by
  unfold declared
  split
  · rename_i other names hdeclaration
    rw [hdeclaration, Option.bind_some]
    refine (group?_withGroup device _ id).trans ?_
    by_cases hid : id = other
    · subst hid
      simp [Group.declare]
    · simp [Group.declare, hid]
  · rename_i hdeclaration _
    rw [hdeclaration]
    unfold declareTable
    split <;> rfl
  · rename_i hdeclaration _
    rw [hdeclaration]
    rfl

theorem group?_foldl_declared (properties : Properties) (id : String) :
    (properties.foldl (declared defaults) device).group? id =
      ((namesOf properties id).map fun names =>
        Group.declare id names defaults.refresh defaults.cached device.timeout).or
        (device.group? id) := by
  induction properties generalizing device with
  | nil => rfl
  | cons property properties ih =>
      -- the last declaration counts, so the later properties are asked first
      rw [List.foldl_cons, ih, timeout_declared, group?_declared, namesOf_cons]
      cases namesOf properties id <;> simp

theorem lookup_declared (property : String × String) (name : String) :
    (device.declared defaults property).index.lookup name =
      ((declaration? property).bind fun declaration =>
        if name ∈ declaration.2 then some declaration.1 else none).or (device.index.lookup name) := by
  unfold declared
  split
  · rename_i id names hdeclaration
    rw [hdeclaration, Option.bind_some, lookup_entered]
    by_cases hname : name ∈ names <;> simp [hname]
  · rename_i hdeclaration _
    rw [hdeclaration]
    unfold declareTable
    split <;> rfl
  · rename_i hdeclaration _
    rw [hdeclaration]
    rfl

theorem lookup_foldl_declared (properties : Properties) (name : String) :
    (properties.foldl (declared defaults) device).index.lookup name =
      (ownerOf properties name).or (device.index.lookup name) := by
  induction properties generalizing device with
  | nil => rfl
  | cons property properties ih =>
      rw [List.foldl_cons, ih, lookup_declared, ownerOf_cons, Option.or_assoc]

theorem tableName?_eq_none_of_declaration? {property : String × String}
    {declaration : String × List String} (hdeclaration : declaration? property = some declaration) :
    tableName? property = none := by
  unfold declaration? at hdeclaration
  unfold tableName?
  split at hdeclaration
  · rename_i hkey
    rw [hkey]
  · contradiction

def freshTable (defaults : Defaults) (timeout : Int) (id : String) : CodeTable :=
  { name := id, refresh := defaults.refresh, cached := defaults.cached, timeout }

theorem table?_declared (property : String × String) (id : String) :
    (device.declared defaults property).table? id =
      (device.table? id).or
        (if tableName? property = some id then some (freshTable defaults device.timeout id)
          else none) := by
  unfold declared
  split
  · rename_i hdeclaration
    rw [tableName?_eq_none_of_declaration? hdeclaration]
    simp [table?, withGroup]
  · rename_i other _ hname
    rw [hname]
    unfold declareTable
    split
    · rename_i hhas
      by_cases hid : other = id
      · subst hid
        obtain ⟨table, htable⟩ := Option.isSome_iff_exists.mp hhas
        simp [table?, htable]
      · simp [hid]
    · rename_i hhas
      refine (Keyed.lookup_put _ _ _ _).trans ?_
      by_cases hid : id = other
      · subst hid
        have hnone : device.table? id = none := Option.not_isSome_iff_eq_none.mp hhas
        simp [hnone, freshTable]
      · simp [hid, Ne.symm hid, table?]
  · rename_i hname
    rw [hname]
    simp

theorem table?_foldl_declared (properties : Properties) (id : String) :
    (properties.foldl (declared defaults) device).table? id =
      (device.table? id).or
        (if (properties.filterMap tableName?).contains id then
          some (freshTable defaults device.timeout id) else none) := by
  induction properties generalizing device with
  | nil => simp
  | cons property properties ih =>
      rw [List.foldl_cons, ih, timeout_declared, table?_declared, Option.or_assoc]
      cases hname : tableName? property with
      | none =>
          rw [List.filterMap_cons_none hname]
          simp
      | some other =>
          rw [List.filterMap_cons_some hname, List.contains_cons]
          by_cases hid : id = other
          · simp [hid]
          · have hne : (id == other) = false := by simpa using hid
            rw [hne, Bool.false_or, if_neg (by simpa using Ne.symm hid), Option.none_or]

theorem declared_eq_with (property : String × String) :
    device.declared defaults property =
      { device with
        groups := (device.declared defaults property).groups
        tables := (device.declared defaults property).tables
        index := (device.declared defaults property).index } := by
  unfold declared
  split
  · rfl
  · unfold declareTable
    split <;> rfl
  · rfl

theorem foldl_declared_eq_with (properties : Properties) :
    properties.foldl (declared defaults) device =
      { device with
        groups := (properties.foldl (declared defaults) device).groups
        tables := (properties.foldl (declared defaults) device).tables
        index := (properties.foldl (declared defaults) device).index } := by
  induction properties generalizing device with
  | nil => rfl
  | cons property properties ih =>
      rw [List.foldl_cons, ih, declared_eq_with]

end Declared

theorem WellFormed.withGroup {device : Device} (hdevice : device.WellFormed) {group : Group}
    (hgroup : group.WellFormed) : (device.withGroup group).WellFormed where
  nodupGroups := Keyed.nodup_keys_put hdevice.nodupGroups _ _
  nodupTables := hdevice.nodupTables
  group := by
    intro id found hfound
    rw [group?_withGroup] at hfound
    split at hfound
    · rename_i hid
      obtain rfl := Option.some.inj hfound
      exact ⟨(eq_of_beq hid).symm, hgroup⟩
    · exact hdevice.group id found hfound
  table := hdevice.table

theorem WellFormed.withTable {device : Device} (hdevice : device.WellFormed) (table : CodeTable) :
    (device.withTable table).WellFormed where
  nodupGroups := hdevice.nodupGroups
  nodupTables := Keyed.nodup_keys_put hdevice.nodupTables _ _
  group := hdevice.group
  table := by
    intro id found hfound
    rw [table?, Device.withTable, Keyed.lookup_put] at hfound
    split at hfound
    · rename_i hid
      obtain rfl := Option.some.inj hfound
      exact (eq_of_beq hid).symm
    · exact hdevice.table id found hfound

theorem WellFormed.declared {device : Device} (hdevice : device.WellFormed) (defaults : Defaults)
    (property : String × String) : (device.declared defaults property).WellFormed := by
  unfold Device.declared
  split
  · obtain ⟨hgroups, htables, hgroup, htable⟩ := hdevice.withGroup Group.wellFormed_declare
    exact ⟨hgroups, htables, hgroup, htable⟩
  · unfold declareTable
    split
    · exact hdevice
    · exact hdevice.withTable _
  · exact hdevice

end Device

end Telemetry
