import Mathlib.Data.List.Basic
import Telemetry.Proofs.Device.KeyOrder

namespace Telemetry

namespace Device

/-- The property lists the channels of a group. Items without a name are none, and a list without any
name does not count. -/
structure Lists (property : String × String) (id : String) (names : List String) : Prop where
  key : Text.fields '.' property.1 = ["values", id, "vars"]
  value : (Text.items property.2).filter (· ≠ "") = names
  nonempty : names ≠ []

theorem declaration?_eq_some_iff {property : String × String} {id : String} {names : List String} :
    declaration? property = some (id, names) ↔ Lists property id names := by
  constructor
  · intro hdeclaration
    have hfields := fields_of_declaration? hdeclaration
    have hkey : PropertyKey.ofText property.1 = .group id .vars :=
      PropertyKey.ofText_eq_group_iff.mpr hfields
    unfold declaration? at hdeclaration
    rw [hkey] at hdeclaration
    simp only [Option.ite_none_left_eq_some, Option.some.injEq, Prod.mk.injEq, true_and]
      at hdeclaration
    obtain ⟨hsome, rfl⟩ := hdeclaration
    exact ⟨hfields, rfl, by simpa using hsome⟩
  · rintro ⟨hfields, rfl, hnonempty⟩
    have hkey : PropertyKey.ofText property.1 = .group id .vars :=
      PropertyKey.ofText_eq_group_iff.mpr hfields
    unfold declaration?
    rw [hkey]
    exact if_neg (by simpa using hnonempty)

theorem tableName?_eq_some_iff {property : String × String} {id : String} :
    tableName? property = some id ↔
      ∃ part, Text.fields '.' property.1 = ["transforms", id, part] := by
  unfold tableName?
  rcases PropertyKey.ofText_cases property.1 with
    ⟨parts, hfields, hkey⟩ | ⟨parts, hfields, hkey⟩ | ⟨-, hhead, hkey⟩
  · rw [hkey, hfields]
    rcases PropertyKey.ofGroupParts_cases parts with
      ⟨_, _, hparts⟩ | ⟨_, _, hparts⟩ | hparts <;>
      simp [hparts]
  · rw [hkey, hfields]
    by_cases hparts : parts.length = 2
    · obtain ⟨other, part, rfl⟩ := List.length_eq_two.mp hparts
      rcases PropertyKey.ofTableParts_pair other part with ⟨field, hpair⟩ | hpair <;> simp [hpair]
    · rw [PropertyKey.ofTableParts_of_length hparts]
      refine ⟨nofun, ?_⟩
      rintro ⟨part, hsame⟩
      exact absurd (congrArg List.length (List.cons.inj hsame).2) hparts
  · simp only [List.mem_cons, List.not_mem_nil, or_false] at hkey
    constructor
    · intro hname
      rcases hkey with hkey | hkey | hkey <;> simp [hkey] at hname
    · rintro ⟨part, hfields⟩
      exact absurd (congrArg List.head? hfields) hhead

/-- In the order of the properties, the group is the last one whose list has the name. -/
def LastLists (properties : Properties) (name id : String) : Prop :=
  ∃ before property after names, properties = before ++ property :: after ∧
    Lists property id names ∧ name ∈ names ∧
    ∀ later ∈ after, ∀ other names, Lists later other names → name ∉ names

section Declarations

variable {properties : Properties}

theorem ownerOf_eq_none_iff {name : String} :
    ownerOf properties name = none ↔
      ∀ property ∈ properties, ∀ id names, Lists property id names → name ∉ names := by
  simp only [ownerOf, Option.map_eq_none_iff, List.find?_eq_none, List.mem_reverse,
    List.mem_filterMap, decide_eq_true_eq, forall_exists_index, and_imp, Prod.forall,
    declaration?_eq_some_iff]
  constructor
  · intro hnone key value hproperty id names hlists
    exact hnone id names key value hproperty hlists
  · intro hnone id names key value hproperty hlists
    exact hnone key value hproperty id names hlists

theorem ownerOf_append_of_lists {before after : Properties} {property : String × String}
    {name id : String} {names : List String} (hlists : Lists property id names)
    (hname : name ∈ names) (hafter : ownerOf after name = none) :
    ownerOf (before ++ property :: after) name = some id := by
  induction before with
  | nil =>
      rw [List.nil_append, ownerOf_cons, hafter, Option.none_or,
        declaration?_eq_some_iff.mpr hlists, Option.bind_some, if_pos hname]
  | cons other before ih => rw [List.cons_append, ownerOf_cons, ih, Option.some_or]

theorem ownerOf_eq_some_iff {name id : String} :
    ownerOf properties name = some id ↔ LastLists properties name id := by
  constructor
  · intro howner
    induction properties with
    | nil => contradiction
    | cons property properties ih =>
        rw [ownerOf_cons, Option.or_eq_some_iff] at howner
        rcases howner with howner | ⟨hnone, howner⟩
        · obtain ⟨before, last, after, names, rfl, hlists, hname, hlater⟩ := ih howner
          exact ⟨property :: before, last, after, names, rfl, hlists, hname, hlater⟩
        · obtain ⟨⟨other, names⟩, hdeclaration, howner⟩ := Option.bind_eq_some_iff.mp howner
          rw [Option.ite_none_right_eq_some] at howner
          obtain ⟨hname, rfl⟩ : name ∈ names ∧ other = id := by simpa using howner
          have hlists := declaration?_eq_some_iff.mp hdeclaration
          exact ⟨[], property, properties, names, rfl, hlists, hname, ownerOf_eq_none_iff.mp hnone⟩
  · rintro ⟨before, property, after, names, rfl, hlists, hname, hlater⟩
    exact ownerOf_append_of_lists hlists hname (ownerOf_eq_none_iff.mpr hlater)

theorem exists_lists_of_namesOf {id : String} {names : List String}
    (hnames : namesOf properties id = some names) :
    ∃ property ∈ properties, Lists property id names := by
  obtain ⟨property, hproperty, hmade⟩ :=
    List.mem_filterMap.mp (List.mem_reverse.mp (Keyed.mem_of_lookup hnames))
  exact ⟨property, hproperty, declaration?_eq_some_iff.mp hmade⟩

theorem isSome_namesOf_iff {id : String} :
    (namesOf properties id).isSome ↔
      ∃ property ∈ properties, ∃ names, Lists property id names := by
  rw [namesOf, ← Keyed.has, Keyed.has_iff_mem_keys]
  simp only [Keyed.keys, List.map_reverse, List.mem_reverse, List.mem_map, List.mem_filterMap,
    Prod.exists, exists_and_right, exists_eq_right, declaration?_eq_some_iff]
  constructor
  · rintro ⟨names, key, value, hproperty, hlists⟩
    exact ⟨key, value, hproperty, names, hlists⟩
  · rintro ⟨key, value, hproperty, names, hlists⟩
    exact ⟨names, key, value, hproperty, hlists⟩

theorem namesOf_of_lists (hkeys : (Keyed.keys properties).Nodup) {property : String × String}
    (hproperty : property ∈ properties) {id : String} {names : List String}
    (hlists : Lists property id names) : namesOf properties id = some names := by
  obtain ⟨found, hfound⟩ :=
    Option.isSome_iff_exists.mp (isSome_namesOf_iff.mpr ⟨property, hproperty, names, hlists⟩)
  obtain ⟨other, hother, hlists'⟩ := exists_lists_of_namesOf hfound
  obtain rfl := Keyed.eq_of_mem_of_key_eq hkeys hproperty hother
    (Text.fields_injective '.' (hlists.key.trans hlists'.key.symm))
  rw [hfound, ← hlists.value, ← hlists'.value]

theorem hasTable_iff {host : Option String} {id : String} :
    (settingOf properties host).hasTable id ↔
      ∃ property ∈ properties, ∃ part, Text.fields '.' property.1 = ["transforms", id, part] := by
  rw [settingOf, List.contains_iff_mem, List.mem_filterMap]
  simp only [tableName?_eq_some_iff]

end Declarations

end Device

end Telemetry
