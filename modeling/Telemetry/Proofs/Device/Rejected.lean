import Telemetry.Proofs.Device.Records
import Telemetry.Proofs.Profile.Sound

namespace Telemetry

namespace Device

/-- Why a property is passed over, next to other properties. -/
inductive Rejected (properties : Properties) (key value : String) : Prop
  | unknown {first : String} {parts : List String} (hfields : Text.fields '.' key = first :: parts)
      (hfirst : first ∉ ["values", "transforms", "vars", "options", "properties", "name", "test"])
  | malformed {first : String} {parts : List String} (hfields : Text.fields '.' key = first :: parts)
      (hfirst : first = "vars" ∨ first = "options") (hparts : parts.length ≠ 1)
  | wrongTable {parts : List String} (hfields : Text.fields '.' key = "transforms" :: parts)
      (hparts : parts.length ≠ 2)
  | wrongGroup {parts : List String} (hfields : Text.fields '.' key = "values" :: parts)
      (hfield : ∀ id (field : GroupField), parts ≠ [id, field.key])
      (hbinding : ∀ id channel, parts ≠ [id, "transforms", channel])
  /-- The group has no channels. -/
  | undeclared {id : String} {parts : List String}
      (hfields : Text.fields '.' key = "values" :: id :: parts) (hparts : parts ≠ ["vars"])
      (hnames : namesOf properties id = none)
  | noNames {id : String} (hfields : Text.fields '.' key = ["values", id, "vars"])
      (hitems : (Text.items value).filter (· ≠ "") = [])
  | bindingParts {id channel : String}
      (hfields : Text.fields '.' key = ["values", id, "transforms", channel])
      (hitems : (Text.items value).length ≠ 3)
  | bindingTable {id channel table source target : String}
      (hfields : Text.fields '.' key = ["values", id, "transforms", channel])
      (hitems : Text.items value = [table, source, target])
      (htable : table ∉ properties.filterMap tableName?)
  | bindingChannel {id channel : String} {names : List String}
      (hfields : Text.fields '.' key = ["values", id, "transforms", channel])
      (hnames : namesOf properties id = some names) (hchannel : channel ∉ names)
  | count {id : String} {field : GroupField} {names : List String}
      (hfields : Text.fields '.' key = ["values", id, field.key])
      (hfield : field = .factors ∨ field = .types) (hnames : namesOf properties id = some names)
      (hcount : (Text.items value).length ≠ names.length)
  | pattern {id : String} {field : GroupField} {names : List String} {fault : Pattern.Fault}
      (hfields : Text.fields '.' key = ["values", id, field.key])
      (hfield : field = .split ∨ field = .expr) (hnames : namesOf properties id = some names)
      (hcompile : Pattern.compile (unquote value) = .error fault)

/-- Is the property a pattern of a group, one that is more than malformed? -/
def Unjudged (properties : Properties) (key value : String) : Prop :=
  ∃ id field, Text.fields '.' key = ["values", id, GroupField.key field] ∧
    (field = .split ∨ field = .expr) ∧ (namesOf properties id).isSome ∧
    ¬ Pattern.IsJudged (unquote value)

/-- What the key of a rejected property may be about. -/
inductive Idle (value : String) : PropertyKey → Prop
  | wrongGroup : Idle value .wrongGroup
  | wrongTable : Idle value (.wrongTable none)
  | malformed : Idle value .malformed
  | unknown : Idle value .unknown
  | binding (id channel : String) : Idle value (.binding id channel)
  | group (id : String) (field : GroupField)
      (hitems : field = .vars → (Text.items value).filter (· ≠ "") = []) : Idle value (.group id field)

theorem Rejected.idle {properties : Properties} {key value : String}
    (hrejected : Rejected properties key value) : Idle value (PropertyKey.ofText key) := by
  cases hrejected with
  | unknown hfields hfirst =>
      rw [PropertyKey.ofText_eq_unknown hfields hfirst]
      exact .unknown
  | malformed hfields hfirst hparts =>
      rw [PropertyKey.ofText_eq_malformed hfields hfirst hparts]
      exact .malformed
  | wrongTable hfields hparts =>
      rw [PropertyKey.ofText_eq_ofTableParts hfields, PropertyKey.ofTableParts_of_length hparts]
      exact .wrongTable
  | wrongGroup hfields hfield hbinding =>
      rw [PropertyKey.ofText_eq_ofGroupParts hfields,
        PropertyKey.ofGroupParts_eq_wrongGroup hfield hbinding]
      exact .wrongGroup
  | undeclared hfields hparts hnames =>
      rename_i id parts
      rw [PropertyKey.ofText_eq_ofGroupParts hfields]
      rcases PropertyKey.ofGroupParts_cases (id :: parts) with
        ⟨id', field, hgroup⟩ | ⟨id', channel, hgroup⟩ | hgroup
      · rw [hgroup]
        refine .group id' field fun hvars => ?_
        have hboth := PropertyKey.ofGroupParts_eq_group_iff.mp hgroup
        rw [hvars] at hboth
        exact absurd (List.cons.inj hboth).2 hparts
      · rw [hgroup]
        exact .binding id' channel
      · rw [hgroup]
        exact .wrongGroup
  | noNames hfields hitems =>
      rename_i id
      have hkey : PropertyKey.ofText key = .group id .vars :=
        PropertyKey.ofText_eq_group_iff.mpr hfields
      rw [hkey]
      exact .group id .vars fun _ => hitems
  | bindingParts hfields | bindingTable hfields | bindingChannel hfields =>
      rw [PropertyKey.ofText_eq_binding_iff.mpr hfields]
      exact .binding _ _
  | count hfields hfield | pattern hfields hfield =>
      rw [PropertyKey.ofText_eq_group_iff.mpr hfields]
      refine .group _ _ fun hvars => ?_
      rcases hfield with rfl | rfl <;> cases hvars

namespace Idle

variable {key value : String}

theorem ne_plain (hidle : Idle value (PropertyKey.ofText key)) :
    PropertyKey.ofText key ≠ .plain := by
  intro hplain
  rw [hplain] at hidle
  nomatch hidle

theorem declaration?_eq_none (hidle : Idle value (PropertyKey.ofText key)) :
    declaration? (key, value) = none := by
  unfold declaration?
  generalize PropertyKey.ofText key = what at hidle
  cases hidle with
  | group id field hitems =>
      cases field with
      | vars =>
          dsimp only
          rw [hitems rfl]
          rfl
      | _ => rfl
  | _ => rfl

theorem tableName?_eq_none (hidle : Idle value (PropertyKey.ofText key)) :
    tableName? (key, value) = none := by
  unfold tableName?
  generalize PropertyKey.ofText key = what at hidle
  cases hidle <;> rfl

theorem declared_eq (hidle : Idle value (PropertyKey.ofText key)) (defaults : Defaults)
    (device : Device) : device.declared defaults (key, value) = device := by
  rw [declared, hidle.declaration?_eq_none, hidle.tableName?_eq_none]

theorem faultOf_tableEditOf (hidle : Idle value (PropertyKey.ofText key)) (setting : Setting) :
    Building.faultOf (setting.tableEditOf (key, value)) = none := by
  unfold Setting.tableEditOf
  generalize PropertyKey.ofText key = what at hidle
  cases hidle <;> rfl

theorem exists_reports_attachToTables (hidle : Idle value (PropertyKey.ofText key))
    (defaults : Defaults) (device : Device) :
    ∃ added, Building.Reports (attachToTables defaults device (key, value)) (.ok device) added ∧
      (PropertyKey.ofText key = .wrongTable none → added ≠ []) := by
  unfold attachToTables
  dsimp only
  generalize PropertyKey.ofText key = what at hidle
  cases hidle with
  | wrongTable => exact ⟨_, Building.reports_note_pure _ _, fun _ => List.cons_ne_nil _ _⟩
  | _ => exact ⟨_, Building.reports_pure _, nofun⟩

section Insert

variable {before after : Properties}

theorem filterMap_insert {α : Type} {read : String × String → Option α}
    (hnone : read (key, value) = none) :
    (before ++ (key, value) :: after).filterMap read = (before ++ after).filterMap read := by
  rw [List.filterMap_append, List.filterMap_cons_none hnone, List.filterMap_append]

variable (hidle : Idle value (PropertyKey.ofText key))
include hidle

theorem lookup_insert {name : String} (hname : PropertyKey.ofText name = .plain) :
    (before ++ (key, value) :: after).lookup name = (before ++ after).lookup name := by
  have hne : (name == key) = false := by
    rw [beq_eq_false_iff_ne]
    rintro rfl
    exact hidle.ne_plain hname
  rw [List.lookup_append, List.lookup_cons, hne, List.lookup_append]

theorem family_insert {first : String} (hfirst : first = "vars" ∨ first = "options") :
    Properties.family (before ++ (key, value) :: after) first =
      Properties.family (before ++ after) first := by
  refine filterMap_insert ?_
  dsimp only
  split
  · rename_i part name hfields
    rw [if_neg]
    rintro rfl
    exact hidle.ne_plain (PropertyKey.ofText_eq_plain_of_fields hfields hfirst)
  · rfl

theorem namesOf_insert : namesOf (before ++ (key, value) :: after) = namesOf (before ++ after) := by
  funext id
  rw [namesOf, filterMap_insert hidle.declaration?_eq_none]
  rfl

theorem settingOf_insert (host : Option String) :
    settingOf (before ++ (key, value) :: after) host = settingOf (before ++ after) host := by
  rw [settingOf, settingOf, hidle.family_insert (.inl rfl), hidle.family_insert (.inr rfl),
    filterMap_insert hidle.tableName?_eq_none, hidle.namesOf_insert]

theorem probe_insert :
    Probe.read (before ++ (key, value) :: after) = Probe.read (before ++ after) := by
  simp only [Probe.read,
    hidle.lookup_insert (show PropertyKey.ofText "test.url" = .plain by rfl),
    hidle.lookup_insert (show PropertyKey.ofText "test.expr" = .plain by rfl),
    hidle.lookup_insert (show PropertyKey.ofText "test.port" = .plain by rfl)]

theorem blank_insert (host : Option String) (timeout : Int) :
    blank (before ++ (key, value) :: after) host timeout = blank (before ++ after) host timeout := by
  simp only [blank, Properties.name?, Properties.definitions, Probe.ofProperties,
    hidle.family_insert (.inl rfl), hidle.family_insert (.inr rfl),
    hidle.lookup_insert (show PropertyKey.ofText "properties.name" = .plain by rfl),
    hidle.lookup_insert (show PropertyKey.ofText "name" = .plain by rfl),
    hidle.lookup_insert (show PropertyKey.ofText "properties.maturity" = .plain by rfl),
    hidle.lookup_insert (show PropertyKey.ofText "properties.author" = .plain by rfl),
    hidle.lookup_insert (show PropertyKey.ofText "test.url" = .plain by rfl),
    hidle.lookup_insert (show PropertyKey.ofText "test.expr" = .plain by rfl),
    hidle.lookup_insert (show PropertyKey.ofText "test.port" = .plain by rfl)]

end Insert

end Idle

end Device

end Telemetry
