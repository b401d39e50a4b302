import Telemetry.Device.Build
import Telemetry.Proofs.Keyed
import Telemetry.Proofs.Text.Fields

namespace Telemetry

def GroupField.key : GroupField → String
  | vars => "vars"
  | factors => "factors"
  | types => "types"
  | split => "split"
  | expr => "expr"
  | url => "url"
  | refresh => "refresh"
  | cache => "cache"

theorem GroupField.lookup_names_iff {name : String} {field : GroupField} :
    names.lookup name = some field ↔ name = field.key := by
  constructor
  · intro hfound
    have hmem := Keyed.mem_of_lookup hfound
    simp only [names, List.mem_cons, Prod.mk.injEq, List.not_mem_nil, or_false] at hmem
    rcases hmem with ⟨rfl, rfl⟩ | ⟨rfl, rfl⟩ | ⟨rfl, rfl⟩ | ⟨rfl, rfl⟩ | ⟨rfl, rfl⟩ | ⟨rfl, rfl⟩ |
      ⟨rfl, rfl⟩ | ⟨rfl, rfl⟩ <;> rfl
  · rintro rfl
    cases field <;> rfl

def TableField.key : TableField → String
  | url => "url"
  | types => "types"
  | expr => "expr"
  | refresh => "refresh"
  | cache => "cache"

theorem TableField.lookup_names_iff {name : String} {field : TableField} :
    names.lookup name = some field ↔ name = field.key := by
  constructor
  · intro hfound
    have hmem := Keyed.mem_of_lookup hfound
    simp only [names, List.mem_cons, Prod.mk.injEq, List.not_mem_nil, or_false] at hmem
    rcases hmem with ⟨rfl, rfl⟩ | ⟨rfl, rfl⟩ | ⟨rfl, rfl⟩ | ⟨rfl, rfl⟩ | ⟨rfl, rfl⟩ <;> rfl
  · rintro rfl
    cases field <;> rfl

namespace PropertyKey

variable {key id channel : String}

theorem ofGroupParts_eq_group_iff {parts : List String} {field : GroupField} :
    ofGroupParts parts = .group id field ↔ parts = [id, field.key] := by
  constructor
  · intro hparts
    unfold ofGroupParts at hparts
    split at hparts
    · contradiction
    · split at hparts
      · rename_i hfield
        rw [GroupField.lookup_names_iff.mp hfield]
        cases hparts
        rfl
      · contradiction
    · contradiction
  · rintro rfl
    simp only [ofGroupParts, GroupField.lookup_names_iff.mpr rfl]

theorem ofGroupParts_eq_binding_iff {parts : List String} :
    ofGroupParts parts = .binding id channel ↔ parts = [id, "transforms", channel] := by
  constructor
  · intro hparts
    unfold ofGroupParts at hparts
    split at hparts
    · cases hparts
      rfl
    · split at hparts <;> contradiction
    · contradiction
  · rintro rfl
    rfl

theorem ofTableParts_eq_table_iff {parts : List String} {field : TableField} :
    ofTableParts parts = .table id field ↔ parts = [id, field.key] := by
  constructor
  · intro hparts
    unfold ofTableParts at hparts
    split at hparts
    · split at hparts
      · rename_i hfield
        rw [TableField.lookup_names_iff.mp hfield]
        cases hparts
        rfl
      · contradiction
    · contradiction
  · rintro rfl
    simp only [ofTableParts, TableField.lookup_names_iff.mpr rfl]

theorem ofTableParts_cases (parts : List String) :
    (∃ id field, ofTableParts parts = .table id field) ∨
      ∃ id, ofTableParts parts = .wrongTable id := by
  unfold ofTableParts
  split
  · split
    · exact .inl ⟨_, _, rfl⟩
    · exact .inr ⟨_, rfl⟩
  · exact .inr ⟨_, rfl⟩

theorem ofTableParts_pair (id part : String) :
    (∃ field, ofTableParts [id, part] = .table id field) ∨
      ofTableParts [id, part] = .wrongTable (some id) := by
  unfold ofTableParts
  dsimp only
  split
  · exact .inl ⟨_, rfl⟩
  · exact .inr rfl

theorem ofGroupParts_cases (parts : List String) :
    (∃ id field, ofGroupParts parts = .group id field) ∨
      (∃ id channel, ofGroupParts parts = .binding id channel) ∨ ofGroupParts parts = .wrongGroup := by
  unfold ofGroupParts
  split
  · exact .inr (.inl ⟨_, _, rfl⟩)
  · split
    · exact .inl ⟨_, _, rfl⟩
    · exact .inr (.inr rfl)
  · exact .inr (.inr rfl)

theorem ofText_cases (key : String) :
    (∃ parts, Text.fields '.' key = "values" :: parts ∧ ofText key = ofGroupParts parts) ∨
      (∃ parts, Text.fields '.' key = "transforms" :: parts ∧ ofText key = ofTableParts parts) ∨
      ((Text.fields '.' key).head? ≠ some "values" ∧
        (Text.fields '.' key).head? ≠ some "transforms" ∧
        ofText key ∈ [PropertyKey.plain, .malformed, .unknown]) := by
  unfold ofText
  split
  · exact .inl ⟨_, ‹_›, rfl⟩
  · exact .inr (.inl ⟨_, ‹_›, rfl⟩)
  · rename_i first parts hvalues htransforms hfields
    rw [hfields]
    refine .inr (.inr ⟨?_, ?_, ?_⟩)
    · simpa using hvalues
    · simpa using htransforms
    · split
      · split <;> simp
      · split <;> simp
  · rename_i hfields
    simp [hfields]

theorem ofText_eq_group_iff {field : GroupField} :
    ofText key = .group id field ↔ Text.fields '.' key = ["values", id, field.key] := by
  rcases ofText_cases key with ⟨parts, hfields, hkey⟩ | ⟨parts, hfields, hkey⟩ | ⟨hhead, -, hkey⟩
  · rw [hkey, hfields, ofGroupParts_eq_group_iff]
    simp
  · rw [hkey, hfields]
    rcases ofTableParts_cases parts with ⟨id, field, hparts⟩ | ⟨id, hparts⟩ <;> simp [hparts]
  · constructor
    · intro hgroup
      simp [hgroup] at hkey
    · intro hfields
      simp [hfields] at hhead

theorem ofText_eq_binding_iff :
    ofText key = .binding id channel ↔
      Text.fields '.' key = ["values", id, "transforms", channel] := by
  rcases ofText_cases key with ⟨parts, hfields, hkey⟩ | ⟨parts, hfields, hkey⟩ | ⟨hhead, -, hkey⟩
  · rw [hkey, hfields, ofGroupParts_eq_binding_iff]
    simp
  · rw [hkey, hfields]
    rcases ofTableParts_cases parts with ⟨id, field, hparts⟩ | ⟨id, hparts⟩ <;> simp [hparts]
  · constructor
    · intro hbinding
      simp [hbinding] at hkey
    · intro hfields
      simp [hfields] at hhead

theorem ofText_eq_table_iff {field : TableField} :
    ofText key = .table id field ↔ Text.fields '.' key = ["transforms", id, field.key] := by
  rcases ofText_cases key with ⟨parts, hfields, hkey⟩ | ⟨parts, hfields, hkey⟩ | ⟨-, hhead, hkey⟩
  · rw [hkey, hfields]
    rcases ofGroupParts_cases parts with ⟨id, field, hparts⟩ | ⟨id, channel, hparts⟩ | hparts <;>
      simp [hparts]
  · rw [hkey, hfields, ofTableParts_eq_table_iff]
    simp
  · constructor
    · intro htable
      simp [htable] at hkey
    · intro hfields
      simp [hfields] at hhead

section Parts

variable {first : String} {parts : List String}

theorem ofText_eq_ofGroupParts (hfields : Text.fields '.' key = "values" :: parts) :
    ofText key = ofGroupParts parts := by
  rw [ofText, hfields]
  rfl

theorem ofText_eq_ofTableParts (hfields : Text.fields '.' key = "transforms" :: parts) :
    ofText key = ofTableParts parts := by
  rw [ofText, hfields]
  rfl

theorem ofText_eq_malformed (hfields : Text.fields '.' key = first :: parts)
    (hfirst : first = "vars" ∨ first = "options") (hparts : parts.length ≠ 1) :
    ofText key = .malformed := by
  rw [ofText, hfields]
  rcases hfirst with rfl | rfl <;> simp [hparts]

theorem ofText_eq_unknown (hfields : Text.fields '.' key = first :: parts)
    (hfirst : first ∉ ["values", "transforms", "vars", "options", "properties", "name", "test"]) :
    ofText key = .unknown := by
  rw [ofText, hfields]
  simp only [List.mem_cons, List.not_mem_nil, or_false, not_or] at hfirst
  obtain ⟨hvalues, htransforms, hvars, hoptions, hproperties, hname, htest⟩ := hfirst
  split
  · rename_i heq
    exact absurd (List.cons.inj heq).1 hvalues
  · rename_i heq
    exact absurd (List.cons.inj heq).1 htransforms
  · rename_i heq
    obtain ⟨rfl, rfl⟩ := List.cons.inj heq
    simp [hvars, hoptions, hproperties, hname, htest]
  · rfl

theorem ofTableParts_of_length (hparts : parts.length ≠ 2) : ofTableParts parts = .wrongTable none := by
  unfold ofTableParts
  split
  · exact absurd rfl hparts
  · rfl

theorem ofGroupParts_eq_wrongGroup (hfield : ∀ id (field : GroupField), parts ≠ [id, field.key])
    (hbinding : ∀ id channel, parts ≠ [id, "transforms", channel]) :
    ofGroupParts parts = .wrongGroup := by
  rcases ofGroupParts_cases parts with ⟨id, field, hgroup⟩ | ⟨id, channel, hgroup⟩ | hgroup
  · exact absurd (ofGroupParts_eq_group_iff.mp hgroup) (hfield id field)
  · exact absurd (ofGroupParts_eq_binding_iff.mp hgroup) (hbinding id channel)
  · exact hgroup

theorem ofText_eq_plain_of_fields {name : String} (hfields : Text.fields '.' key = [first, name])
    (hfirst : first = "vars" ∨ first = "options") : ofText key = .plain := by
  rw [ofText, hfields]
  rcases hfirst with rfl | rfl <;> rfl

end Parts

end PropertyKey

end Telemetry
