import Telemetry.Config
import Telemetry.Proofs.Document.Schema
import Telemetry.Proofs.Pattern.Anchored

namespace Telemetry

namespace Config

open Document (IsName)

section Ids

def idTest : Pattern.CharTest :=
  .within false .exact
    [.range 48 57, .range 65 90, .range 97 122, .range 46 46, .range 95 95, .range 45 45]

theorem holds_idTest_iff {c : Char} : idTest.holds c = true ↔ isIdChar c = true := by
  have hone : ∀ other : Char, c = other ↔ other.toNat ≤ c.toNat ∧ c.toNat ≤ other.toNat := by
    intro other
    rw [← Char.toNat_inj]
    omega
  have hrange : ∀ other other' : Char, other ≤ other' ↔ other.toNat ≤ other'.toNat := by
    intro other other'
    rw [Char.le_def, UInt32.le_iff_toNat_le]
    rfl
  simp only [idTest, Pattern.CharTest.holds, Pattern.SetItem.holds, isIdChar, List.any_cons,
    List.any_nil, Bool.or_false, Bool.bne_false, Bool.or_eq_true, Bool.and_eq_true,
    decide_eq_true_eq, beq_iff_eq, hone, hrange, or_assoc]
  exact Iff.rfl

theorem isId_iff {text : String} :
    isId text = true ↔ Pattern.IsRowOf (fun c => isIdChar c = true) text := by
  have hrow : ∀ cs : List Char, (!cs.isEmpty && cs.all isIdChar) = true ↔
      cs ≠ [] ∧ ∀ c ∈ cs, isIdChar c = true := by
    intro cs
    simp
  rw [isId, hrow]
  split
  · rename_i hlast
    obtain ⟨row, htext⟩ := List.getLast?_eq_some_iff.mp hlast
    rw [htext, List.dropLast_concat]
    constructor
    · rintro ⟨hne, hall⟩
      exact ⟨row, hne, hall, .inr htext⟩
    · rintro ⟨row', hne, hall, htext' | htext'⟩
      · have hbreak := hall '\n' (by rw [← htext', htext]; simp)
        exact absurd hbreak (by decide)
      · obtain rfl := List.append_cancel_right (htext.symm.trans htext')
        exact ⟨hne, hall⟩
  · rename_i hlast
    constructor
    · rintro ⟨hne, hall⟩
      exact ⟨_, hne, hall, .inl rfl⟩
    · rintro ⟨row, hne, hall, htext | htext⟩
      · exact htext ▸ ⟨hne, hall⟩
      · exact absurd (List.getLast?_eq_some_iff.mpr ⟨row, htext⟩) hlast

theorem isId_iff_occurs {text : String} :
    isId text = true ↔ Pattern.Occurs "^[0-9A-Za-z._-]+$" text := by
  have hcompile : Pattern.compile "^[0-9A-Za-z._-]+$" =
      .ok ⟨"^[0-9A-Za-z._-]+$", Pattern.rowOf idTest, 0⟩ := by
    have hread : (match Pattern.compile "^[0-9A-Za-z._-]+$" with
        | .ok pattern => decide (pattern = ⟨"^[0-9A-Za-z._-]+$", Pattern.rowOf idTest, 0⟩)
        | .error _ => false) = true := by decide +kernel
    revert hread
    cases Pattern.compile "^[0-9A-Za-z._-]+$" with
    | ok pattern => exact fun hread => congrArg Except.ok (of_decide_eq_true hread)
    | error fault => exact nofun
  simp only [Pattern.Occurs, hcompile, Except.ok.injEq, exists_eq_left', Pattern.occursIn_rowOf_iff,
    holds_idTest_iff, isId_iff]

end Ids

/-- Is the document a whole number that is at least the given one? -/
def IsCount (least : Int) (document : Document) : Prop :=
  ∃ n, document.StandsFor n ∧ least ≤ n

structure IsServer (document : Document) : Prop where
  isMapping : ∃ entries, document = .mapping entries
  hasOnly : document.HasOnly ["host", "profile"]
  host : document.Has "host" IsName
  profile : document.MayHave "profile" IsName

structure IsItem (document : Document) : Prop where
  isMapping : ∃ entries, document = .mapping entries
  hasOnly : document.HasOnly ["name", "server", "variable", "kind", "refresh"]
  server : document.Has "server" IsName
  channel : document.Has "variable" IsName
  name : document.MayHave "name" IsName
  kind : document.MayHave "kind" IsName
  refresh : document.MayHave "refresh" (IsCount 0)

/-- Keys that are no texts are not looked at. -/
structure AreServers (document : Document) : Prop where
  isMapping : ∃ entries, document = .mapping entries
  ids : ∀ entry ∈ document.entries, ∀ text, entry.1 = .text text →
    Pattern.Occurs "^[0-9A-Za-z._-]+$" text
  servers : ∀ entry ∈ document.entries, IsServer entry.2

structure AreItems (document : Document) : Prop where
  isList : ∃ items, document = .list items
  items : ∀ item ∈ document.items, IsItem item

/-- Has the document the form of a configuration? -/
structure IsFormed (document : Document) : Prop where
  isMapping : ∃ entries, document = .mapping entries
  hasOnly : document.HasOnly ["timeout", "granularity", "servers", "items"]
  timeout : document.MayHave "timeout" (IsCount 1)
  granularity : document.MayHave "granularity" (IsCount 1)
  servers : document.MayHave "servers" AreServers
  items : document.MayHave "items" AreItems

variable {document : Document}

theorem name_eq_none_iff : name document = none ↔ IsName document := by
  rw [name, Schema.all_eq_none_iff, List.forall_mem_cons, List.forall_mem_singleton,
    Schema.ofType_eq_none_iff, Document.isOfType_string_iff]
  constructor
  · rintro ⟨⟨text, rfl⟩, hnonempty⟩
    exact ⟨text, Schema.nonempty_eq_none_iff.mp hnonempty, rfl⟩
  · rintro ⟨text, hnonempty, rfl⟩
    exact ⟨⟨text, rfl⟩, Schema.nonempty_eq_none_iff.mpr hnonempty⟩

theorem count_eq_none_iff {least : Int} : count least document = none ↔ IsCount least document := by
  rw [count, Schema.all_eq_none_iff, List.forall_mem_cons, List.forall_mem_singleton,
    Schema.ofType_eq_none_iff, Document.isOfType_integer_iff]
  constructor
  · rintro ⟨⟨n, hstands⟩, hleast⟩
    exact ⟨n, hstands, (Schema.atLeast_eq_none_iff hstands).mp hleast⟩
  · rintro ⟨n, hstands, hleast⟩
    exact ⟨⟨n, hstands⟩, (Schema.atLeast_eq_none_iff hstands).mpr hleast⟩

theorem serverSchema_eq_none_iff : serverSchema document = none ↔ IsServer document := by
  simp only [serverSchema, Schema.all_eq_none_iff, List.forall_mem_cons, List.not_mem_nil,
    false_implies, implies_true, and_true, Schema.ofType_eq_none_iff, Document.isOfType_object_iff,
    Schema.noOthers_eq_none_iff, Schema.values_eq_none_iff, name_eq_none_iff]
  constructor
  · rintro ⟨hmapping, honly, hrequired, hhost, hprofile⟩
    rw [Schema.requires_eq_none_iff hmapping] at hrequired
    exact ⟨hmapping, honly, Document.has_iff.mpr ⟨hrequired, hhost⟩, hprofile⟩
  · rintro ⟨hmapping, honly, hhost, hprofile⟩
    rw [Schema.requires_eq_none_iff hmapping]
    obtain ⟨hrequired, hhost⟩ := Document.has_iff.mp hhost
    exact ⟨hmapping, honly, hrequired, hhost, hprofile⟩

theorem bindingSchema_eq_none_iff : bindingSchema document = none ↔ IsItem document := by
  simp only [bindingSchema, Schema.all_eq_none_iff, List.forall_mem_cons, List.not_mem_nil,
    false_implies, implies_true, and_true, Schema.ofType_eq_none_iff, Document.isOfType_object_iff,
    Schema.noOthers_eq_none_iff, Schema.values_eq_none_iff, name_eq_none_iff, count_eq_none_iff]
  constructor
  · rintro ⟨hmapping, honly, hserver, hchannel, hname, hserver', hchannel', hkind, hrefresh⟩
    rw [Schema.requires_eq_none_iff hmapping] at hserver hchannel
    exact ⟨hmapping, honly, Document.has_iff.mpr ⟨hserver, hserver'⟩,
      Document.has_iff.mpr ⟨hchannel, hchannel'⟩, hname, hkind, hrefresh⟩
  · rintro ⟨hmapping, honly, hserver, hchannel, hname, hkind, hrefresh⟩
    simp only [Schema.requires_eq_none_iff hmapping]
    obtain ⟨hserver, hserver'⟩ := Document.has_iff.mp hserver
    obtain ⟨hchannel, hchannel'⟩ := Document.has_iff.mp hchannel
    exact ⟨hmapping, honly, hserver, hchannel, hname, hserver', hchannel', hkind, hrefresh⟩

theorem serversSchema_eq_none_iff : serversSchema document = none ↔ AreServers document := by
  simp only [serversSchema, Schema.all_eq_none_iff, List.forall_mem_cons, List.not_mem_nil,
    false_implies, implies_true, and_true, Schema.ofType_eq_none_iff, Document.isOfType_object_iff,
    Schema.keys_eq_none_iff, Schema.matching_eq_none_iff, Schema.otherValues_eq_none_iff,
    serverSchema_eq_none_iff, Document.scalar.injEq, isId_iff_occurs]
  exact ⟨fun ⟨hmapping, hids, hservers⟩ => ⟨hmapping, hids, hservers⟩,
    fun ⟨hmapping, hids, hservers⟩ => ⟨hmapping, hids, hservers⟩⟩

theorem tells_schema : Schema.Tells schema := by
  have hname : Schema.Tells name :=
    Schema.tells_all (by simp [Schema.tells_ofType, Schema.tells_nonempty])
  have hcount : ∀ least, Schema.Tells (count least) :=
    fun least => Schema.tells_all (by simp [Schema.tells_ofType, Schema.tells_atLeast])
  have hserver : Schema.Tells serverSchema := by
    refine Schema.tells_all ?_
    simp [Schema.tells_ofType, Schema.tells_noOthers, Schema.tells_requires, Schema.tells_values,
      hname]
  have hitem : Schema.Tells bindingSchema := by
    refine Schema.tells_all ?_
    simp [Schema.tells_ofType, Schema.tells_noOthers, Schema.tells_requires, Schema.tells_values,
      hname, hcount]
  have hservers : Schema.Tells serversSchema := by
    refine Schema.tells_all ?_
    simp [Schema.tells_ofType, Schema.tells_keys, Schema.tells_matching, Schema.tells_otherValues,
      hserver]
  have hitems : Schema.Tells (.all [.ofType [.array], .eachItem bindingSchema]) :=
    Schema.tells_all (by simp [Schema.tells_ofType, Schema.tells_eachItem, hitem])
  refine Schema.tells_all ?_
  simp [Schema.tells_ofType, Schema.tells_noOthers, Schema.tells_values, hcount, hservers, hitems]

theorem schema_eq_none_iff : schema document = none ↔ IsFormed document := by
  have hitems : ∀ document, Schema.all [.ofType [.array], .eachItem bindingSchema] document = none ↔
      AreItems document := by
    intro document
    rw [Schema.all_eq_none_iff, List.forall_mem_cons, List.forall_mem_singleton, Schema.ofType_eq_none_iff,
      Document.isOfType_array_iff, Schema.eachItem_eq_none_iff]
    simp only [bindingSchema_eq_none_iff]
    exact ⟨fun ⟨hlist, hitems⟩ => ⟨hlist, hitems⟩, fun ⟨hlist, hitems⟩ => ⟨hlist, hitems⟩⟩
  rw [schema, Schema.all_eq_none_iff]
  simp only [List.forall_mem_cons, List.not_mem_nil, false_implies, implies_true, and_true,
    Schema.ofType_eq_none_iff, Document.isOfType_object_iff, Schema.noOthers_eq_none_iff,
    Schema.values_eq_none_iff, count_eq_none_iff, serversSchema_eq_none_iff, hitems]
  constructor
  · rintro ⟨hmapping, honly, htimeout, hgranularity, hservers, hitems⟩
    exact ⟨hmapping, honly, htimeout, hgranularity, hservers, hitems⟩
  · rintro ⟨hmapping, honly, htimeout, hgranularity, hservers, hitems⟩
    exact ⟨hmapping, honly, htimeout, hgranularity, hservers, hitems⟩

end Config

end Telemetry
