import Telemetry.Document.Schema
import Telemetry.Proofs.Binary64.Whole
import Telemetry.Proofs.Document.ScalarKey
import Telemetry.Proofs.Keyed

namespace Telemetry

namespace Document

/-- Is the document a text that is not empty? -/
def IsName (document : Document) : Prop :=
  ∃ text, text ≠ "" ∧ document = .scalar (.text text)

/-- Does the document stand for a whole number? A floating-point number without a fraction does; a
truth value does not. -/
inductive StandsFor : Document → Int → Prop
  | integer (n : Int) : StandsFor (.scalar (.integer n)) n
  | real {x : Binary64} {n : Int} (hvalue : x.value? = some (n : ℚ)) : StandsFor (.scalar (.real x)) n

/-- Are all keys of a mapping among the given ones? -/
def HasOnly (known : List String) (document : Document) : Prop :=
  ∀ entry ∈ document.entries, ∃ name ∈ known, entry.1 = .text name

/-- Has the document a key with a value that is accepted? -/
def Has (document : Document) (key : String) (accepted : Document → Prop) : Prop :=
  ∃ value, document.entry? key = some value ∧ accepted value

/-- Is the value of a key accepted, if the document has the key? -/
def MayHave (document : Document) (key : String) (accepted : Document → Prop) : Prop :=
  ∀ value, document.entry? key = some value → accepted value

variable {document : Document} {n : Int} {key : String} {accepted : Document → Prop}

theorem has_iff : document.Has key accepted ↔
    (document.entry? key).isSome = true ∧ document.MayHave key accepted := by
  rw [Has, MayHave]
  cases document.entry? key <;> simp

theorem isOfType_object_iff :
    document.isOfType .object = true ↔ ∃ entries, document = .mapping entries := by
  unfold isOfType
  split <;> simp_all

theorem isOfType_array_iff : document.isOfType .array = true ↔ ∃ items, document = .list items := by
  unfold isOfType
  split <;> simp_all

theorem isOfType_string_iff :
    document.isOfType .string = true ↔ ∃ text, document = .scalar (.text text) := by
  unfold isOfType
  split <;> simp_all

theorem isOfType_integer_iff : document.isOfType .integer = true ↔ ∃ n, document.StandsFor n := by
  constructor
  · intro htype
    unfold isOfType at htype
    split at htype
    all_goals try contradiction
    · exact ⟨_, .integer _⟩
    · obtain ⟨n, hvalue⟩ := Binary64.isWhole_iff.mp htype
      exact ⟨n, .real hvalue⟩
  · rintro ⟨n, hstands⟩
    cases hstands with
    | integer => rfl
    | real hvalue => exact Binary64.isWhole_iff.mpr ⟨n, hvalue⟩

theorem integer?_of_standsFor (hstands : document.StandsFor n) : document.integer? = some n := by
  cases hstands with
  | integer => rfl
  | real hvalue =>
      rw [integer?, if_pos (Binary64.isWhole_iff.mpr ⟨n, hvalue⟩)]
      exact Binary64.truncate?_of_value? hvalue

end Document

namespace Schema

variable {document : Document} {schema : Schema} {known : List String}

theorem expect_eq_none_iff {holds : Bool} {breach : Breach} :
    expect holds breach = none ↔ holds = true := by
  cases holds <;> simp [expect]

theorem all_eq_none_iff {rules : List Schema} :
    all rules document = none ↔ ∀ rule ∈ rules, rule document = none :=
  List.findSome?_eq_none_iff

theorem ofType_eq_none_iff {type : DocumentType} :
    ofType [type] document = none ↔ document.isOfType type = true := by
  rw [ofType, expect_eq_none_iff, List.any_cons, List.any_nil, Bool.or_false]

theorem requires_eq_none_iff {key : String} (hmapping : ∃ entries, document = .mapping entries) :
    requires key document = none ↔ (document.entry? key).isSome = true := by
  obtain ⟨entries, rfl⟩ := hmapping
  rw [requires, expect_eq_none_iff]

theorem values_eq_none_iff {schemas : List (String × Schema)} :
    values schemas document = none ↔
      ∀ known ∈ schemas, document.MayHave known.1 fun value => known.2 value = none := by
  rw [values, List.findSome?_eq_none_iff]
  refine forall₂_congr fun known _ => ?_
  rw [Document.MayHave]
  cases hvalue : document.entry? known.1 <;> simp [hvalue]

theorem atLeast_eq_none_iff {least n : Int} (hstands : document.StandsFor n) :
    atLeast least document = none ↔ least ≤ n := by
  cases hstands with
  | integer => rw [atLeast, expect_eq_none_iff, decide_eq_true_eq]
  | real hvalue =>
      rw [atLeast, expect_eq_none_iff, Bool.not_eq_true', ← Bool.not_eq_true,
        Binary64.isBelow_iff hvalue, Int.not_lt]

theorem nonempty_eq_none_iff {text : String} :
    nonempty (.scalar (.text text)) = none ↔ text ≠ "" := by
  rw [nonempty, expect_eq_none_iff, decide_eq_true_eq]

theorem noOthers_eq_none_iff : noOthers known document = none ↔ document.HasOnly known := by
  rw [noOthers, expect_eq_none_iff, List.isEmpty_iff, List.map_eq_nil_iff, others,
    List.filter_eq_nil_iff]
  refine forall₂_congr fun entry _ => ?_
  simp [Scalar.text_beq_iff]

theorem otherValues_eq_none_iff :
    otherValues [] schema document = none ↔ ∀ entry ∈ document.entries, schema entry.2 = none := by
  rw [otherValues, List.findSome?_eq_none_iff, others]
  simp

theorem keys_eq_none_iff :
    keys schema document = none ↔ ∀ entry ∈ document.entries, schema (.scalar entry.1) = none :=
  List.findSome?_eq_none_iff

theorem itemsFrom_eq_none_iff {index : Nat} {items : List Document} :
    itemsFrom schema index items = none ↔ ∀ item ∈ items, schema item = none := by
  induction items generalizing index with
  | nil => simp [itemsFrom]
  | cons item items ih =>
      rw [List.forall_mem_cons, ← @ih (index + 1), itemsFrom]
      cases schema item <;> simp

theorem eachItem_eq_none_iff :
    eachItem schema document = none ↔ ∀ item ∈ document.items, schema item = none :=
  itemsFrom_eq_none_iff

theorem matching_eq_none_iff {test : String → Bool} {pattern : String} :
    matching test pattern document = none ↔
      ∀ text, document = .scalar (.text text) → test text = true := by
  unfold matching
  split
  · simp [expect_eq_none_iff]
  · simp_all

end Schema

section Writing

theorem Rejection.isTold_ofViolation_iff {violation : Violation} :
    (ofViolation violation).isTold = true ↔ violation.isWritable = true := by
  rw [ofViolation]
  cases violation.isWritable <;> simp [isTold]

namespace Document

variable {document value : Document}

theorem isWritable_of_mem_items (hdocument : document.isWritable = true) {item : Document}
    (hitem : item ∈ document.items) : item.isWritable = true := by
  have hall : ∀ items : List Document, areWritable items = true → ∀ item ∈ items,
      item.isWritable = true := by
    intro items
    induction items with
    | nil => simp
    | cons first items ih =>
        rw [areWritable, Bool.and_eq_true, List.forall_mem_cons]
        exact fun ⟨hfirst, hrest⟩ => ⟨hfirst, ih hrest⟩
  cases document with
  | list items => exact hall items hdocument item hitem
  | _ => contradiction

theorem isWritable_of_mem_entries (hdocument : document.isWritable = true)
    {entry : Scalar × Document} (hentry : entry ∈ document.entries) :
    entry.1.isWritable = true ∧ entry.2.isWritable = true := by
  have hall : ∀ entries : List (Scalar × Document), areWritableEntries entries = true →
      ∀ entry ∈ entries, entry.1.isWritable = true ∧ entry.2.isWritable = true := by
    intro entries
    induction entries with
    | nil => simp
    | cons first entries ih =>
        obtain ⟨key, value⟩ := first
        rw [areWritableEntries, Bool.and_eq_true, Bool.and_eq_true, List.forall_mem_cons]
        exact fun ⟨hfirst, hrest⟩ => ⟨hfirst, ih hrest⟩
  cases document with
  | mapping entries => exact hall entries hdocument entry hentry
  | _ => contradiction

theorem isWritable_of_entry? (hdocument : document.isWritable = true) {key : String}
    (hvalue : document.entry? key = some value) : value.isWritable = true := by
  obtain ⟨key, hentry⟩ := Keyed.exists_mem_of_lookup hvalue
  exact (isWritable_of_mem_entries hdocument hentry).2

end Document

namespace Schema

variable {schema : Schema}

/-- Can every violation be told that the schema finds in a document that can be written? -/
def Tells (schema : Schema) : Prop :=
  ∀ document violation, document.isWritable = true → schema document = some violation →
    violation.isWritable = true

theorem isWritable_below {violation : Violation} (hviolation : violation.isWritable = true)
    {step : Violation.Step} (hstep : step.isWritable = true) :
    (violation.below step).isWritable = true := by
  rw [Violation.isWritable, Bool.and_eq_true] at *
  exact ⟨by rw [Violation.below, List.all_cons, hstep, hviolation.1, Bool.and_self], hviolation.2⟩

theorem isWritable_of_expect {holds : Bool} {breach : Breach} {violation : Violation}
    (hbreach : breach.isWritable = true) (hexpect : expect holds breach = some violation) :
    violation.isWritable = true := by
  rw [expect] at hexpect
  split at hexpect
  · contradiction
  · obtain rfl := Option.some.inj hexpect
    exact hbreach

theorem tells_all {rules : List Schema} (hrules : ∀ rule ∈ rules, rule.Tells) : Tells (all rules) := by
  intro document violation hdocument hviolation
  obtain ⟨rule, hrule, hfound⟩ := List.exists_of_findSome?_eq_some hviolation
  exact hrules rule hrule document violation hdocument hfound

theorem tells_ofType (types : List DocumentType) : Tells (ofType types) :=
  fun _ _ hdocument => isWritable_of_expect hdocument

theorem tells_atLeast (least : Int) : Tells (atLeast least) := by
  intro document violation hdocument hviolation
  unfold atLeast at hviolation
  split at hviolation
  · refine isWritable_of_expect ?_ hviolation
    exact hdocument
  · refine isWritable_of_expect ?_ hviolation
    exact hdocument
  · contradiction

theorem tells_nonempty : Tells nonempty := by
  intro document violation _ hviolation
  unfold nonempty at hviolation
  split at hviolation
  · exact isWritable_of_expect rfl hviolation
  · contradiction

theorem tells_matching (test : String → Bool) (pattern : String) : Tells (matching test pattern) := by
  intro document violation _ hviolation
  unfold matching at hviolation
  split at hviolation
  · exact isWritable_of_expect rfl hviolation
  · contradiction

theorem tells_requires (key : String) : Tells (requires key) := by
  intro document violation _ hviolation
  unfold requires at hviolation
  split at hviolation
  · exact isWritable_of_expect rfl hviolation
  · contradiction

theorem tells_values {schemas : List (String × Schema)}
    (hschemas : ∀ known ∈ schemas, Tells known.2) : Tells (values schemas) := by
  intro document violation hdocument hviolation
  obtain ⟨⟨key, schema⟩, hmem, hfound⟩ := List.exists_of_findSome?_eq_some hviolation
  obtain ⟨value, hvalue, hfound⟩ := Option.bind_eq_some_iff.mp hfound
  obtain ⟨inner, hinner, rfl⟩ := Option.map_eq_some_iff.mp hfound
  exact isWritable_below
    (hschemas _ hmem value inner (Document.isWritable_of_entry? hdocument hvalue) hinner) rfl

theorem tells_noOthers (known : List String) : Tells (noOthers known) := by
  intro document violation hdocument
  refine isWritable_of_expect (List.all_eq_true.mpr fun key hkey => ?_)
  obtain ⟨entry, hentry, rfl⟩ := List.mem_map.mp hkey
  exact (Document.isWritable_of_mem_entries hdocument (List.mem_filter.mp hentry).1).1

theorem tells_otherValues (known : List String) (hschema : schema.Tells) :
    Tells (otherValues known schema) := by
  intro document violation hdocument hviolation
  obtain ⟨⟨key, value⟩, hentry, hfound⟩ := List.exists_of_findSome?_eq_some hviolation
  obtain ⟨inner, hinner, rfl⟩ := Option.map_eq_some_iff.mp hfound
  obtain ⟨hkey, hvalue⟩ :=
    Document.isWritable_of_mem_entries hdocument (List.mem_filter.mp hentry).1
  have htold := hschema value inner hvalue hinner
  unfold Violation.belowKey
  split
  · exact htold
  · exact isWritable_below htold hkey

theorem tells_keys (hschema : schema.Tells) : Tells (keys schema) := by
  intro document violation hdocument hviolation
  obtain ⟨entry, hentry, hfound⟩ := List.exists_of_findSome?_eq_some hviolation
  exact hschema (.scalar entry.1) violation
    (Document.isWritable_of_mem_entries hdocument hentry).1 hfound

theorem tells_eachItem (hschema : schema.Tells) : Tells (eachItem schema) := by
  have hfrom : ∀ (items : List Document) (index : Nat) (violation : Violation),
      (∀ item ∈ items, item.isWritable = true) → itemsFrom schema index items = some violation →
      violation.isWritable = true := by
    intro items
    induction items with
    | nil => exact fun _ _ _ => nofun
    | cons item items ih =>
        intro index violation hitems hviolation
        obtain ⟨hitem, hrest⟩ := List.forall_mem_cons.mp hitems
        rw [itemsFrom] at hviolation
        cases hfound : schema item with
        | none =>
            rw [hfound] at hviolation
            exact ih (index + 1) violation hrest hviolation
        | some inner =>
            rw [hfound] at hviolation
            obtain rfl := Option.some.inj hviolation
            exact isWritable_below (hschema item inner hitem hfound) rfl
  intro document violation hdocument
  exact hfrom _ 0 violation fun item => Document.isWritable_of_mem_items hdocument

end Schema

end Writing

end Telemetry
