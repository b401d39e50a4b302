import Telemetry.Proofs.Decimal.RoundTrip
import Telemetry.Proofs.Poller.Published

namespace Telemetry

namespace Decimal

variable {negative : Bool} {cs : List Char} {text : String} {number : Decimal}

theorem exists_inRange_of_readFinite (hread : readFinite negative cs = some number) :
    ∃ coefficient exponent, number = finite negative coefficient exponent ∧
      adjusted coefficient exponent ≤ maxAdjusted ∧ minExponent ≤ exponent := by
  obtain ⟨⟨coefficient, exponent⟩, -, hrange⟩ := Option.bind_eq_some_iff.mp hread
  obtain ⟨hrange, hnumber⟩ := Option.ite_none_right_eq_some.mp hrange
  exact ⟨coefficient, exponent, (Option.some.inj hnumber).symm, hrange⟩

theorem readFinite_of_readUnsigned (hread : readUnsigned negative cs = some number)
    (hfinite : number.isFinite = true) : readFinite negative cs = some number := by
  unfold readUnsigned at hread
  split at hread
  · obtain rfl := Option.some.inj hread
    contradiction
  · obtain rfl := Option.some.inj hread
    contradiction
  · obtain ⟨values, -, rfl⟩ := Option.map_eq_some_iff.mp hread
    contradiction
  · obtain ⟨values, -, rfl⟩ := Option.map_eq_some_iff.mp hread
    contradiction
  · exact hread

/-- A finite number that was read from any text is read back from its own. -/
theorem read_toText_of_read (hread : read text = some number) (hfinite : number.isFinite = true) :
    read number.toText = some number := by
  obtain ⟨coefficient, exponent, rfl, hleading, hlast⟩ :=
    exists_inRange_of_readFinite (readFinite_of_readUnsigned hread hfinite)
  exact read_toText hleading hlast

end Decimal

namespace Reading

variable {text : String} {value : Decimal}

theorem readNumber_toText (hread : readNumber text = .ok value) :
    readNumber value.toText = .ok value := by
  obtain ⟨hnumber, hfinite⟩ := readNumber_eq_ok_iff.mp hread
  exact readNumber_eq_ok_iff.mpr ⟨Decimal.read_toText_of_read hnumber hfinite, hfinite⟩

theorem readPercent_toText (hread : readPercent text = .ok value) :
    readPercent value.toText = .ok value := by
  obtain ⟨hnumber, hpercentage⟩ := readPercent_eq_ok_iff.mp hread
  exact readPercent_eq_ok_iff.mpr ⟨readNumber_toText hnumber, hpercentage⟩

theorem read_toText_switch (on : Bool) : read .switch (switch on).toText = .ok (switch on) := by
  cases on <;> decide +kernel

theorem read_toText_contact (isOpen : Bool) :
    read .contact (contact isOpen).toText = .ok (contact isOpen) := by
  cases isOpen <;> decide +kernel

theorem exists_eq_switch {reading : Reading} (hkind : reading.kind = .switch) :
    ∃ on, reading = switch on := by
  cases reading with
  | switch on => exact ⟨on, rfl⟩
  | _ => contradiction

theorem exists_eq_contact {reading : Reading} (hkind : reading.kind = .contact) :
    ∃ isOpen, reading = contact isOpen := by
  cases reading with
  | contact isOpen => exact ⟨isOpen, rfl⟩
  | _ => contradiction

theorem read_toText_of_read {kind : Kind} {reading : Reading} (hkind : kind ≠ .moment)
    (hread : read kind text = .ok reading) : read kind reading.toText = .ok reading := by
  cases kind with
  | number =>
      obtain ⟨value, hvalue, rfl⟩ := eq_ok_of_map hread
      change (readNumber value.toText).map number = _
      rw [readNumber_toText hvalue]
      rfl
  | text =>
      obtain rfl := Except.ok.inj hread
      rfl
  | percent =>
      obtain ⟨value, hvalue, rfl⟩ := eq_ok_of_map hread
      change (readPercent value.toText).map percent = _
      rw [readPercent_toText hvalue]
      rfl
  | switch =>
      obtain ⟨on, rfl⟩ := exists_eq_switch (of_read hread).1
      exact read_toText_switch on
  | contact =>
      obtain ⟨isOpen, rfl⟩ := exists_eq_contact (of_read hread).1
      exact read_toText_contact isOpen
  | moment => contradiction

theorem exists_read_of_create {kind : Kind} {name : String} {journal : Log.Journal}
    {text : Option String} {reading : Reading}
    (hcreate : ((create kind text name).run journal).1 = some reading) :
    ∃ source, text = some source ∧ read kind source = .ok reading := by
  rw [gives_create kind text name journal] at hcreate
  obtain ⟨source, htext, hread⟩ := Option.bind_eq_some_iff.mp hcreate
  exact ⟨source, htext, toOption_read_eq_some_iff.mp hread⟩

theorem run_create_of_read {kind : Kind} {reading : Reading} (hread : read kind text = .ok reading)
    (name : String) (journal : Log.Journal) :
    (create kind (some text) name).run journal = (some reading, journal) := by
  simp only [create, hread]
  rfl

theorem IsOffered.exists_read {kind : Kind} {reading : Reading}
    (hoffered : reading.IsOffered kind) : ∃ text, read reading.kind text = .ok reading := by
  obtain ⟨channel, tables, journal, hrun⟩ := hoffered
  obtain ⟨text, -, hread⟩ := exists_read_of_create hrun
  exact ⟨text, (of_read hread).1 ▸ hread⟩

theorem IsOffered.read_toText {kind : Kind} {reading : Reading} (hoffered : reading.IsOffered kind)
    (hkind : reading.kind ≠ .moment) : read reading.kind reading.toText = .ok reading := by
  obtain ⟨text, hread⟩ := hoffered.exists_read
  exact read_toText_of_read hkind hread

/-- Whatever text a value comes from, it comes from its own text again, with the same payload and
without a record; moments apart. So does every value that a read or a tick gives away. -/
theorem create_toText_of_create :
    (∀ (kind : Kind) (text name : String) (journal : Log.Journal) (reading : Reading),
      kind ≠ .moment → ((create kind (some text) name).run journal).1 = some reading →
      ∀ (name' : String) (journal' : Log.Journal),
        (create kind (some reading.toText) name').run journal' = (some reading, journal')) ∧
    (∀ (registry : Registry) (server : Scalar) (channel : String) (kind : Kind) (network : Network)
        (reading : Reading),
      ((registry.reading server channel kind).run network).1.2 = some reading →
      reading.kind ≠ .moment → read reading.kind reading.toText = .ok reading) ∧
    (∀ (poller : Poller) (registry : Registry) (network : Network) (publication : Publication),
      publication ∈ ((poller.tick registry).run network).1.2 →
      publication.reading.kind ≠ .moment →
        read publication.reading.kind publication.reading.toText = .ok publication.reading) := by
  refine ⟨?_, ?_, ?_⟩
  · intro kind text name journal reading hkind hcreate name' journal'
    obtain ⟨source, -, hread⟩ := exists_read_of_create hcreate
    exact run_create_of_read (read_toText_of_read hkind hread) name' journal'
  · intro registry server channel kind network reading hreading hkind
    exact (Registry.isOffered_of_reading hreading).read_toText hkind
  · intro poller registry network publication hpublished hkind
    exact (Poller.isOffered_of_mem_tick hpublished).read_toText hkind

theorem create_toText_negativeZero :
    Kind.percent ≠ .moment ∧
      ((create .percent (some " -0_0e+7 ") "level").run []).1 =
        some (.percent (.finite true 0 7)) ∧
      (Reading.percent (.finite true 0 7)).toText = "-0E+7" ∧
      (create .percent (some "-0E+7") "again").run [] = (some (.percent (.finite true 0 7)), []) := by
  have hkind : Kind.percent ≠ .moment := by decide
  have hread : ((create .percent (some " -0_0e+7 ") "level").run []).1 =
      some (.percent (.finite true 0 7)) := by decide +kernel
  have htext : (Reading.percent (.finite true 0 7)).toText = "-0E+7" := by decide +kernel
  refine ⟨hkind, hread, htext, ?_⟩
  rw [← htext]
  exact create_toText_of_create.1 .percent _ _ _ _ hkind hread "again" []

end Reading

end Telemetry
