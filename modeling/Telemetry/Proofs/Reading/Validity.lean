import Telemetry.Proofs.Building
import Telemetry.Proofs.Channel.Update
import Telemetry.Proofs.Decimal.Value

namespace Telemetry

namespace Reading

/-- Is the value one that its kind allows? -/
def IsValid : Reading → Prop
  | number value => ∃ worth, value.value? = some worth
  | text _ => True
  | percent value => ∃ worth, value.value? = some worth ∧ 0 ≤ worth ∧ worth ≤ 100
  | switch on => (switch on).toText = "ON" ∨ (switch on).toText = "OFF"
  | contact isOpen => (contact isOpen).toText = "OPEN" ∨ (contact isOpen).toText = "CLOSED"
  | moment value => value.isValid = true

/-- Is it a well-formed value of the wanted kind, or a text? -/
def Serves (kind : Kind) (reading : Reading) : Prop :=
  (reading.kind = kind ∨ reading.kind = .text) ∧ reading.IsValid

theorem readNumber_eq_ok_iff {text : String} {value : Decimal} :
    readNumber text = .ok value ↔ Decimal.read text = some value ∧ value.isFinite = true := by
  unfold readNumber
  cases Decimal.read text with
  | none => simp
  | some found => grind

theorem readPercent_eq_ok_iff {text : String} {value : Decimal} :
    readPercent text = .ok value ↔ readNumber text = .ok value ∧ value.isPercentage = true := by
  unfold readPercent
  cases readNumber text with
  | error fault => simp [bind, Except.bind]
  | ok found =>
      change (if found.isPercentage then Except.ok found else .error Fault.notPercentage) = _ ↔ _
      grind

theorem eq_ok_of_map {ε α β : Type} {f : α → β} {result : Except ε α} {value : β}
    (hmap : result.map f = .ok value) : ∃ found, result = .ok found ∧ f found = value := by
  cases result with
  | error fault => contradiction
  | ok found => exact ⟨found, rfl, Except.ok.inj hmap⟩

theorem of_read {kind : Kind} {text : String} {reading : Reading}
    (hread : read kind text = .ok reading) : reading.kind = kind ∧ reading.IsValid := by
  cases kind with
  | number =>
      obtain ⟨value, hvalue, rfl⟩ := eq_ok_of_map hread
      have hfinite := (readNumber_eq_ok_iff.mp hvalue).2
      rw [← Decimal.isSome_value?] at hfinite
      exact ⟨rfl, Option.isSome_iff_exists.mp hfinite⟩
  | text =>
      obtain rfl := Except.ok.inj hread
      exact ⟨rfl, trivial⟩
  | percent =>
      obtain ⟨value, hvalue, rfl⟩ := eq_ok_of_map hread
      exact ⟨rfl, Decimal.isPercentage_iff.mp (readPercent_eq_ok_iff.mp hvalue).2⟩
  | switch =>
      cases hword : ofWord? switchWords text with
      | none => simp [read, hword] at hread
      | some on =>
          obtain rfl : switch on = reading := by simpa [read, hword] using hread
          cases on with
          | false => exact ⟨rfl, .inr rfl⟩
          | true => exact ⟨rfl, .inl rfl⟩
  | contact =>
      cases hword : ofWord? contactWords text with
      | none => simp [read, hword] at hread
      | some isOpen =>
          obtain rfl : contact isOpen = reading := by simpa [read, hword] using hread
          cases isOpen with
          | false => exact ⟨rfl, .inr rfl⟩
          | true => exact ⟨rfl, .inl rfl⟩
  | moment =>
      cases hmoment : Calendar.Moment.read text with
      | none => simp [read, hmoment] at hread
      | some value =>
          obtain rfl : moment value = reading := by simpa [read, hmoment] using hread
          rw [Calendar.Moment.read, Option.filter_eq_some_iff] at hmoment
          exact ⟨rfl, hmoment.2⟩

theorem toOption_read_eq_some_iff {kind : Kind} {text : String} {reading : Reading} :
    (read kind text).toOption = some reading ↔ read kind text = .ok reading := by
  cases read kind text <;> simp [Except.toOption]

theorem toOption_read_eq_none_iff {kind : Kind} {text : String} :
    (read kind text).toOption = none ↔ ∃ fault, read kind text = .error fault := by
  cases read kind text <;> simp [Except.toOption]

theorem gives_create (kind : Kind) (text : Option String) (name : String) :
    Log.Gives (create kind text name) (text.bind fun text => (read kind text).toOption) := by
  intro journal
  cases text with
  | none => rfl
  | some text =>
      rw [create, Option.bind_some]
      cases read kind text <;> rfl

end Reading

namespace Channel

/-- The text that is to be converted to the kind: the decoded one if the type of what the decoding
gives stands for the kind and it is there, else the scaled one if the declared type does. -/
def selected? (channel : Channel) (tables : CodeTables) (kind : Kind) : Option String :=
  if (channel.outputType tables).bind Kind.ofTag? = some kind ∧ channel.decoded.isSome then
    channel.decoded
  else if Kind.ofTag? channel.type = some kind then channel.scaled
  else none

/-- Is there nothing from the device where there is no scaled text? -/
def IsSettled (channel : Channel) : Prop :=
  channel.scaled = none → channel.raw = none ∧ channel.decoded = none

/-- Is the result the value of the channel for the kind, as far as it has to be one? -/
structure Offers (channel : Channel) (tables : CodeTables) (kind : Kind) (result : Option Reading) :
    Prop where
  serves : ∀ reading, result = some reading → reading.Serves kind
  absent : result = none ↔ channel.scaled = none ∨ ∃ text fault,
    channel.selected? tables kind = some text ∧ Reading.read kind text = .error fault

theorem gives_reading (channel : Channel) (tables : CodeTables) (kind : Kind) :
    Log.Gives (channel.reading tables kind)
      ((channel.choose tables kind).2.bind fun text =>
        (Reading.read (channel.choose tables kind).1 text).toOption) :=
  Reading.gives_create _ _ _

theorem serves_of_run {channel : Channel} {tables : CodeTables} {kind : Kind}
    {journal : Log.Journal} {reading : Reading}
    (hrun : ((channel.reading tables kind).run journal).1 = some reading) : reading.Serves kind := by
  have hresult := (channel.gives_reading tables kind journal).symm.trans hrun
  rw [Option.bind_eq_some_iff] at hresult
  obtain ⟨text, -, hread⟩ := hresult
  obtain ⟨hkind, hvalid⟩ := Reading.of_read (Reading.toOption_read_eq_some_iff.mp hread)
  refine ⟨?_, hvalid⟩
  rw [hkind]
  unfold choose
  split
  · exact .inl rfl
  · split
    · exact .inl rfl
    · exact .inr rfl

theorem offers_run {channel : Channel} (hsettled : channel.IsSettled) (tables : CodeTables)
    (kind : Kind) (journal : Log.Journal) :
    channel.Offers tables kind ((channel.reading tables kind).run journal).1 := by
  constructor
  · intro reading hrun
    exact serves_of_run hrun
  · rw [channel.gives_reading tables kind journal]
    unfold choose selected?
    split
    · rename_i hdecoded
      obtain ⟨text, htext⟩ := Option.isSome_iff_exists.mp hdecoded.2
      have hscaled : channel.scaled ≠ none := by
        intro hnone
        rw [(hsettled hnone).2] at htext
        contradiction
      simp [htext, hscaled, Reading.toOption_read_eq_none_iff]
    · split
      · cases hscaled : channel.scaled with
        | none => simp [(hsettled hscaled).1]
        | some text => simp [Reading.toOption_read_eq_none_iff]
      · cases hscaled : channel.scaled with
        | none => simp
        | some text => simp [Reading.read, Except.toOption]

end Channel

end Telemetry
