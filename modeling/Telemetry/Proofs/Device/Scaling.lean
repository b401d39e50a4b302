import Telemetry.Proofs.Decimal.Product
import Telemetry.Proofs.Decimal.RoundTrip
import Telemetry.Proofs.Device.History
import Telemetry.Proofs.Poller.Published

namespace Telemetry

theorem Decimal.read_toText_of_product {a b : Bool} {m n : ℕ} {p q : ℤ} {product : Decimal}
    (hproduct : (finite a m p).product (finite b n q) = .ok product) :
    read product.toText = some product := by
  obtain ⟨coefficient, exponent, rfl, hrange⟩ := exists_inRange_of_fit hproduct
  have hlast := hrange.last
  have hleading := hrange.leading
  refine read_toText ?_ ?_
  · unfold maxAdjusted
    unfold maxExponent at hleading
    omega
  · unfold minExponent
    unfold minLast minNormal precision at hlast
    omega

namespace Channel

variable {factor number product : Decimal} {raw : String}

theorem scaledText_of_product (hraw : Decimal.read raw = some number)
    (hproduct : number.product factor = .ok product) :
    scaledText (some factor) raw = product.toText := by
  simp only [scaledText, times?, hraw, hproduct, Option.bind_some, Except.toOption, Option.map_some,
    Option.getD_some]

theorem scaledText_of_no_product
    (hraw : ∀ number, Decimal.read raw = some number → ∃ fault, number.product factor = .error fault) :
    scaledText (some factor) raw = raw := by
  have hnone : times? raw factor = none := by
    rw [times?, Option.bind_eq_none_iff]
    intro number hnumber
    obtain ⟨fault, hfault⟩ := hraw number hnumber
    rw [hfault]
    rfl
  simp only [scaledText, hnone, Option.bind_some, Option.map_none, Option.getD_none]

/-- Is the channel one of numbers, with this factor and without a decoding? -/
structure IsScaledNumber (channel : Channel) (factor : Decimal) : Prop where
  type : Kind.ofTag? channel.type = some .number
  factor : channel.factor = some factor
  decoding : channel.decoding = none

theorem IsScaledNumber.run_reading {channel : Channel} (hchannel : channel.IsScaledNumber factor)
    {text : String} (hscaled : channel.scaled = some text) (hread : Decimal.read text = some number)
    (hfinite : number.isFinite = true) (tables : CodeTables) (journal : Log.Journal) :
    ((channel.reading tables .number).run journal).1 = some (.number number) := by
  have hdecoded : channel.outputType tables = none := by
    rw [outputType, hchannel.decoding]
    rfl
  have hchoice : channel.choose tables .number = (.number, some text) := by
    simp [choose, hdecoded, hchannel.type, hscaled]
  have hnumber : Reading.read .number text = .ok (.number number) := by
    simp only [Reading.read, Reading.readNumber, hread, hfinite, if_true]
    rfl
  rw [channel.gives_reading tables .number journal, hchoice, Option.bind_some, hnumber]
  rfl

end Channel

/-- A channel has the scaled form of the last text for it. -/
theorem Device.scaled_of_lastText {properties : Properties} {host : Option String} {timeout : Int}
    {journal : Log.Journal} {start device : Device} {rounds : List Round}
    (hbuild : ((build properties host timeout).run.run journal).1 = .ok start)
    (hrun : Run start rounds device) {name raw : String} {kind : Kind} {network : Network}
    {group : Group} {channel : Channel} {factor : Decimal}
    (hfound : ((device.reading name kind).run network).1.1.channel? name = some (group, channel))
    (hfactor : channel.factor = some factor)
    (hlast : lastText (((Operation.reading name kind).round? device network).toList ++ rounds)
      group.name group name = some raw) :
    channel.scaled = some (Channel.scaledText (some factor) raw) := by
  have hreflects := (hrun.asked (.reading name kind) network).reflects (reflects_of_build hbuild)
  obtain ⟨id, -, hgroup, hchannel⟩ := channel?_eq_some_iff.mp hfound
  have hname := hreflects.named.group id group hgroup
  have hreflected := hreflects.channel id group name channel hgroup hchannel
  rw [hname, ← hreflected.raw] at hlast
  rw [hreflected.scaled, hlast, hfactor]
  rfl

/-- Is this the number that is read of all channels of numbers with the factor, from when the text was
taken in until a newer one is? -/
structure IsReadOf (raw : String) (factor number : Decimal) : Prop where
  updated : ∀ channel : Channel, channel.IsScaledNumber factor →
    ∀ tables network tables' journal,
      ((((channel.update tables (some raw)).run network).1.2.reading tables' .number).run
        journal).1 = some (.number number)
  device : ∀ properties host timeout journal start rounds device,
    ((Device.build properties host timeout).run.run journal).1 = .ok start →
    Device.Run start rounds device →
    ∀ name network group channel,
      ((device.reading name .number).run network).1.1.channel? name = some (group, channel) →
      channel.IsScaledNumber factor →
      Device.lastText (((Device.Operation.reading name .number).round? device network).toList ++ rounds)
        group.name group name = some raw →
      ((device.reading name .number).run network).1.2 = some (.number number)

theorem isReadOf {raw : String} {factor number : Decimal}
    (hread : Decimal.read (Channel.scaledText (some factor) raw) = some number)
    (hfinite : number.isFinite = true) : IsReadOf raw factor number where
  updated := by
    intro channel hchannel tables network tables' journal
    obtain ⟨decoded, hafter, -⟩ := (channel.updated_update tables (some raw) network).exists_holding
    rw [hafter]
    have hscaled : (channel.holding raw decoded).scaled =
        some (Channel.scaledText (some factor) raw) := by
      rw [← hchannel.factor]
      rfl
    have hsame : (channel.holding raw decoded).IsScaledNumber factor :=
      ⟨hchannel.type, hchannel.factor, hchannel.decoding⟩
    exact hsame.run_reading hscaled hread hfinite tables' journal
  device := by
    intro properties host timeout journal start rounds device hbuild hrun name network group channel
      hfound hchannel hlast
    have hscaled : channel.scaled = some (Channel.scaledText (some factor) raw) :=
      Device.scaled_of_lastText hbuild hrun hfound hchannel.factor hlast
    cases hbefore : device.channel? name with
    | none =>
        simp only [Device.reading, Device.read, hbefore, Online.run_bind, Online.run_pure] at hfound
        exact absurd hfound.symm (Option.some_ne_none _)
    | some found =>
        rw [Device.run_reading_of_channel? hbefore] at hfound ⊢
        simp only [hfound, Option.bind_some]
        exact hchannel.run_reading hscaled hread hfinite _ _

/-- What the text of a channel becomes under a factor. With digits that suffice and a leading digit in
range it stands for the exact product, with the power of ten that comes of the two; with more digits for
the product rounded to 28 of them, if that is in range; and if there is no product it stays as it is. -/
theorem scaling_is_decimal_product (b : Bool) (n : ℕ) (q : ℤ) (raw : String) :
    (∀ channel : Channel, channel.factor = some (.finite b n q) → ∀ tables network,
      ((channel.update tables (some raw)).run network).1.2.scaled =
        some (Channel.scaledText (some (.finite b n q)) raw)) ∧
    (∀ a m p x y, Decimal.read raw = some (.finite a m p) →
      (Decimal.finite a m p).value? = some x → (Decimal.finite b n q).value? = some y →
      (Decimal.digitCount (m * n) ≤ 28 → -999999 ≤ Decimal.adjusted (m * n) (p + q) →
        Decimal.adjusted (m * n) (p + q) ≤ 999999 → ∃ negative coefficient,
          Decimal.read (Channel.scaledText (some (.finite b n q)) raw) =
            some (.finite negative coefficient (p + q)) ∧
          (Decimal.finite negative coefficient (p + q)).value? = some (x * y) ∧
          IsReadOf raw (.finite b n q) (.finite negative coefficient (p + q))) ∧
      (28 < Decimal.digitCount (m * n) → ∃ z, Decimal.IsRounding 28 (x * y) z ∧
        (10 ^ (-999999 : ℤ) ≤ |z| → |z| < 10 ^ (1000000 : ℤ) → ∃ number,
          Decimal.read (Channel.scaledText (some (.finite b n q)) raw) = some number ∧
          number.value? = some z ∧ IsReadOf raw (.finite b n q) number))) ∧
    (Decimal.read raw = none → Channel.scaledText (some (.finite b n q)) raw = raw) ∧
    ∀ number fault, Decimal.read raw = some number →
      number.product (.finite b n q) = .error fault →
      Channel.scaledText (some (.finite b n q)) raw = raw := by
  refine ⟨?_, ?_, ?_, ?_⟩
  · intro channel hfactor tables network
    obtain ⟨decoded, hafter, -⟩ := (channel.updated_update tables (some raw) network).exists_holding
    rw [hafter, ← hfactor]
    rfl
  · intro a m p x y hraw hx hy
    obtain rfl : Decimal.signed a (Decimal.magnitude m p) = x := Option.some.inj hx
    obtain rfl : Decimal.signed b (Decimal.magnitude n q) = y := Option.some.inj hy
    constructor
    · intro hdigits hlow hhigh
      have hproduct : (Decimal.finite a m p).product (.finite b n q) =
          .ok (.finite (a != b) (m * n) (p + q)) :=
        Decimal.product_of_digits hdigits hlow hhigh
      have hread := Decimal.read_toText_of_product hproduct
      rw [← Channel.scaledText_of_product hraw hproduct] at hread
      refine ⟨a != b, m * n, hread, ?_, isReadOf hread rfl⟩
      rw [Decimal.signed_magnitude_mul]
      rfl
    · intro hlong
      obtain ⟨z, hz⟩ := Decimal.exists_isRounding_mul (Decimal.ne_zero_of_digits hlong) a b p q
      refine ⟨z, hz, fun hlow hhigh => ?_⟩
      obtain ⟨number, hproduct, hvalue⟩ := Decimal.exists_product_of_rounding hlong hz hlow hhigh
      have hread := Decimal.read_toText_of_product hproduct
      rw [← Channel.scaledText_of_product hraw hproduct] at hread
      have hfinite : number.isFinite = true := by
        rw [← Decimal.isSome_value?, hvalue]
        rfl
      exact ⟨number, hread, hvalue, isReadOf hread hfinite⟩
  · intro hraw
    refine Channel.scaledText_of_no_product fun number hnumber => ?_
    rw [hraw] at hnumber
    contradiction
  · intro number fault hraw hfault
    refine Channel.scaledText_of_no_product fun other hother => ?_
    obtain rfl := Option.some.inj (hraw.symm.trans hother)
    exact ⟨fault, hfault⟩

/-- A thermometer that sends tenths of a degree. -/
def thermometerProfile : Properties := [
  ("name", "thermometer"),
  ("values.air.vars", "temperature"),
  ("values.air.url", "http://host/air"),
  ("values.air.split", ";"),
  ("values.air.factors", "0.1"),
  ("values.air.types", "Number")]

def thermometer : Device :=
  ((Device.build thermometerProfile (some "host") 3000).run.run []).1.toOption.getD Device.meter

def thermometerNetwork : Network where
  now := 1000
  answer _ _ := ⟨some "\t-2150 ;C", 0⟩
  reaches _ _ := true

theorem build_thermometer :
    ((Device.build thermometerProfile (some "host") 3000).run.run []).1 = .ok thermometer :=
  eq_ok_getD_of_isSome (by decide +kernel) Device.meter

theorem temperature_thermometer :
    ∃ group channel,
      ((thermometer.reading "temperature" .number).run thermometerNetwork).1.1.channel?
        "temperature" = some (group, channel) ∧
      channel.IsScaledNumber (.finite false 1 (-1)) ∧
      Device.lastText (((Device.Operation.reading "temperature" .number).round? thermometer
        thermometerNetwork).toList ++ []) group.name group "temperature" = some "-2150 " := by
  have hstate : (((thermometer.reading "temperature" .number).run
        thermometerNetwork).1.1.channel? "temperature").map (fun found =>
      (Kind.ofTag? found.2.type, found.2.factor, found.2.decoding,
        Device.lastText (((Device.Operation.reading "temperature" .number).round? thermometer
          thermometerNetwork).toList ++ []) found.1.name found.1 "temperature")) =
      some (some .number, some (.finite false 1 (-1)), none, some "-2150 ") := by
    decide +kernel
  obtain ⟨⟨group, channel⟩, hfound, hstate⟩ := Option.map_eq_some_iff.mp hstate
  simp only [Prod.mk.injEq] at hstate
  obtain ⟨htype, hfactor, hdecoding, hlast⟩ := hstate
  exact ⟨group, channel, hfound, ⟨htype, hfactor, hdecoding⟩, hlast⟩

theorem scaling_tenths :
    ((thermometer.reading "temperature" .number).run thermometerNetwork).1.2 =
      some (.number (.finite true 2150 (-1))) ∧
    (∃ number, Decimal.read (Channel.scaledText (some (.finite false 1 (-1)))
        "+1234567890123456789012345678.5") = some number ∧
      IsReadOf "+1234567890123456789012345678.5" (.finite false 1 (-1)) number) ∧
    Channel.scaledText (some (.finite false 1 (-1))) " n/a " = " n/a " ∧
    Channel.scaledText (some (.finite false 1 (-1))) " sNaN " = " sNaN " := by
  obtain ⟨-, hproducts, -, -⟩ := scaling_is_decimal_product false 1 (-1) "-2150 "
  obtain ⟨-, hproducts', -, -⟩ :=
    scaling_is_decimal_product false 1 (-1) "+1234567890123456789012345678.5"
  obtain ⟨-, -, hunread, -⟩ := scaling_is_decimal_product false 1 (-1) " n/a "
  obtain ⟨-, -, -, hfaulty⟩ := scaling_is_decimal_product false 1 (-1) " sNaN "
  refine ⟨?_, ?_, hunread (by decide +kernel), hfaulty (.nan false true 0) .undefined (by decide +kernel)
    rfl⟩
  · have hread : Decimal.read "-2150 " = some (.finite true 2150 0) := by decide +kernel
    obtain ⟨negative, coefficient, hscaled, -, hshown⟩ := (hproducts true 2150 0 _ _ hread rfl rfl).1
      (by decide +kernel) (by decide +kernel) (by decide +kernel)
    have hscaled' : Decimal.read (Channel.scaledText (some (.finite false 1 (-1))) "-2150 ") =
        some (.finite true 2150 (-1)) := by
      decide +kernel
    rw [hscaled'] at hscaled
    rw [← Option.some.inj hscaled] at hshown
    obtain ⟨group, channel, hfound, hchannel, hlast⟩ := temperature_thermometer
    exact hshown.device _ _ _ _ _ _ _ build_thermometer .start "temperature" thermometerNetwork group
      channel hfound hchannel hlast
  · have hread : Decimal.read "+1234567890123456789012345678.5" =
        some (.finite false 12345678901234567890123456785 (-1)) := by
      decide +kernel
    obtain ⟨z, hz, hnumber⟩ := (hproducts' _ _ _ _ _ hread rfl rfl).2 (by decide +kernel)
    have hz' : Decimal.IsRounding Decimal.precision
        (Decimal.magnitude (12345678901234567890123456785 * 1) (-1 + -1)) z := by
      rw [← Decimal.magnitude_mul]
      exact hz
    have hleading : Decimal.adjusted (12345678901234567890123456785 * 1) (-1 + -1) = 26 := by
      decide +kernel
    obtain ⟨hlow, hhigh⟩ := hz'.bounds (by decide) (by decide)
    rw [hleading] at hlow hhigh
    rw [abs_of_pos (hz'.pos (by decide))] at hnumber
    obtain ⟨number, hscaled, -, hshown⟩ := hnumber ((Decimal.zpow_ten_le (by decide)).trans hlow)
      (hhigh.trans_lt ((zpow_lt_zpow_iff_right₀ (by norm_num)).mpr (by decide)))
    exact ⟨number, hscaled, hshown⟩

end Telemetry
