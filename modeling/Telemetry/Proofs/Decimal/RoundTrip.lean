import Telemetry.Decimal.Printer
import Telemetry.Decimal.Reader
import Telemetry.Proofs.Text.Blank

namespace Telemetry

namespace Text

theorem digit?_of_isDigit {c : Char} (hc : c.isDigit = true) : digit? c = some (c.toNat - 48) := by
  obtain ⟨hlow, hhigh⟩ := Char.isDigit_iff_toNat.mp hc
  have hlow' : 48 ≤ c.toNat := hlow
  have hhigh' : c.toNat ≤ 57 := hhigh
  rw [digit?, if_pos (by omega), if_pos ⟨hlow', hhigh'⟩]

theorem ofDigits_map (cs : List Char) :
    ofDigits (cs.map fun c => c.toNat - 48) = Nat.ofDigitChars 10 cs 0 := by
  rw [ofDigits, List.foldl_map, Nat.ofDigitChars]
  congr 1
  funext total c
  rw [Nat.mul_comm]
  rfl

theorem isDigit_of_mem_decimalDigits {n : Nat} {c : Char} (hc : c ∈ decimalDigits n) :
    c.isDigit = true :=
  Nat.isDigit_of_mem_toDigits (by decide) (by decide) hc

theorem ofDigitChars_decimalDigits (n : Nat) : Nat.ofDigitChars 10 (decimalDigits n) 0 = n :=
  Nat.ofDigitChars_toDigits (by decide) (by decide)

theorem decimalDigits_ne_nil (n : Nat) : decimalDigits n ≠ [] :=
  Nat.toDigits_ne_nil

end Text

namespace Decimal

section Reading

variable {digits rest tail : List Char}

theorem takeDigits_append (hdigits : ∀ c ∈ digits, c.isDigit = true)
    (hrest : ∀ c ∈ rest.head?, Text.digit? c = none) :
    takeDigits (digits ++ rest) = (digits.map fun c => c.toNat - 48, rest) := by
  induction digits with
  | nil =>
      cases rest with
      | nil => rfl
      | cons c rest => rw [List.nil_append, takeDigits, hrest c rfl]; rfl
  | cons c digits ih =>
      rw [List.cons_append, takeDigits, Text.digit?_of_isDigit (hdigits c List.mem_cons_self),
        ih fun d hd => hdigits d (List.mem_cons_of_mem c hd)]
      rfl

theorem takeDigits_eq (hdigits : ∀ c ∈ digits, c.isDigit = true) :
    takeDigits digits = (digits.map fun c => c.toNat - 48, []) := by
  have hnone : ∀ c ∈ ([] : List Char).head?, Text.digit? c = none := by simp
  have htaken := takeDigits_append hdigits hnone
  rwa [List.append_nil] at htaken

theorem readScaled_digits (hdigits : ∀ c ∈ digits, c.isDigit = true) (hne : digits ≠ [])
    (htail : ∀ c ∈ tail.head?, Text.digit? c = none ∧ c ≠ '.') {power : Int}
    (hpower : readExponent tail = some power) :
    readScaled (digits ++ tail) = some (Nat.ofDigitChars 10 digits 0, power) := by
  have htake := takeDigits_append hdigits fun c hc => (htail c hc).1
  have hempty : (digits.map fun c => c.toNat - 48).isEmpty = false := by
    rw [List.isEmpty_eq_false_iff, Ne, List.map_eq_nil_iff]
    exact hne
  simp only [readScaled, htake, hempty, Bool.false_and, Bool.false_eq_true, if_false]
  split
  · exact absurd rfl (htail '.' rfl).2
  · rw [hpower, Option.map_some, List.append_nil, Text.ofDigits_map, List.length_nil]
    simp

theorem readScaled_point {places : List Char} (hdigits : ∀ c ∈ digits, c.isDigit = true)
    (hne : digits ≠ []) (hplaces : ∀ c ∈ places, c.isDigit = true)
    (htail : ∀ c ∈ tail.head?, Text.digit? c = none) {power : Int}
    (hpower : readExponent tail = some power) :
    readScaled (digits ++ '.' :: (places ++ tail)) =
      some (Nat.ofDigitChars 10 (digits ++ places) 0, power - places.length) := by
  have hpoint : ∀ c ∈ ('.' :: (places ++ tail)).head?, Text.digit? c = none := by
    intro c hc
    obtain rfl := Option.some.inj hc
    decide
  have hempty : (digits.map fun c => c.toNat - 48).isEmpty = false := by
    rw [List.isEmpty_eq_false_iff, Ne, List.map_eq_nil_iff]
    exact hne
  simp only [readScaled, takeDigits_append hdigits hpoint, takeDigits_append hplaces htail, hempty,
    hpower, Bool.false_and, Bool.false_eq_true, if_false, Option.map_some, ← List.map_append,
    Text.ofDigits_map, List.length_map]

theorem readScaled_pointed (hdigits : ∀ c ∈ digits, c.isDigit = true) (hne : digits ≠ [])
    (place : Int) (htail : ∀ c ∈ tail.head?, Text.digit? c = none ∧ c ≠ '.') {power : Int}
    (hpower : readExponent tail = some power) :
    readScaled (pointed digits place ++ tail) =
      some (Nat.ofDigitChars 10 digits 0, power - max 0 (digits.length - place)) := by
  have htail' := fun c hc => (htail c hc).1
  unfold pointed
  split
  · rename_i hplace
    have hzeros : ∀ c ∈ List.replicate (-place).toNat '0' ++ digits, c.isDigit = true := by
      intro c hc
      rcases List.mem_append.mp hc with hc | hc
      · rw [List.eq_of_mem_replicate hc]
        rfl
      · exact hdigits c hc
    have hzero : ∀ c ∈ ['0'], c.isDigit = true := List.forall_mem_singleton.mpr rfl
    have hread := readScaled_point hzero (List.cons_ne_nil _ _) hzeros htail' hpower
    have hcoefficient : Nat.ofDigitChars 10 (['0'] ++ (List.replicate (-place).toNat '0' ++ digits)) 0 =
        Nat.ofDigitChars 10 digits 0 := by
      rw [Nat.ofDigitChars_append, Nat.ofDigitChars_append, Nat.ofDigitChars_replicate_zero]
      rfl
    rw [hcoefficient] at hread
    refine hread.trans ?_
    rw [List.length_append, List.length_replicate]
    congr 2
    omega
  · rename_i hplace
    split
    · rename_i hlength
      rw [readScaled_digits hdigits hne htail hpower]
      congr 2
      omega
    · rename_i hlength
      have hfirst : ∀ c ∈ digits.take place.toNat, c.isDigit = true := fun c hc =>
        hdigits c (List.mem_of_mem_take hc)
      have hlast : ∀ c ∈ digits.drop place.toNat, c.isDigit = true := fun c hc =>
        hdigits c (List.mem_of_mem_drop hc)
      have hfirst' : digits.take place.toNat ≠ [] := by
        rw [Ne, List.take_eq_nil_iff]
        rintro (hzero | hnil)
        · omega
        · exact hne hnil
      rw [List.append_assoc, List.cons_append, readScaled_point hfirst hfirst' hlast htail' hpower,
        List.take_append_drop, List.length_drop]
      congr 2
      omega

theorem allDigits?_decimalDigits (n : Nat) : ∃ first others,
    allDigits? (Text.decimalDigits n) = some (first :: others) ∧
      Text.ofDigits (first :: others) = n := by
  have htaken := takeDigits_eq fun c hc => Text.isDigit_of_mem_decimalDigits (n := n) hc
  have hvalue := Text.ofDigits_map (Text.decimalDigits n)
  rw [Text.ofDigitChars_decimalDigits] at hvalue
  obtain ⟨c, cs, hcs⟩ := List.exists_cons_of_ne_nil (Text.decimalDigits_ne_nil n)
  rw [hcs, List.map_cons] at htaken hvalue
  exact ⟨_, _, by rw [hcs, allDigits?, htaken], hvalue⟩

theorem readExponent_exponentText (power : Int) : readExponent (exponentText power) = some power := by
  obtain ⟨first, others, hdigits, hvalue⟩ := allDigits?_decimalDigits power.natAbs
  have hletter : folded 'E' = 'e' := by decide
  unfold exponentText
  split
  · simp only [readExponent, hletter, if_true, Text.takeSign, hdigits, hvalue]
    congr 1
    omega
  · simp only [readExponent, hletter, if_true, Text.takeSign, hdigits, hvalue, Bool.false_eq_true,
      if_false]
    congr 1
    omega

theorem readScaled_magnitudeText (coefficient : Nat) (exponent : Int) :
    readScaled (magnitudeText coefficient exponent) = some (coefficient, exponent) := by
  have hdigits : ∀ c ∈ Text.decimalDigits coefficient, c.isDigit = true := fun c hc =>
    Text.isDigit_of_mem_decimalDigits hc
  have hne := Text.decimalDigits_ne_nil coefficient
  have hpositive := List.length_pos_of_ne_nil hne
  have hcoefficient := Text.ofDigitChars_decimalDigits coefficient
  have hnone : ∀ c ∈ ([] : List Char).head?, Text.digit? c = none ∧ c ≠ '.' := by simp
  unfold magnitudeText
  generalize Text.decimalDigits coefficient = digits at *
  dsimp only
  split
  · have hread := readScaled_pointed hdigits hne (exponent + digits.length) hnone rfl
    rw [List.append_nil] at hread
    rw [hread, hcoefficient]
    congr 2
    omega
  · split
    · have hread := readScaled_pointed hdigits hne 1 hnone rfl
      rw [hread, hcoefficient]
      congr 2
      omega
    · have hletter : ∀ c ∈ (exponentText (exponent + digits.length - 1)).head?,
          Text.digit? c = none ∧ c ≠ '.' := by
        intro c hc
        obtain rfl : c = 'E' := by
          unfold exponentText at hc
          split at hc <;> exact (Option.some.inj hc).symm
        decide
      rw [readScaled_pointed hdigits hne 1 hletter (readExponent_exponentText _), hcoefficient]
      congr 2
      omega

end Reading

section Characters

/-- Is the character one of those that finite numbers are written with? -/
def IsNumeral (c : Char) : Prop :=
  c.isDigit = true ∨ c ∈ ['-', '+', '.', 'E']

theorem IsNumeral.not_isBlank {c : Char} (hc : IsNumeral c) : Text.isBlank c = false ∧ c ≠ '_' := by
  rcases hc with hdigit | hc
  · obtain ⟨hlow, hhigh⟩ := Char.isDigit_iff_toNat.mp hdigit
    have hlow' : 48 ≤ c.toNat := hlow
    have hhigh' : c.toNat ≤ 57 := hhigh
    constructor
    · simp only [Text.isBlank, Bool.or_eq_false_iff, Bool.and_eq_false_iff, decide_eq_false_iff_not,
        beq_eq_false_iff_ne]
      omega
    · rintro rfl
      contradiction
  · simp only [List.mem_cons, List.not_mem_nil, or_false] at hc
    rcases hc with rfl | rfl | rfl | rfl <;> decide

variable {c : Char}

theorem isNumeral_of_mem_decimalDigits {n : Nat} (hc : c ∈ Text.decimalDigits n) : IsNumeral c :=
  .inl (Text.isDigit_of_mem_decimalDigits hc)

theorem isNumeral_of_mem_pointed {digits : List Char} (hdigits : ∀ c ∈ digits, IsNumeral c)
    {place : Int} (hc : c ∈ pointed digits place) : IsNumeral c := by
  have hzero : IsNumeral '0' := .inl rfl
  have hpoint : IsNumeral '.' := .inr (by decide)
  unfold pointed at hc
  split at hc
  · simp only [List.mem_cons, List.mem_append, List.mem_replicate] at hc
    rcases hc with rfl | rfl | ⟨-, rfl⟩ | hc
    exacts [hzero, hpoint, hzero, hdigits c hc]
  · split at hc
    · exact hdigits c hc
    · simp only [List.mem_append, List.mem_cons] at hc
      rcases hc with hc | rfl | hc
      exacts [hdigits c (List.mem_of_mem_take hc), hpoint, hdigits c (List.mem_of_mem_drop hc)]

theorem isNumeral_of_mem_exponentText {power : Int} (hc : c ∈ exponentText power) : IsNumeral c := by
  unfold exponentText at hc
  split at hc
  · simp only [List.mem_cons] at hc
    rcases hc with rfl | rfl | hc
    exacts [.inr (by decide), .inr (by decide), isNumeral_of_mem_decimalDigits hc]
  · simp only [List.mem_cons] at hc
    rcases hc with rfl | rfl | hc
    exacts [.inr (by decide), .inr (by decide), isNumeral_of_mem_decimalDigits hc]

theorem isNumeral_of_mem_magnitudeText {coefficient : Nat} {exponent : Int}
    (hc : c ∈ magnitudeText coefficient exponent) : IsNumeral c := by
  have hdigits : ∀ c ∈ Text.decimalDigits coefficient, IsNumeral c := fun c hc =>
    isNumeral_of_mem_decimalDigits hc
  unfold magnitudeText at hc
  dsimp only at hc
  split at hc
  · exact isNumeral_of_mem_pointed hdigits hc
  · rcases List.mem_append.mp hc with hc | hc
    · exact isNumeral_of_mem_pointed hdigits hc
    · split at hc
      · contradiction
      · exact isNumeral_of_mem_exponentText hc

theorem exists_pointed_eq_cons {digits : List Char} (hdigits : ∀ c ∈ digits, c.isDigit = true)
    (hne : digits ≠ []) (place : Int) :
    ∃ c rest, pointed digits place = c :: rest ∧ c.isDigit = true := by
  obtain ⟨first, others, rfl⟩ := List.exists_cons_of_ne_nil hne
  have hfirst := hdigits first List.mem_cons_self
  unfold pointed
  split
  · exact ⟨'0', _, rfl, rfl⟩
  · split
    · exact ⟨first, others, rfl, hfirst⟩
    · obtain ⟨count, hcount⟩ : ∃ count, place.toNat = count + 1 := ⟨place.toNat - 1, by omega⟩
      rw [hcount, List.take_succ_cons]
      exact ⟨first, _, rfl, hfirst⟩

theorem exists_magnitudeText_eq_cons (coefficient : Nat) (exponent : Int) :
    ∃ c rest, magnitudeText coefficient exponent = c :: rest ∧ c.isDigit = true := by
  have hpointed := exists_pointed_eq_cons (fun c hc => Text.isDigit_of_mem_decimalDigits hc)
    (Text.decimalDigits_ne_nil coefficient)
  unfold magnitudeText
  dsimp only
  split
  · exact hpointed _
  · obtain ⟨c, rest, hcons, hc⟩ := hpointed 1
    rw [hcons]
    exact ⟨c, _, rfl, hc⟩

end Characters

theorem folded_of_isDigit {c : Char} (hc : c.isDigit = true) : folded c = c := by
  obtain ⟨-, hhigh⟩ := Char.isDigit_iff_toNat.mp hc
  refine if_neg ?_
  rintro ⟨hlow, -⟩
  have hlow' : 65 ≤ c.toNat := hlow
  have hhigh' : c.toNat ≤ 57 := hhigh
  omega

theorem readUnsigned_of_isDigit {c : Char} (hc : c.isDigit = true) (negative : Bool)
    (rest : List Char) : readUnsigned negative (c :: rest) = readFinite negative (c :: rest) := by
  unfold readUnsigned
  rw [List.map_cons, folded_of_isDigit hc]
  split
  all_goals first
    | rfl
    | rename_i hword
      obtain ⟨rfl, -⟩ := List.cons.inj hword
      contradiction

theorem takeSign_of_isDigit {c : Char} (hc : c.isDigit = true) (negative : Bool)
    (rest : List Char) : Text.takeSign (signText negative ++ c :: rest) = (negative, c :: rest) := by
  cases negative with
  | true => rfl
  | false =>
      rw [signText, if_neg Bool.false_ne_true, List.nil_append]
      unfold Text.takeSign
      split
      · rename_i hsign
        obtain ⟨rfl, -⟩ := List.cons.inj hsign
        contradiction
      · rename_i hsign
        obtain ⟨rfl, -⟩ := List.cons.inj hsign
        contradiction
      · rfl

theorem read_toText {negative : Bool} {coefficient : Nat} {exponent : Int}
    (hleading : adjusted coefficient exponent ≤ maxAdjusted) (hlast : minExponent ≤ exponent) :
    read (finite negative coefficient exponent).toText = some (finite negative coefficient exponent) := by
  have hnumeral : ∀ c ∈ (finite negative coefficient exponent).chars, IsNumeral c := by
    intro c hc
    rcases List.mem_append.mp hc with hc | hc
    · cases negative with
      | false => contradiction
      | true =>
          obtain rfl := List.mem_singleton.mp hc
          exact .inr (by decide)
    · exact isNumeral_of_mem_magnitudeText hc
  have hstripped : Text.dropAround Text.isBlank (finite negative coefficient exponent).chars =
      (finite negative coefficient exponent).chars :=
    Text.dropAround_eq_self fun c hc => (hnumeral c hc).not_isBlank.1
  have hfiltered : (finite negative coefficient exponent).chars.filter (· ≠ '_') =
      (finite negative coefficient exponent).chars :=
    List.filter_eq_self.mpr fun c hc => decide_eq_true (hnumeral c hc).not_isBlank.2
  obtain ⟨c, rest, hcons, hc⟩ := exists_magnitudeText_eq_cons coefficient exponent
  have hscaled := readScaled_magnitudeText coefficient exponent
  rw [hcons] at hscaled
  have hfinite : readFinite negative (c :: rest) = some (finite negative coefficient exponent) := by
    rw [readFinite, hscaled, Option.bind_some]
    exact if_pos ⟨hleading, hlast⟩
  rw [read, toText, String.toList_ofList, hstripped, hfiltered, chars, hcons,
    takeSign_of_isDigit hc]
  exact (readUnsigned_of_isDigit hc negative rest).trans hfinite

end Decimal

end Telemetry
