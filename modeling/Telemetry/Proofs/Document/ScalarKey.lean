import Telemetry.Document

namespace Telemetry.Scalar

/-- What counts of a value as a key. -/
inductive Form where
  | null
  | notANumber
  | number (rank : Int × Int)
  | text (value : String)
  | date (value : Calendar.Date)
  | instant (micros : Int)
  | localTime (micros : Int)
  | octets (value : List UInt8)
deriving DecidableEq

def momentForm (moment : Calendar.Moment) : Form :=
  match instant? moment with
  | some micros => .instant micros
  | none => .localTime moment.localMicros

def realForm (value : Binary64) : Form :=
  match value.rank? with
  | some rank => .number rank
  | none => .notANumber

def form : Scalar → Form
  | null => .null
  | truth value => .number (wholeRank (if value then 1 else 0))
  | integer value => .number (wholeRank value)
  | real value => realForm value
  | text value => .text value
  | date value => .date value
  | moment value => momentForm value
  | octets value => .octets value

theorem sameKey_real_real (x y : Binary64) :
    sameKey (real x) (real y) = decide (realForm x = realForm y) := by
  cases x <;> cases y <;> simp [sameKey, realForm, rank?, Binary64.rank?]

theorem sameKey_moment_moment (x y : Calendar.Moment) :
    sameKey (moment x) (moment y) = decide (momentForm x = momentForm y) := by
  unfold momentForm
  simp only [sameKey]
  cases instant? x <;> cases instant? y <;> simp

/-- Values of different types have different forms, unless both are numbers. -/
theorem sameKey_eq_decide (a b : Scalar) : sameKey a b = decide (a.form = b.form) := by
  cases a with
  | real x =>
      cases b with
      | real y => exact sameKey_real_real x y
      | _ => grind [sameKey, form, realForm, momentForm, rank?]
  | moment x =>
      cases b with
      | moment y => exact sameKey_moment_moment x y
      | _ => grind [sameKey, form, realForm, momentForm, rank?]
  | _ => cases b <;> grind [sameKey, form, realForm, momentForm, rank?]

theorem beq_iff_form_eq {a b : Scalar} : a == b ↔ a.form = b.form := by
  change sameKey a b = true ↔ a.form = b.form
  rw [sameKey_eq_decide, decide_eq_true_iff]

theorem text_beq_iff {name : String} {key : Scalar} : text name == key ↔ key = text name := by
  rw [beq_iff_form_eq]
  constructor
  · intro hform
    cases key with
    | text other => exact congrArg text (Form.text.inj hform).symm
    | real value =>
        rw [form, form, realForm] at hform
        split at hform <;> contradiction
    | moment value =>
        rw [form, form, momentForm] at hform
        split at hform <;> contradiction
    | _ => contradiction
  · rintro rfl
    rfl

theorem text_beq_text_of_ne {a b : String} (hne : a ≠ b) : (text a == text b) = false := by
  rw [← Bool.not_eq_true, text_beq_iff]
  simpa using hne.symm

instance : EquivBEq Scalar where
  rfl := beq_iff_form_eq.mpr rfl
  symm hsame := beq_iff_form_eq.mpr (beq_iff_form_eq.mp hsame).symm
  trans hsame hsame' :=
    beq_iff_form_eq.mpr ((beq_iff_form_eq.mp hsame).trans (beq_iff_form_eq.mp hsame'))

end Telemetry.Scalar
