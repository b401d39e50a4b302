import Telemetry.Binary64.Basic
import Telemetry.Calendar.Moment

namespace Telemetry

inductive Scalar where
  | null
  | truth (value : Bool)
  | integer (value : Int)
  | real (value : Binary64)
  | text (value : String)
  | date (value : Calendar.Date)
  | moment (value : Calendar.Moment)
  | octets (value : List UInt8)
deriving Repr, Inhabited

/-- A document. A pair stands where a list keeps entries in order, and a set has members only. -/
inductive Document where
  | scalar (value : Scalar)
  | list (items : List Document)
  | mapping (entries : List (Scalar × Document))
  | pair (first second : Document)
  | set (members : List Scalar)
  /-- A list or mapping inside itself. -/
  | again (isList : Bool)
deriving Repr, Inhabited

namespace Binary64

/-- A number in units of the least one, so that numbers can be compared as whole ones; the first part
tells infinite numbers from finite ones. -/
def rank? : Binary64 → Option (Int × Int)
  | finite negative mantissa exponent =>
    some (0, signed negative (mantissa * Nat.pow 2 (exponent - minExponent).toNat))
  | infinite negative => some (if negative then -1 else 1, 0)
  | nan => none

end Binary64

namespace Scalar

/-- The units of a whole number. -/
def wholeRank (n : Int) : Int × Int :=
  (0, n * Nat.pow 2 (-Binary64.minExponent).toNat)

/-- A value as a number, by which it is compared: truth values count as one and zero. -/
def rank? : Scalar → Option (Int × Int)
  | truth value => some (wholeRank (if value then 1 else 0))
  | integer value => some (wholeRank value)
  | real value => value.rank?
  | _ => none

/-- The microseconds of a moment in universal time, if its offset is known. -/
def instant? (moment : Calendar.Moment) : Option Int :=
  moment.offset.map (moment.localMicros - ·)

/-- Are two values the same key? -/
def sameKey (a b : Scalar) : Bool :=
  match a, b with
  | null, null => true
  | text x, text y => x = y
  | date x, date y => x = y
  | octets x, octets y => x = y
  | real .nan, real .nan => true
  | moment x, moment y =>
    match instant? x, instant? y with
    | some s, some t => s = t
    | none, none => x.localMicros = y.localMicros
    | _, _ => false
  | a, b =>
    match a.rank?, b.rank? with
    | some x, some y => x = y
    | _, _ => false

instance : BEq Scalar := ⟨sameKey⟩

/-- The families within which values have an order. -/
inductive Family where
  | none
  | numbers
  | texts
  | dates
  | localMoments
  | moments
  | octets
deriving DecidableEq, Repr

def family : Scalar → Family
  | null => .none
  | truth _ | integer _ | real _ => .numbers
  | text _ => .texts
  | date _ => .dates
  | moment value => if value.offset.isSome then .moments else .localMoments
  | octets _ => .octets

/-- Is a row of octets at most another one? The first that differs decides, and a beginning goes before
the whole. -/
def octetsLe : List UInt8 → List UInt8 → Bool
  | [], _ => true
  | _ :: _, [] => false
  | x :: xs, y :: ys => x.toNat < y.toNat || (x.toNat == y.toNat && octetsLe xs ys)

/-- Is a value at most another one of its family? -/
def le (a b : Scalar) : Bool :=
  match a, b with
  | text x, text y => decide (x ≤ y)
  | date x, date y => decide (x.ordinal ≤ y.ordinal)
  | moment x, moment y => decide (x.localMicros - x.offset.getD 0 ≤ y.localMicros - y.offset.getD 0)
  | octets x, octets y => octetsLe x y
  | a, b =>
    match a.rank?, b.rank? with
    | some x, some y => decide (x.1 < y.1 ∨ x.1 = y.1 ∧ x.2 ≤ y.2)
    | _, _ => true

/-- The values in ascending order, if they have one. -/
def sorted? (values : List Scalar) : Option (List Scalar) :=
  match values with
  | [] => some []
  | [value] => some [value]
  | first :: _ =>
    if first.family ≠ .none ∧ values.all fun value => value.family = first.family then
      some (values.mergeSort le)
    else none

end Scalar

end Telemetry
