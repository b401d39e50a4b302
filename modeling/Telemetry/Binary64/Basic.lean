namespace Telemetry

/-- A floating-point number. A finite one is `± mantissa · 2 ^ exponent`; its mantissa has 53 bits,
or fewer at the least exponent. -/
inductive Binary64 where
  | finite (negative : Bool) (mantissa : Nat) (exponent : Int)
  | infinite (negative : Bool)
  | nan
deriving DecidableEq, Repr

namespace Binary64

def minExponent : Int := -1074

def maxExponent : Int := 971

def zero : Binary64 := finite false 0 minExponent

/-- `n · 2 ^ exponent` as a quotient of natural numbers. -/
def scaled (n : Nat) (exponent : Int) : Nat × Nat :=
  if 0 ≤ exponent then (n * Nat.pow 2 exponent.toNat, 1) else (n, Nat.pow 2 (-exponent).toNat)

/-- A quotient to the nearest whole number, a half to the even neighbour. -/
def nearest (num den : Nat) : Nat :=
  let quotient := num / den
  let double := 2 * (num % den)
  if den < double ∨ (double = den ∧ quotient % 2 = 1) then quotient + 1 else quotient

/-- `num / (den · 2 ^ exponent)` as a quotient of natural numbers. -/
def unscaled (num den : Nat) (exponent : Int) : Nat × Nat :=
  if 0 ≤ exponent then (num, den * Nat.pow 2 exponent.toNat)
  else (num * Nat.pow 2 (-exponent).toNat, den)

/-- The exponent of the last bit of the number nearest to a positive quotient, rounding apart. -/
def lastExponent (num den : Nat) : Int :=
  let guess : Int := (num.log2 : Int) - den.log2 - 52
  let (n, d) := unscaled num den guess
  max minExponent (if n < d * Nat.pow 2 52 then guess - 1 else guess)

/-- The number nearest to a quotient; infinite beyond the largest number. -/
def ofRatio (negative : Bool) (num den : Nat) : Binary64 :=
  if num = 0 then finite negative 0 minExponent
  else
    let exponent := lastExponent num den
    let (n, d) := unscaled num den exponent
    let mantissa := nearest n d
    let (mantissa, exponent) :=
      if mantissa = Nat.pow 2 53 then (Nat.pow 2 52, exponent + 1) else (mantissa, exponent)
    if maxExponent < exponent then infinite negative else finite negative mantissa exponent

def isFinite : Binary64 → Bool
  | finite .. => true
  | _ => false

/-- The number nearest to a whole number; none where that is beyond the largest number. -/
def ofInt? (n : Int) : Option Binary64 :=
  let x := ofRatio (n < 0) n.natAbs 1
  if x.isFinite then some x else none

def thousand : Binary64 := ofRatio false 1000 1

def neg : Binary64 → Binary64
  | finite negative mantissa exponent => finite (!negative) mantissa exponent
  | infinite negative => infinite (!negative)
  | nan => nan

def mul : Binary64 → Binary64 → Binary64
  | nan, _ => nan
  | _, nan => nan
  | infinite a, infinite b => infinite (a != b)
  | infinite a, finite b m _ => if m = 0 then nan else infinite (a != b)
  | finite a m _, infinite b => if m = 0 then nan else infinite (a != b)
  | finite a m p, finite b n q =>
    let (num, den) := scaled (m * n) (p + q)
    ofRatio (a != b) num den

def div : Binary64 → Binary64 → Binary64
  | nan, _ => nan
  | _, nan => nan
  | infinite _, infinite _ => nan
  | infinite a, finite b _ _ => infinite (a != b)
  | finite a _ _, infinite b => finite (a != b) 0 minExponent
  | finite a m p, finite b n q =>
    if n = 0 then if m = 0 then nan else infinite (a != b)
    else
      let (num, den) := scaled m (p - q)
      ofRatio (a != b) num (den * n)

/-- `± n` as a whole number. -/
def signed (negative : Bool) (n : Nat) : Int :=
  if negative then -n else n

/-- The sum of two numbers. An exact zero is negative only if both terms are. -/
def add : Binary64 → Binary64 → Binary64
  | nan, _ => nan
  | _, nan => nan
  | infinite a, infinite b => if a = b then infinite a else nan
  | infinite a, finite .. => infinite a
  | finite .., infinite b => infinite b
  | finite a m p, finite b n q =>
    let low := min p q
    let total := signed a (m * Nat.pow 2 (p - low).toNat) +
      signed b (n * Nat.pow 2 (q - low).toNat)
    let (num, den) := scaled total.natAbs low
    ofRatio (if total = 0 then a && b else total < 0) num den

/-- The whole part of a finite number, towards zero. -/
def truncate? : Binary64 → Option Int
  | finite negative mantissa exponent =>
    let (num, den) := scaled mantissa exponent
    some (signed negative (num / den))
  | _ => none

def isWhole : Binary64 → Bool
  | finite _ mantissa exponent =>
    let (num, den) := scaled mantissa exponent
    num % den == 0
  | _ => false

/-- Is a finite number below a whole one? Infinite numbers compare by their sign. -/
def isBelow (x : Binary64) (bound : Int) : Bool :=
  match x with
  | finite negative mantissa exponent =>
    let (num, den) := scaled mantissa exponent
    decide (signed negative num < bound * den)
  | infinite negative => negative
  | nan => false

end Binary64

end Telemetry
