namespace Telemetry.Text

/-- What stands for octets that are no character. -/
def replacement : Char := '\ufffd'

/-- The first octet of a sequence: how many octets follow, its bits of the character, and the range
of the second octet. -/
def leading? (octet : Nat) : Option (Nat × Nat × Nat × Nat) :=
  if octet < 0x80 then some (0, octet, 0x80, 0xBF)
  else if octet < 0xC2 then none
  else if octet < 0xE0 then some (1, octet - 0xC0, 0x80, 0xBF)
  else if octet = 0xE0 then some (2, 0, 0xA0, 0xBF)
  else if octet = 0xED then some (2, 0xD, 0x80, 0x9F)
  else if octet < 0xF0 then some (2, octet - 0xE0, 0x80, 0xBF)
  else if octet = 0xF0 then some (3, 0, 0x90, 0xBF)
  else if octet < 0xF4 then some (3, octet - 0xF0, 0x80, 0xBF)
  else if octet = 0xF4 then some (3, 4, 0x80, 0x8F)
  else none

/-- Decodes octets. `pending` is how many octets the character being read still lacks, `bits` its
bits so far, and `low` and `high` bound the next octet. -/
def decodeFrom (pending bits low high : Nat) : List UInt8 → List (Option Char)
  | [] => if pending = 0 then [] else [none]
  | octet :: octets =>
    let n := octet.toNat
    if pending ≠ 0 ∧ low ≤ n ∧ n ≤ high then
      let bits := bits * 64 + (n - 0x80)
      if pending = 1 then some (Char.ofNat bits) :: decodeFrom 0 0 0x80 0xBF octets
      else decodeFrom (pending - 1) bits 0x80 0xBF octets
    else
      let broken := if pending = 0 then [] else [none]
      broken ++ match leading? n with
        | none => none :: decodeFrom 0 0 0x80 0xBF octets
        | some (0, bits, _, _) => some (Char.ofNat bits) :: decodeFrom 0 0 0x80 0xBF octets
        | some (pending, bits, low, high) => decodeFrom pending bits low high octets

/-- The characters that octets stand for; nothing for each longest beginning of a character that is
not completed. -/
def decodeOctets (octets : List UInt8) : List (Option Char) :=
  decodeFrom 0 0 0x80 0xBF octets

/-- The text that octets stand for, if all of them are UTF-8. -/
def decode? (octets : List UInt8) : Option String :=
  ((decodeOctets octets).mapM id).map String.ofList

/-- The text that octets stand for, with a replacement for what is not UTF-8. -/
def decodeLossy (octets : List UInt8) : String :=
  String.ofList ((decodeOctets octets).map (·.getD replacement))

end Telemetry.Text
