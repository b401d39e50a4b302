import Telemetry.Text.Digit
import Telemetry.Text.NameTable

/-!
Characters by their names. Most names stand in a table; those of Hangul syllables are put together from
the sounds of the syllable, and those of ideographs end in the code.
-/

namespace Telemetry.Text

def initials : List String := [
  "G", "GG", "N", "D", "DD", "R", "M", "B", "BB", "S", "SS", "", "J", "JJ", "C", "K", "T", "P", "H"]

def medials : List String := [
  "A", "AE", "YA", "YAE", "EO", "E", "YEO", "YE", "O", "WA", "WAE", "OE", "YO", "U", "WEO", "WE", "WI",
  "YU", "EU", "YI", "I"]

def finals : List String := [
  "", "G", "GG", "GS", "N", "NJ", "NH", "D", "L", "LG", "LM", "LB", "LS", "LT", "LP", "LH", "M", "B",
  "BS", "S", "SS", "NG", "J", "C", "K", "T", "P", "H"]

/-- The index of the longest sound that a text begins with, and the rest of the text. -/
def takeSound (sounds : List String) (text : List Char) : Option (Nat × List Char) :=
  let fitting := sounds.zipIdx.filter fun (sound, _) => sound.toList.isPrefixOf text
  (fitting.mergeSort fun a b => b.1.length ≤ a.1.length).head?.map fun (sound, index) =>
    (index, text.drop sound.length)

/-- The code of a syllable written as its sounds. -/
def syllable? (text : List Char) : Option Nat := do
  let (first, rest) ← takeSound initials text
  let (middle, rest) ← takeSound medials rest
  let (last, rest) ← takeSound finals rest
  if rest.isEmpty then some (0xAC00 + (first * 21 + middle) * 28 + last) else none

def isIdeograph (code : Nat) : Bool :=
  (0x3400 ≤ code && code ≤ 0x4DBF) || (0x4E00 ≤ code && code ≤ 0x9FFF)
    || (0x20000 ≤ code && code ≤ 0x2A6DF) || (0x2A700 ≤ code && code ≤ 0x2B738)
    || (0x2B740 ≤ code && code ≤ 0x2B81D) || (0x2B820 ≤ code && code ≤ 0x2CEA1)
    || (0x2CEB0 ≤ code && code ≤ 0x2EBE0) || (0x30000 ≤ code && code ≤ 0x3134A)

/-- The code of an ideograph written as four or five digits with capital letters. -/
def ideograph? (digits : List Char) : Option Nat :=
  let code := numeral 16 digits
  if (digits.length = 4 ∨ digits.length = 5) ∧ digits.all (fun c => c.isDigit || 'A' ≤ c && c ≤ 'F') ∧
    isIdeograph code then some code else none

/-- The text behind a beginning, if it has that beginning. -/
def behind? (beginning : String) (text : List Char) : Option (List Char) :=
  if beginning.toList.isPrefixOf text then some (text.drop beginning.length) else none

/-- The code of the character with a name. Only the names in the table may be in small letters. -/
def codeOfName? (name : String) : Option Nat :=
  match behind? "HANGUL SYLLABLE " name.toList, behind? "CJK UNIFIED IDEOGRAPH-" name.toList with
  | some sounds, _ => syllable? sounds
  | none, some digits => ideograph? digits
  | none, none => (nameRuns ++ aliasRuns).findSome? (·.code? (name.toList.map Char.toUpper))

end Telemetry.Text
