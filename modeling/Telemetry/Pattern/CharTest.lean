import Telemetry.Text.Blank
import Telemetry.Text.Case
import Telemetry.Text.Digit
import Telemetry.Text.Word

namespace Telemetry.Pattern

/-- How a pattern treats capital and small letters. -/
inductive Folding where
  | exact
  | ascii
  | unicode
deriving DecidableEq, Repr

/-- The classes of characters that have a letter of their own. -/
inductive Category where
  | digit
  | blank
  | word
deriving DecidableEq, Repr

/-- Does a code point belong to a category? With `ascii` only ASCII characters do. -/
def Category.holds (ascii : Bool) (category : Category) (code : Nat) : Bool :=
  let c := Char.ofNat code
  if ascii then
    match category with
    | digit => 48 ≤ code && code ≤ 57
    | blank => code == 32 || (9 ≤ code && code ≤ 13)
    | word => c.isAlphanum || c == '_'
  else
    match category with
    | digit => Text.isDigit c
    | blank => Text.isBlank c
    | word => Text.isWord c

inductive SetItem where
  | range (low high : Nat)
  | ofCategory (category : Category) (negated ascii : Bool)
deriving DecidableEq, Repr

/-- Does a code point belong to the item as it is? -/
def SetItem.holds (code : Nat) : SetItem → Bool
  | range low high => low ≤ code && code ≤ high
  | ofCategory category negated ascii => category.holds ascii code != negated

set_option maxRecDepth 10000 in
/-- Small letters with the same capital letter as another small letter. -/
def sharedCapitals : List (Nat × List Nat) := [
  (105, [305]), (115, [383]), (181, [956]), (305, [105]), (383, [115]), (837, [953, 8126]), (912,
  [8147]), (944, [8163]), (946, [976]), (949, [1013]), (952, [977]), (953, [837, 8126]), (954,
  [1008]), (956, [181]), (960, [982]), (961, [1009]), (962, [963]), (963, [962]), (966, [981]),
  (976, [946]), (977, [952]), (981, [966]), (982, [960]), (1008, [954]), (1009, [961]), (1013,
  [949]), (1074, [7296]), (1076, [7297]), (1086, [7298]), (1089, [7299]), (1090, [7300, 7301]),
  (1098, [7302]), (1123, [7303]), (7296, [1074]), (7297, [1076]), (7298, [1086]), (7299, [1089]),
  (7300, [1090, 7301]), (7301, [1090, 7300]), (7302, [1098]), (7303, [1123]), (7304, [42571]),
  (7777, [7835]), (7835, [7777]), (8126, [837, 953]), (8147, [912]), (8163, [944]), (42571,
  [7304]), (64261, [64262]), (64262, [64261])]

/-- The lower case of a code point under a folding. -/
def Folding.lower (code : Nat) : Folding → Nat
  | exact => code
  | ascii => if 65 ≤ code ∧ code ≤ 90 then code + 32 else code
  | unicode => Text.lowerCode code

/-- The code points that count as equal to a lower-case one. -/
def Folding.variants (code : Nat) : Folding → List Nat
  | exact => [code]
  | ascii => if 97 ≤ code ∧ code ≤ 122 then [code, code - 32] else [code]
  | unicode => (code :: (sharedCapitals.lookup code).getD []).flatMap Text.upperCodes

/-- Does a code point belong to the item under a folding? A range contains it if it contains one of
its variants. -/
def SetItem.holdsFolded (folding : Folding) (code : Nat) (item : SetItem) : Bool :=
  let low := folding.lower code
  match item with
  | range .. => (folding.variants low).any item.holds
  | ofCategory .. => item.holds low

inductive CharTest where
  | any
  | anyButNewline
  | within (negated : Bool) (folding : Folding) (items : List SetItem)
deriving DecidableEq, Repr

def CharTest.holds (c : Char) : CharTest → Bool
  | any => true
  | anyButNewline => c != '\n'
  | within negated .exact items => items.any (·.holds c.toNat) != negated
  | within negated folding items => items.any (·.holdsFolded folding c.toNat) != negated

/-- The test for one code point. -/
def CharTest.only (folding : Folding) (code : Nat) : CharTest :=
  within false folding [.range code code]

end Telemetry.Pattern
