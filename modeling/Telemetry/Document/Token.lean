import Telemetry.Document.Cursor
import Telemetry.Text.Digit

namespace Telemetry.Document

/-- The name of a type as it is written: a handle that stands for a beginning, and the rest. -/
structure WrittenTag where
  handle : Option String
  suffix : String
deriving DecidableEq, Repr

inductive Token where
  | version (major : Nat)
  | handle (name text : String)
  | otherDirective
  | documentStart
  | documentEnd
  | streamEnd
  | blockList
  | blockMapping
  | blockEnd
  | flowList
  | flowListEnd
  | flowMapping
  | flowMappingEnd
  | blockEntry
  | flowEntry
  | key
  | value
  | alias (name : String)
  | anchor (name : String)
  | tag (tag : WrittenTag)
  | text (text : String) (plain : Bool)
deriving DecidableEq, Repr

/-- May the character stand in the name of an anchor, a handle or a directive? -/
def isNameChar (c : Char) : Bool :=
  ('0' ≤ c && c ≤ '9') || ('A' ≤ c && c ≤ 'Z') || ('a' ≤ c && c ≤ 'z') || c == '-' || c == '_'

/-- The number that exactly so many hexadecimal digits stand for. -/
def hexNumber? : (count total : Nat) → List Char → Option Nat
  | 0, total, _ => some total
  | count + 1, total, c :: rest =>
    (Text.hexValue? c).bind fun value => hexNumber? count (total * 16 + value) rest
  | _ + 1, _, [] => none

end Telemetry.Document
