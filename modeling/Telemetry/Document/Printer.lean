import Telemetry.Binary64.Printer
import Telemetry.Document
import Telemetry.Text.Integer
import Telemetry.Text.Quoted

/-!
The text of documents: plain values as they are, or as they stand within lists and mappings. Whole
numbers with more digits than may be written cannot be put into a text; whoever needs the text of a
document asks first whether it can be written.
-/

namespace Telemetry

namespace Scalar

/-- How an octet stands between quotes. -/
def octetChars (quote : Char) (octet : UInt8) : List Char :=
  let c := Char.ofNat octet.toNat
  if c = quote ∨ c = '\\' then ['\\', c]
  else if c = '\n' then ['\\', 'n']
  else if c = '\r' then ['\\', 'r']
  else if c = '\t' then ['\\', 't']
  else if 32 ≤ octet.toNat ∧ octet.toNat < 127 then [c]
  else '\\' :: 'x' :: Text.hexDigits 2 octet.toNat

def quotedOctets (octets : List UInt8) : String :=
  let quote := Text.quoteFor (octets.map fun octet => Char.ofNat octet.toNat)
  String.ofList ('b' :: quote :: octets.flatMap (octetChars quote) ++ [quote])

/-- The parts of a duration of less than a day, the sign in the days. -/
def durationText (micros : Int) : String :=
  let day : Int := Calendar.dayMicros
  let days := Int.fdiv micros day
  let rest := Int.fmod micros day
  let seconds := rest / 1000000
  let micro := rest % 1000000
  let parts := (if days = 0 then [] else ["days=" ++ toString days]) ++
    (if seconds = 0 then [] else ["seconds=" ++ toString seconds]) ++
    (if micro = 0 then [] else ["microseconds=" ++ toString micro])
  "datetime.timedelta(" ++ (if parts.isEmpty then "0" else ", ".intercalate parts) ++ ")"

/-- An offset from universal time. -/
def offsetText (offset : Int) : String :=
  if offset = 0 then "datetime.timezone.utc" else "datetime.timezone(" ++ durationText offset ++ ")"

/-- A moment by its parts; seconds and microseconds of zero are left out at the end. -/
def momentText (moment : Calendar.Moment) : String :=
  let clock := moment.clock
  let numbers := [moment.date.year, moment.date.month, moment.date.day, clock.hour, clock.minute] ++
    (if clock.second = 0 ∧ clock.micro = 0 then [] else [clock.second]) ++
    (if clock.micro = 0 then [] else [clock.micro])
  let parts := numbers.map toString ++
    match moment.offset with
    | some offset => ["tzinfo=" ++ offsetText offset]
    | none => []
  "datetime.datetime(" ++ ", ".intercalate parts ++ ")"

/-- A value as it stands within a list or mapping. -/
def inner : Scalar → String
  | null => "None"
  | truth value => Text.truth value
  | integer value => toString value
  | real value => value.toText
  | text value => Text.quoted value
  | date value => "datetime.date(" ++
      ", ".intercalate ([value.year, value.month, value.day].map toString) ++ ")"
  | moment value => momentText value
  | octets value => quotedOctets value

def toText : Scalar → String
  | text value => value
  | date value => value.toText
  | moment value => value.textWith ' '
  | value => value.inner

/-- Can the value be written? A whole number with too many digits cannot. -/
def isWritable : Scalar → Bool
  | integer value => decide (value.natAbs < Text.digitLimit)
  | _ => true

end Scalar

namespace Document

mutual

/-- A document as it stands within a list or mapping. -/
def inner : Document → String
  | scalar value => value.inner
  | list items => "[" ++ ", ".intercalate (innerAll items) ++ "]"
  | mapping entries => "\x7b" ++ ", ".intercalate (innerEntries entries) ++ "\x7d"
  | pair first second => "(" ++ inner first ++ ", " ++ inner second ++ ")"
  | set members =>
    if members.isEmpty then "set()"
    else "\x7b" ++ ", ".intercalate (members.map Scalar.inner) ++ "\x7d"
  | again isList => if isList then "[...]" else "\x7b...\x7d"

/-- Documents as they stand within a list. -/
def innerAll : List Document → List String
  | [] => []
  | item :: items => inner item :: innerAll items

/-- Entries as they stand within a mapping. -/
def innerEntries : List (Scalar × Document) → List String
  | [] => []
  | (key, value) :: entries => (key.inner ++ ": " ++ inner value) :: innerEntries entries

end

def toText : Document → String
  | scalar value => value.toText
  | document => document.inner

mutual

/-- Can the document be written, with all that is in it? -/
def isWritable : Document → Bool
  | scalar value => value.isWritable
  | list items => areWritable items
  | mapping entries => areWritableEntries entries
  | pair first second => first.isWritable && second.isWritable
  | set members => members.all Scalar.isWritable
  | again _ => true

def areWritable : List Document → Bool
  | [] => true
  | item :: items => item.isWritable && areWritable items

def areWritableEntries : List (Scalar × Document) → Bool
  | [] => true
  | (key, value) :: entries => key.isWritable && value.isWritable && areWritableEntries entries

end

end Document

end Telemetry
