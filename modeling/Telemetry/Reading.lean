import Telemetry.Calendar.Reader
import Telemetry.Decimal.Printer
import Telemetry.Decimal.Reader
import Telemetry.Kind
import Telemetry.Log
import Telemetry.Text.Quoted

namespace Telemetry

inductive Reading where
  | number (value : Decimal)
  | text (value : String)
  | percent (value : Decimal)
  | switch (on : Bool)
  | contact (isOpen : Bool)
  | moment (value : Calendar.Moment)
deriving DecidableEq, Repr

namespace Reading

def kind : Reading → Kind
  | number _ => .number
  | text _ => .text
  | percent _ => .percent
  | switch _ => .switch
  | contact _ => .contact
  | moment _ => .moment

def toText : Reading → String
  | number value => value.toText
  | text value => value
  | percent value => value.toText
  | switch on => if on then "ON" else "OFF"
  | contact isOpen => if isOpen then "OPEN" else "CLOSED"
  | moment value => value.toText

inductive Fault where
  | notNumeric
  | notFinite
  | notPercentage
  | notSwitch
  | notContact
  | notMoment
deriving DecidableEq, Repr

def Fault.message (text : String) : Fault → String
  | notNumeric => "'" ++ text ++ "' is not a number"
  | notFinite => "'" ++ text ++ "' is not a finite number"
  | notPercentage => "'" ++ text ++ "' is not a percentage"
  | notSwitch => "'" ++ text ++ "' is not a switch state"
  | notContact => "'" ++ text ++ "' is not a contact state"
  | notMoment => "<datetime error>"

def readNumber (text : String) : Except Fault Decimal :=
  match Decimal.read text with
  | none => .error .notNumeric
  | some value => if value.isFinite then .ok value else .error .notFinite

/-- A finite number from zero to one hundred. -/
def readPercent (text : String) : Except Fault Decimal := do
  let value ← readNumber text
  if value.isPercentage then .ok value else .error .notPercentage

/-- The words for the two states of a switch, in lower case. -/
def switchWords : List (String × Bool) := [
  ("on", true), ("1", true), ("true", true), ("off", false), ("0", false), ("false", false)]

/-- The words for the two states of a contact, in lower case. -/
def contactWords : List (String × Bool) := [
  ("open", true), ("1", true), ("closed", false), ("0", false)]

/-- Looks a text up in a word list, blanks around it and its case apart. -/
def ofWord? (words : List (String × Bool)) (text : String) : Option Bool :=
  words.lookup (Text.lower (Text.strip text))

def read (kind : Kind) (text : String) : Except Fault Reading :=
  match kind with
  | .number => (readNumber text).map .number
  | .text => .ok (.text text)
  | .percent => (readPercent text).map .percent
  | .switch =>
    match ofWord? switchWords text with
    | some on => .ok (.switch on)
    | none => .error .notSwitch
  | .contact =>
    match ofWord? contactWords text with
    | some isOpen => .ok (.contact isOpen)
    | none => .error .notContact
  | .moment =>
    match Calendar.Moment.read text with
    | some value => .ok (.moment value)
    | none => .error .notMoment

def Fault.entry (kind : Kind) (name text : String) (fault : Fault) : Log.Entry :=
  ⟨.warning, .model, "Was not able to create " ++ kind.name ++ " value for " ++ name ++ " from " ++
    Text.quoted text ++ ": " ++ fault.message text⟩

/-- The value of a kind that a text stands for, if there is a text and it does. A text that does
not is reported under the given name. -/
def create (kind : Kind) (text : Option String) (name : String) : Log.Noting (Option Reading) :=
  match text with
  | none => pure none
  | some text =>
    match read kind text with
    | .ok value => pure (some value)
    | .error fault => do
      Log.note (fault.entry kind name text)
      pure none

end Reading

end Telemetry
