import Telemetry.Keyed
import Telemetry.Template
import Telemetry.Text.Lines

namespace Telemetry

/-- The properties of a profile in the order in which they are written. -/
abbrev Properties := Keyed String String

/-- A profile: its name, where it comes from, and its properties. -/
structure Profile where
  name : String
  origin : String
  properties : Properties
deriving DecidableEq, Repr

/-- A text without the blanks around it and without a double quote at either end. -/
def unquote (text : String) : String :=
  let cs := (Text.strip text).toList
  let cs := if cs.head? = some '"' then cs.drop 1 else cs
  String.ofList (if cs.getLast? = some '"' then cs.dropLast else cs)

namespace Properties

/-- The properties whose keys consist of the given first part and one more, under the latter. -/
def family (properties : Properties) (first : String) : Keyed String String :=
  properties.filterMap fun (key, value) =>
    match Text.fields '.' key with
    | [part, name] => if part = first then some (name, value) else none
    | _ => none

/-- What the placeholders of the profile stand for, for a host. -/
def definitions (properties : Properties) (host : Option String) : Log.Noting Definitions :=
  Template.resolve (properties.family "vars") host

def name? (properties : Properties) : Option String :=
  (properties.lookup "properties.name").or (properties.lookup "name")

end Properties

end Telemetry
