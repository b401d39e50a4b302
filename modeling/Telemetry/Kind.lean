import Telemetry.Text.Blank
import Telemetry.Text.Case

namespace Telemetry

inductive Kind where
  | number
  | text
  | percent
  | switch
  | contact
  | moment
deriving DecidableEq, Repr

namespace Kind

/-- All kinds, in the order in which they are offered. -/
def all : List Kind := [number, text, percent, switch, contact, moment]

def name : Kind → String
  | number => "number"
  | text => "text"
  | percent => "percent"
  | switch => "switch"
  | contact => "contact"
  | moment => "datetime"

/-- The type tags that profiles declare, in lower case. -/
def tags : List (String × Kind) := [
  ("number", number), ("decimal", number), ("string", text), ("text", text),
  ("dimmer", percent), ("percent", percent), ("switch", switch), ("contact", contact),
  ("datetime", moment)]

/-- The kind behind a declared type tag, blanks around it and its case apart. -/
def ofTag? (tag : String) : Option Kind :=
  tags.lookup (Text.lower (Text.strip tag))

/-- The names of the kinds, as offered when a name is not known. -/
def offered : String :=
  ", ".intercalate (all.map name)

/-- A name that stands for no kind. -/
structure Unknown where
  name : String
deriving DecidableEq, Repr

def Unknown.message (unknown : Unknown) : String :=
  "Unknown value kind '" ++ unknown.name ++ "'. Allowed: " ++ offered

/-- The kind that a user names. Every kind's own name is also a type tag, so the tags decide. -/
def parse (name : String) : Except Unknown Kind :=
  match ofTag? name with
  | some kind => .ok kind
  | none => .error ⟨name⟩

end Kind

end Telemetry
