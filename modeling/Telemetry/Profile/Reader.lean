import Telemetry.Document.Schema
import Telemetry.Profile

namespace Telemetry.Profile

/-- A text that is not empty. -/
def someText : Schema := .all [.ofType [.string], .nonempty]

/-- The properties that a profile may have, as far as more is asked of them than to be a text or a
number. -/
def knownProperties : List (String × Schema) := [
  ("properties.name", someText), ("name", someText), ("properties.maturity", .ofType [.string]),
  ("test.url", someText)]

def schema : Schema := .all [
  .ofType [.object], .anyOf [.requires "properties.name", .requires "name"], .keys someText,
  .otherValues (knownProperties.map Prod.fst) (.ofType [.string, .number]), .values knownProperties]

/-- The properties in a document: the texts of keys and values, the latter without the blanks around
them. -/
def propertiesOf (document : Document) : Properties :=
  Keyed.ofList (document.entries.map fun (key, value) => (key.toText, Text.strip value.toText))

/-- The profile that a document describes, if its properties can be written. -/
def ofDocument (document : Document) (origin : String) : Except Rejection Profile :=
  match schema document with
  | some violation => .error (.ofViolation violation)
  | none =>
    if document.isWritable then
      let properties := propertiesOf document
      .ok ⟨properties.name?.getD "", origin, properties⟩
    else .error .unwritable

end Telemetry.Profile
