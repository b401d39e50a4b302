import Telemetry.Document.Printer
import Telemetry.Keyed
import Telemetry.Text.Order

namespace Telemetry

/-- The types that schemas tell apart. Truth values are neither numbers nor whole numbers. -/
inductive DocumentType where
  | object
  | array
  | string
  | number
  | integer
deriving DecidableEq, Repr

def DocumentType.name : DocumentType → String
  | object => "object"
  | array => "array"
  | string => "string"
  | number => "number"
  | integer => "integer"

namespace Document

/-- Is the document of the type? Numbers without a fraction are whole numbers. -/
def isOfType : Document → DocumentType → Bool
  | mapping _, .object => true
  | list _, .array => true
  | scalar (.text _), .string => true
  | scalar (.integer _), .number => true
  | scalar (.real _), .number => true
  | scalar (.integer _), .integer => true
  | scalar (.real x), .integer => x.isWhole
  | _, _ => false

def text? : Document → Option String
  | scalar (.text text) => some text
  | _ => none

def integer? : Document → Option Int
  | scalar (.integer n) => some n
  | scalar (.real x) => if x.isWhole then x.truncate? else none
  | _ => none

def entries : Document → List (Scalar × Document)
  | mapping entries => entries
  | _ => []

def items : Document → List Document
  | list items => items
  | _ => []

/-- The value of a key that is a text. -/
def entry? (document : Document) (key : String) : Option Document :=
  document.entries.lookup (.text key)

end Document

/-- How a document breaks a rule. -/
inductive Breach where
  | wrongType (document : Document) (types : List DocumentType)
  | tooSmall (document : Document) (least : Int)
  | empty (text : String)
  | noMatch (text pattern : String)
  | missing (key : String)
  | unexpected (keys : List Scalar)
  | noAlternative (document : Document)
deriving Repr

namespace Breach

/-- The keys that were not expected, in the order of their texts. -/
def unexpectedText (keys : List Scalar) : String :=
  let sorted := keys.mergeSort fun a b => decide (a.toText ≤ b.toText)
  ", ".intercalate (sorted.map Scalar.inner) ++ (if keys.length = 1 then " was" else " were") ++
    " unexpected"

def message : Breach → String
  | wrongType document types => document.inner ++ " is not of type " ++
      ", ".intercalate (types.map fun type => Text.quoted type.name)
  | tooSmall document least => document.inner ++ " is less than the minimum of " ++ toString least
  | empty text => Text.quoted text ++ " should be non-empty"
  | noMatch text pattern => Text.quoted text ++ " does not match " ++ Text.quoted pattern
  | missing key => Text.quoted key ++ " is a required property"
  | unexpected keys => "Additional properties are not allowed (" ++ unexpectedText keys ++ ")"
  | noAlternative document => document.inner ++ " is not valid under any of the given schemas"

/-- Can the message be written? -/
def isWritable : Breach → Bool
  | wrongType document _ | tooSmall document _ | noAlternative document => document.isWritable
  | unexpected keys => keys.all Scalar.isWritable
  | empty _ | noMatch _ _ | missing _ => true

end Breach

/-- A step into a document. -/
inductive Violation.Step where
  | key (key : Scalar)
  | item (index : Nat)
deriving Repr

namespace Violation.Step

def toText : Step → String
  | key name => name.toText
  | item index => toString index

/-- Can the step be written? Places in lists always can. -/
def isWritable : Step → Bool
  | key name => name.isWritable
  | item _ => true

end Violation.Step

/-- A broken rule and the way to it from the root. -/
structure Violation where
  path : List Violation.Step
  breach : Breach
deriving Repr

namespace Violation

/-- A violation at a place below another one. -/
def below (step : Step) (violation : Violation) : Violation :=
  { violation with path := step :: violation.path }

/-- A violation in the value of a key. A key that is null has no part in the way. -/
def belowKey (key : Scalar) (violation : Violation) : Violation :=
  match key with
  | .null => violation
  | key => violation.below (.key key)

def message (origin : String) (violation : Violation) : String :=
  let path := ".".intercalate (violation.path.map Step.toText)
  "Schema validation failed for " ++ origin ++ (if path = "" then "" else " (" ++ path ++ ")") ++ ": " ++
    violation.breach.message

def isWritable (violation : Violation) : Bool :=
  violation.path.all Step.isWritable && violation.breach.isWritable

end Violation

/-- Why a document is turned down. -/
inductive Rejection where
  | invalid (violation : Violation)
  /-- Something would have to be written that cannot be. -/
  | unwritable
deriving Repr

namespace Rejection

/-- A violation as far as it can be told. -/
def ofViolation (violation : Violation) : Rejection :=
  if violation.isWritable then .invalid violation else .unwritable

/-- Can the rejection be told? -/
def isTold : Rejection → Bool
  | invalid _ => true
  | unwritable => false

def message (origin : String) : Rejection → String
  | invalid violation => violation.message origin
  | unwritable => ""

end Rejection

/-- A rule finds the first violation in a document. -/
abbrev Schema := Document → Option Violation

namespace Schema

def all (rules : List Schema) : Schema := fun document =>
  rules.findSome? (· document)

/-- A breach at the document itself, unless a condition holds. -/
def expect (holds : Bool) (breach : Breach) : Option Violation :=
  if holds then none else some ⟨[], breach⟩

def ofType (types : List DocumentType) : Schema := fun document =>
  expect (types.any document.isOfType) (.wrongType document types)

def atLeast (least : Int) : Schema := fun document =>
  match document with
  | .scalar (.integer n) => expect (decide (least ≤ n)) (.tooSmall document least)
  | .scalar (.real x) => expect (!x.isBelow least) (.tooSmall document least)
  | _ => none

def nonempty : Schema := fun document =>
  match document with
  | .scalar (.text text) => expect (text ≠ "") (.empty text)
  | _ => none

/-- A text satisfies a test that is known under the text of a pattern. -/
def matching (test : String → Bool) (pattern : String) : Schema := fun document =>
  match document with
  | .scalar (.text text) => expect (test text) (.noMatch text pattern)
  | _ => none

def requires (key : String) : Schema := fun document =>
  match document with
  | .mapping _ => expect (document.entry? key).isSome (.missing key)
  | _ => none

/-- The values of the given keys follow their schemas, as far as the keys are there. -/
def values (schemas : List (String × Schema)) : Schema := fun document =>
  schemas.findSome? fun (key, schema) =>
    (document.entry? key).bind fun value => (schema value).map (·.below (.key (.text key)))

/-- The entries of a mapping whose keys are not among the given ones. -/
def others (known : List String) (document : Document) : List (Scalar × Document) :=
  document.entries.filter fun entry => !known.any fun name => Scalar.text name == entry.1

/-- A mapping has no keys but the given ones. -/
def noOthers (known : List String) : Schema := fun document =>
  let keys := (others known document).map Prod.fst
  expect keys.isEmpty (.unexpected keys)

/-- The values of all keys but the given ones follow a schema. -/
def otherValues (known : List String) (schema : Schema) : Schema := fun document =>
  (others known document).findSome? fun (key, value) => (schema value).map (·.belowKey key)

/-- The keys of a mapping follow a schema. -/
def keys (schema : Schema) : Schema := fun document =>
  document.entries.findSome? fun (key, _) => schema (.scalar key)

/-- The items of a list follow a schema; `index` is the place of the first one. -/
def itemsFrom (schema : Schema) : (index : Nat) → List Document → Option Violation
  | _, [] => none
  | index, item :: items =>
    match schema item with
    | some violation => some (violation.below (.item index))
    | none => itemsFrom schema (index + 1) items

def eachItem (schema : Schema) : Schema := fun document =>
  itemsFrom schema 0 document.items

def anyOf (schemas : List Schema) : Schema := fun document =>
  expect (schemas.any fun schema => (schema document).isNone) (.noAlternative document)

end Schema

end Telemetry
