import Telemetry.CodeTable
import Telemetry.Decimal.Product
import Telemetry.Keyed
import Telemetry.Reading

namespace Telemetry

/-- The code tables of a device by name. -/
abbrev CodeTables := Keyed String CodeTable

/-- The decoding of a channel: a code table by name, the relation of the codes, and the relation of
what they stand for. -/
structure Decoding where
  table : String
  source : String
  target : String
deriving DecidableEq, Repr

/-- The declared type of a channel where a profile gives none. -/
def Channel.defaultType : String := "String"

structure Channel where
  name : String
  /-- The text from the device. -/
  raw : Option String := none
  /-- The text times the factor. -/
  scaled : Option String := none
  /-- The scaled text decoded. -/
  decoded : Option String := none
  factor : Option Decimal := none
  /-- The declared type. -/
  type : String := Channel.defaultType
  decoding : Option Decoding := none
deriving DecidableEq, Repr

namespace Channel

def isNoFactor (text : String) : Bool :=
  Text.strip text = "" || Text.lower (Text.strip text) = "null"

/-- The factor that a text stands for: a finite number. -/
def readFactor (text : String) : Option Decimal :=
  (Decimal.read text).filter (·.isFinite)

/-- Sets or removes the factor. A text that stands for none is reported and changes nothing. -/
def withFactor (channel : Channel) (text : Option String) : Log.Noting Channel := do
  match text with
  | none => pure { channel with factor := none }
  | some text =>
    if isNoFactor text then pure { channel with factor := none }
    else
      match readFactor text with
      | some factor => pure { channel with factor := some factor }
      | none =>
        Log.note ⟨.error, .values, text ++ " can not be parsed to a factor for " ++ channel.name ++ "."⟩
        pure channel

/-- Attaches a decoding. One by another table that is replaced is reported. -/
def withDecoding (channel : Channel) (decoding : Decoding) : Log.Noting Channel := do
  match channel.decoding with
  | some old =>
    if old.table ≠ decoding.table then
      Log.note ⟨.info, .values, "Transformer " ++ old.table ++ " for value " ++ channel.name ++
        " was overwritten by " ++ decoding.table⟩
  | none => pure ()
  pure { channel with decoding := some decoding }

/-- A text times a factor, if the text is a number and the product has a value. -/
def times? (text : String) (factor : Decimal) : Option Decimal :=
  (Decimal.read text).bind fun number => (number.product factor).toOption

/-- The text times the channel's factor. A text that is no number stays as it is. -/
def scale (channel : Channel) (text : String) : Log.Noting String := do
  match channel.factor with
  | none => pure text
  | some factor =>
    match times? text factor with
    | some product => pure product.toText
    | none =>
      Log.note ⟨.error, .values, "Value " ++ Text.quoted text ++ " of " ++ channel.name ++
        " is not numeric, factor " ++ factor.toText ++ " not applied"⟩
      pure text

/-- Decodes a scaled text. Without a decoding it stays as it is. -/
def decode (channel : Channel) (tables : CodeTables) (scaled : String) :
    Online (CodeTables × Option String) := do
  match channel.decoding with
  | none => pure (tables, some scaled)
  | some decoding =>
    match tables.lookup decoding.table with
    | none => pure (tables, none)
    | some table =>
      let (table, output) ← table.resolve scaled decoding.source decoding.target
      pure (tables.put decoding.table table, output)

/-- Takes a text from the device in. Where there is none, nothing changes. -/
def update (channel : Channel) (tables : CodeTables) (raw : Option String) :
    Online (CodeTables × Channel) := do
  match raw with
  | none => pure (tables, channel)
  | some raw =>
    let scaled ← channel.scale raw
    let (tables, decoded) ← channel.decode tables scaled
    pure (tables, { channel with raw := some raw, scaled := some scaled, decoded })

/-- The declared type of what the decoding gives. -/
def outputType (channel : Channel) (tables : CodeTables) : Option String := do
  let decoding ← channel.decoding
  let table ← tables.lookup decoding.table
  table.relationType decoding.target

/-- Which text of a channel serves for a kind, and as what kind: the decoded one if its declared
type is of that kind, the scaled one if the channel's is, else the scaled one as text. -/
def choose (channel : Channel) (tables : CodeTables) (kind : Kind) : Kind × Option String :=
  if (channel.outputType tables).bind Kind.ofTag? = some kind ∧ channel.decoded.isSome then
    (kind, channel.decoded)
  else if Kind.ofTag? channel.type = some kind then (kind, channel.scaled.or channel.raw)
  else (.text, channel.scaled)

/-- The value of a channel, as the wanted kind where its type allows. -/
def reading (channel : Channel) (tables : CodeTables) (kind : Kind) :
    Log.Noting (Option Reading) :=
  let (kind, text) := channel.choose tables kind
  Reading.create kind text channel.name

end Channel

end Telemetry
