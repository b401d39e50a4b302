import Telemetry.Document.Schema
import Telemetry.Kind

namespace Telemetry

/-- A server: the host of a device, and the name of the profile if it is not to be found out. -/
structure Server where
  host : String
  profile : Option String := none
deriving DecidableEq, Repr

/-- A binding publishes a channel of a server under a name. -/
structure Binding where
  name : String
  server : String
  channel : String
  kind : Kind := .text
  /-- The least time between two readings in milliseconds. -/
  refresh : Int := 0
deriving DecidableEq, Repr

/-- The servers by id, in the order of the file. -/
abbrev Servers := Keyed Scalar Server

structure Config where
  servers : Servers := []
  bindings : List Binding := []
  /-- The timeout of requests in milliseconds. -/
  timeout : Int
  /-- The time between two rounds of polling in milliseconds. -/
  granularity : Int

namespace Config

/-- The timeout where the file gives none. -/
def defaultTimeout : Int := 5000

/-- The granularity where the file gives none. -/
def defaultGranularity : Int := 10000

/-- May the character stand in the id of a server? -/
def isIdChar (c : Char) : Bool :=
  ('0' ≤ c && c ≤ '9') || ('A' ≤ c && c ≤ 'Z') || ('a' ≤ c && c ≤ 'z') || c == '.' || c == '_' ||
    c == '-'

/-- Is the text an id of a server? A line feed at its end does not count. -/
def isId (text : String) : Bool :=
  let cs := text.toList
  let cs := if cs.getLast? = some '\n' then cs.dropLast else cs
  !cs.isEmpty && cs.all isIdChar

/-- A text that is not empty. -/
def name : Schema := .all [.ofType [.string], .nonempty]

/-- A whole number that is at least the given one. -/
def count (least : Int) : Schema := .all [.ofType [.integer], .atLeast least]

def serverSchema : Schema := .all [
  .ofType [.object], .noOthers ["host", "profile"], .requires "host",
  .values [("host", name), ("profile", name)]]

def bindingSchema : Schema := .all [
  .ofType [.object], .noOthers ["name", "server", "variable", "kind", "refresh"], .requires "server",
  .requires "variable",
  .values [("name", name), ("server", name), ("variable", name), ("kind", name),
    ("refresh", count 0)]]

def serversSchema : Schema := .all [
  .ofType [.object], .keys (.matching isId "^[0-9A-Za-z._-]+$"), .otherValues [] serverSchema]

def schema : Schema := .all [
  .ofType [.object], .noOthers ["timeout", "granularity", "servers", "items"],
  .values [("timeout", count 1), ("granularity", count 1), ("servers", serversSchema),
    ("items", .all [.ofType [.array], .eachItem bindingSchema])]]

inductive Fault where
  | rejected (rejection : Rejection)
  | unknownServer (position : Nat) (server : String)
  | unknownKind (position : Nat) (kind : Kind.Unknown)
deriving Repr

/-- Can the fault be told? -/
def Fault.isTold : Fault → Bool
  | rejected rejection => rejection.isTold
  | _ => true

def Fault.message (origin : String) : Fault → String
  | rejected rejection => rejection.message origin
  | unknownServer position server => "Item #" ++ toString position ++ " in " ++ origin ++
      " references unknown server '" ++ server ++ "'"
  | unknownKind position kind =>
    "Item #" ++ toString position ++ " in " ++ origin ++ ": " ++ kind.message

def serverOf (document : Document) : Server where
  host := ((document.entry? "host").bind (·.text?)).getD ""
  profile := (document.entry? "profile").bind (·.text?)

def serversOf (document : Document) : Servers :=
  let entries := ((document.entry? "servers").map (·.entries)).getD []
  entries.map fun (id, server) => (id, serverOf server)

def kindOf (item : Document) : Except Kind.Unknown Kind :=
  match (item.entry? "kind").bind (·.text?) with
  | some name => Kind.parse name
  | none => .ok .text

/-- The binding that a document at a position of the list describes. -/
def bindingOf (servers : Servers) (position : Nat) (item : Document) : Except Fault Binding :=
  let text := fun key => ((item.entry? key).bind (·.text?)).getD ""
  let server := text "server"
  if !servers.has (.text server) then .error (.unknownServer position server)
  else
    match kindOf item with
    | .error unknown => .error (.unknownKind position unknown)
    | .ok kind => .ok
      { name := ((item.entry? "name").bind (·.text?)).getD (server ++ "." ++ text "variable")
        server, channel := text "variable", kind
        refresh := ((item.entry? "refresh").bind (·.integer?)).getD 0 }

/-- The bindings that documents describe; `position` is that of the first one. -/
def bindingsFrom (servers : Servers) : (position : Nat) → List Document → Except Fault (List Binding)
  | _, [] => .ok []
  | position, item :: items => do
    let binding ← bindingOf servers position item
    let bindings ← bindingsFrom servers (position + 1) items
    pure (binding :: bindings)

def ofDocument (document : Document) : Except Fault Config :=
  match schema document with
  | some violation => .error (.rejected (.ofViolation violation))
  | none => do
    let servers := serversOf document
    let items := ((document.entry? "items").map (·.items)).getD []
    let bindings ← bindingsFrom servers 0 items
    pure {
      servers, bindings
      timeout := ((document.entry? "timeout").bind (·.integer?)).getD defaultTimeout
      granularity := ((document.entry? "granularity").bind (·.integer?)).getD defaultGranularity }

end Config

end Telemetry
