import Telemetry.Log
import Telemetry.Text.Utf8

namespace Telemetry.Http

inductive Charset where
  | utf8
  | latin1
  | ascii
deriving DecidableEq, Repr

/-- The charset of a name, in which case does not count. An unknown name counts as UTF-8. -/
def Charset.ofName (name : String) : Charset :=
  let name := name.toLower.map fun c => if c = '_' then '-' else c
  if name ∈ ["latin-1", "latin1", "iso-8859-1", "iso8859-1", "l1"] then latin1
  else if name ∈ ["ascii", "us-ascii"] then ascii
  else utf8

/-- The text of a page; what cannot be read is replaced. -/
def Charset.decode (charset : Charset) (octets : List UInt8) : String :=
  match charset with
  | utf8 => Text.decodeLossy octets
  | latin1 => String.ofList (octets.map fun octet => Char.ofNat octet.toNat)
  | ascii => String.ofList (octets.map fun octet =>
      if octet.toNat < 0x80 then Char.ofNat octet.toNat else Text.replacement)

inductive Outcome where
  | response (status : Int) (reason : String) (charset : Charset) (body : List UInt8)
  | failure (message : String)
deriving Repr

/-- Why a request brought no page, if it did not: statuses from 400 to 599 are failures. -/
def Outcome.failure? (url : String) : Outcome → Option String
  | response status reason _ _ =>
    let tail := " Error: " ++ reason ++ " for url: " ++ url
    if 400 ≤ status ∧ status < 500 then some (toString status ++ " Client" ++ tail)
    else if 500 ≤ status ∧ status < 600 then some (toString status ++ " Server" ++ tail)
    else none
  | failure message => some message

def Outcome.text? : Outcome → Option String
  | response _ _ charset body => some (charset.decode body)
  | failure _ => none

/-- The page that a request brought. A failure is reported. -/
def page (url : String) (outcome : Outcome) : Log.Noting (Option String) := do
  match outcome.failure? url with
  | some message =>
    Log.note ⟨.debug, .http, "GET " ++ url ++ " failed: " ++ message⟩
    pure none
  | none => pure outcome.text?

end Telemetry.Http
