import Telemetry.Text.Integer
import Telemetry.Url.Address

namespace Telemetry

/-- The scheme of a URL in lower case, and what names the server. -/
structure Url where
  scheme : String
  authority : String
deriving DecidableEq, Repr

namespace Url

inductive Fault where
  | openBracket
  | badAddress
  | badCharacter
deriving DecidableEq, Repr

def isSchemeChar (c : Char) : Bool :=
  c.isAlphanum || c == '+' || c == '-' || c == '.'

/-- The text as it counts: without controls and spaces in front, and without tabs and line ends. -/
def cleaned (cs : List Char) : List Char :=
  (cs.dropWhile (·.toNat ≤ 32)).filter fun c => c ≠ '\t' ∧ c ≠ '\r' ∧ c ≠ '\n'

def takeScheme (cs : List Char) : List Char × List Char :=
  let front := cs.takeWhile (· ≠ ':')
  match cs.dropWhile (· ≠ ':') with
  | ':' :: rest =>
    if (front.head?.map Char.isAlpha).getD false && front.all isSchemeChar then
      (front.map Char.toLower, rest)
    else ([], cs)
  | _ => ([], cs)

/-- What stands between two slashes and the path, the query or the fragment. -/
def authorityOf : List Char → List Char
  | '/' :: '/' :: rest => rest.takeWhile fun c => c ≠ '/' ∧ c ≠ '?' ∧ c ≠ '#'
  | _ => []

/-- The characters outside ASCII whose compatible form contains a character that separates parts of
a URL. -/
def disguises : List Nat := [
  0x2047, 0x2048, 0x2049, 0x2100, 0x2101, 0x2105, 0x2106, 0x2A74, 0xFE13, 0xFE16, 0xFE55, 0xFE56,
  0xFE5F, 0xFE6B, 0xFF03, 0xFF0F, 0xFF1A, 0xFF1F, 0xFF20]

/-- What stands behind the first occurrence of a character; nothing if there is none. -/
def behind (c : Char) (cs : List Char) : List Char :=
  (cs.dropWhile (· ≠ c)).drop 1

/-- The name of a server without the user, whose name ends at the last `@`. -/
def withoutUser (authority : List Char) : List Char :=
  (authority.reverse.takeWhile (· ≠ '@')).reverse

/-- Do brackets stand around an address and nothing else, but for a port behind them? -/
def isEnclosed (host : List Char) : Bool :=
  match host with
  | '[' :: rest =>
    let back := behind ']' rest
    isBracketed (rest.takeWhile (· ≠ ']')) && (back.isEmpty || back.head? == some ':')
  | _ => '[' ∉ host && isBracketed (host.takeWhile (· ≠ ':'))

/-- What is wrong with the name of a server, if anything. -/
def authorityFault? (cs : List Char) : Option Fault :=
  if '[' ∈ cs ∧ ']' ∉ cs ∨ ']' ∈ cs ∧ '[' ∉ cs then some .openBracket
  else if '[' ∈ cs ∧ !isEnclosed (withoutUser cs) then some .badAddress
  else if cs.any (disguises.contains ·.toNat) then some .badCharacter
  else none

def read (text : String) : Except Fault Url :=
  let (scheme, rest) := takeScheme (cleaned text.toList)
  let authority := authorityOf rest
  match authorityFault? authority with
  | some fault => .error fault
  | none => .ok ⟨String.ofList scheme, String.ofList authority⟩

/-- The text behind the colon of a server name. -/
def portText (authority : List Char) : List Char :=
  let host := withoutUser authority
  if '[' ∈ host then behind ':' (behind ']' (behind '[' host)) else behind ':' host

def port? (url : Url) : Option Nat :=
  let digits := portText url.authority.toList
  if digits.isEmpty || !digits.all isDigit || Text.maxDigits < digits.length then none
  else
    let port := digits.foldl (fun total c => total * 10 + (c.toNat - 48)) 0
    if port ≤ 65535 then some port else none

def port (url : Url) : Nat :=
  url.port?.getD (if url.scheme = "https" then 443 else 80)

/-- Can a page be fetched from there: is it HTTP, and is a server named? -/
def isFetchable (url : Url) : Bool :=
  (url.scheme = "http" || url.scheme = "https") && url.authority ≠ ""

end Url

end Telemetry
