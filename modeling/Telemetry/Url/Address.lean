import Telemetry.Text.Lines

namespace Telemetry.Url

def isDigit (c : Char) : Bool :=
  '0' ≤ c && c ≤ '9'

def isHexDigit (c : Char) : Bool :=
  isDigit c || ('a' ≤ c && c ≤ 'f') || ('A' ≤ c && c ≤ 'F')

/-- A number below 256 without leading zeros. -/
def isOctet (cs : List Char) : Bool :=
  !cs.isEmpty && cs.all isDigit && cs.length ≤ 3 && (cs == ['0'] || cs.head? != some '0') &&
    cs.foldl (fun total c => total * 10 + (c.toNat - 48)) 0 ≤ 255

/-- Four octets with points between them. -/
def isDotted (cs : List Char) : Bool :=
  let parts := Text.fieldsOf '.' cs
  parts.length == 4 && parts.all isOctet

/-- One to four hexadecimal digits. -/
def isGroup (cs : List Char) : Bool :=
  !cs.isEmpty && cs.length ≤ 4 && cs.all isHexDigit

/-- The parts of an address in which a dotted end has become two groups. -/
def withoutDotted (parts : List (List Char)) : Option (List (List Char)) :=
  match parts.getLast? with
  | some last =>
    if '.' ∈ last then
      if isDotted last then some (parts.dropLast ++ [['0'], ['0']]) else none
    else some parts
  | none => none

/-- The places, ends apart, where nothing stands between two colons. -/
def gaps (parts : List (List Char)) : List Nat :=
  (List.range parts.length).filter fun index =>
    0 < index && index + 1 < parts.length && (parts.getD index []).isEmpty

/-- Are these the parts of an address of eight groups, in which one gap may stand for any number of
groups? A gap at an end shows there as an empty part as well. -/
def areGroups (parts : List (List Char)) : Bool :=
  match gaps parts with
  | [] => parts.length == 8 && parts.all isGroup
  | [gap] =>
    let front := parts.take gap
    let back := parts.drop (gap + 1)
    let front := if front.head? = some [] then front.drop 1 else front
    let frontFits := (parts.head? != some []) || front.isEmpty
    let back' := if back.getLast? = some [] then back.dropLast else back
    let backFits := (back.getLast? != some []) || back'.isEmpty
    frontFits && backFits && front.length + back'.length < 8 && front.all isGroup && back'.all isGroup
  | _ => false

/-- A sixteen-octet address, possibly with a zone behind a percent sign. -/
def isColonAddress (cs : List Char) : Bool :=
  let address := cs.takeWhile (· ≠ '%')
  let zone := cs.dropWhile (· ≠ '%')
  let zoneFits := zone.isEmpty || (zone.length > 1 && '%' ∉ zone.drop 1)
  let parts := Text.fieldsOf ':' address
  zoneFits && '/' ∉ cs && 3 ≤ parts.length &&
    match withoutDotted parts with
    | some parts => parts.length ≤ 9 && areGroups parts
    | none => false

/-- An address of a later version: a `v`, hexadecimal digits, a point and anything. -/
def isFutureAddress : List Char → Bool
  | 'v' :: rest =>
    let version := rest.takeWhile isHexDigit
    match rest.dropWhile isHexDigit with
    | '.' :: address => !version.isEmpty && !address.isEmpty && '\n' ∉ address
    | _ => false
  | _ => false

/-- May the text stand in brackets? -/
def isBracketed (cs : List Char) : Bool :=
  if cs.head? = some 'v' then isFutureAddress cs else isColonAddress cs

end Telemetry.Url
