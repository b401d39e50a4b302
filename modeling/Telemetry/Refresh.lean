import Telemetry.Log
import Telemetry.Text.Case
import Telemetry.Text.Integer

namespace Telemetry.Refresh

/-- The refresh interval that keeps the first successful fetch for ever. -/
def once : Int := -1

/-- The refresh interval that fetches for every read. -/
def always : Int := 0

/-- The refresh interval in milliseconds where a profile gives none. -/
def defaultInterval : Int := 30000

/-- The timeout in milliseconds where nothing else is asked for. -/
def defaultTimeout : Int := 3000

/-- Must data fetched at `lastFetch` be fetched again? A `lastFetch` of zero means never fetched. -/
def isStale (lastFetch interval now : Int) : Bool :=
  if lastFetch = 0 then true
  else if interval = once then false
  else if interval = always then true
  else decide (lastFetch + interval ≤ now)

inductive Fault where
  | notNumeric
  | outOfRange
deriving DecidableEq, Repr

def read (text : String) : Except Fault Int :=
  match Text.readInt (Text.strip text) with
  | none => .error .notNumeric
  | some interval => if interval < once then .error .outOfRange else .ok interval

def Fault.entry (context text : String) : Fault → Log.Entry
  | notNumeric =>
    ⟨.error, .refresh, "Could not parse " ++ context ++ "=" ++ text ++
      ". Is it really a numeric value?"⟩
  | outOfRange =>
    ⟨.error, .refresh, context ++ "=" ++ text ++ " is out of range (must be -1, 0 or positive)"⟩

/-- The refresh interval given by a text, or the default where there is none or a wrong one. -/
def interval (text : Option String) (default : Int) (context : String) : Log.Noting Int :=
  match text with
  | none => pure default
  | some text =>
    match read text with
    | .ok interval => pure interval
    | .error fault => do
      Log.note (fault.entry context text)
      pure default

/-- The words that switch caching on. -/
def cachedWords : List String := ["true", "enabled", "on", "cached"]

/-- The words that switch caching off. -/
def uncachedWords : List String := ["false", "disabled", "off", "uncached"]

/-- Does the text switch caching on or off, or neither? -/
def readCache? (text : String) : Option Bool :=
  let word := Text.lower (Text.strip text)
  if word ∈ uncachedWords then some false else if word ∈ cachedWords then some true else none

def cacheEntry (context text : String) : Log.Entry :=
  ⟨.warning, .refresh, context ++ "=" ++ text ++ " is not a valid cache setting. Must be one of " ++
    ", ".intercalate cachedWords ++ " or " ++ ", ".intercalate uncachedWords⟩

/-- The cache setting given by a text: the default where there is none, on where it is wrong. -/
def cache (text : Option String) (default : Bool) (context : String) : Log.Noting Bool :=
  match text with
  | none => pure default
  | some text =>
    match readCache? text with
    | some enabled => pure enabled
    | none => do
      Log.note (cacheEntry context text)
      pure true

end Telemetry.Refresh
