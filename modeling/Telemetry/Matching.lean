import Telemetry.Profile.Probe
import Telemetry.Network

namespace Telemetry

/-- How well a profile fits a host: not at all, as far as its page can be fetched, or with a line that
matches. -/
inductive Strength where
  | none
  | weak
  | strong
deriving DecidableEq, Repr

def Strength.name : Strength → String
  | none => "none"
  | weak => "weak"
  | strong => "strong"

/-- A computation that uses the network and may end with a fault. -/
abbrev Attempt := ExceptT Fault Online

namespace Attempt

def building {α : Type} (act : Building α) : Attempt α :=
  ExceptT.mk (Online.noting act.run)

instance : MonadLift Building Attempt where
  monadLift := building

end Attempt

namespace Profile

/-- The most lines of a probe's page that are looked at. -/
def maxProbeLines : Nat := 50

/-- How well a page fits a pattern: is one of its first lines matched? -/
def lineStrength (pattern : Pattern) (page : String) : Strength :=
  if ((Text.lines page).take maxProbeLines).any fun line =>
    (pattern.fullMatch? (Text.strip line)).isSome
  then .strong else .none

/-- How well the page of a probe fits. A page that no pattern is given for fits weakly. -/
def pageStrength (profile : Profile) (probe : Probe) (url : String) (timeout : Int) :
    Online Strength := do
  match ← Online.fetch url timeout with
  | none =>
    Online.note ⟨.info, .matching, "Could not fetch " ++ url ++ ". Seems not to be a " ++
      profile.name ++ "."⟩
    pure .none
  | some page =>
    match probe.pattern with
    | none =>
      Online.note ⟨.warning, .matching, "Profile " ++ profile.name ++
        " does not contain a regex check (test.expr); a successful fetch of " ++ url ++
        " is a weak match."⟩
      pure .weak
    | some pattern => pure (lineStrength pattern page)

/-- The port that a probe reaches first. -/
def portFor (probe : Probe) (url : String) : Except Fault Int :=
  match probe.portFor url with
  | .ok port => .ok port
  | .error fault => .error (.url fault)

/-- How well a profile fits a host; nothing if the profile has no probe. Without `fully` it is enough
that the host can be reached. -/
def strength (profile : Profile) (host : String) (fully : Bool) (timeout : Int) :
    Attempt (Option Strength) := do
  let probe ← Attempt.building (Probe.ofProperties profile.properties profile.name)
  match probe.url with
  | none =>
    Online.note ⟨.warning, .matching, "Profile " ++ profile.name ++
      " does not contain a check (test.url)."⟩
    pure none
  | some template =>
    let definitions ← profile.properties.definitions (some host)
    let url ← Template.expand definitions template (some (profile.name ++ " test.url"))
    if Template.hasHole url then
      Online.note ⟨.error, .matching, "Could not resolve test url " ++ url ++ " of profile " ++
        profile.name⟩
      pure (some .none)
    else
      let port ← portFor probe url
      let seconds ← seconds timeout
      if !(← Online.ping host port seconds) then pure (some .none)
      else if !fully then pure (some .strong)
      else pure (some (← profile.pageStrength probe url timeout))

def fits (profile : Profile) (host : String) (fully : Bool) (timeout : Int) :
    Attempt (Option Bool) := do
  return (← profile.strength host fully timeout).map (· ≠ .none)

end Profile

namespace Matching

def foundEntry (host : String) (profile : Profile) : Log.Entry :=
  ⟨.info, .matching, "Host " ++ host ++ " matches profile " ++ profile.name⟩

def weakEntry (host : String) (profile : Profile) : Log.Entry :=
  ⟨.info, .matching, "Host " ++ host ++ " only weakly matches profile " ++ profile.name⟩

/-- The profile kept so far, once there are no more. -/
def settle (host : String) : Option Profile → Online (Option Profile)
  | some profile => do
    Online.note (weakEntry host profile)
    pure (some profile)
  | none => do
    Online.note ⟨.warning, .matching, "No profile found for " ++ host ++ "."⟩
    pure none

/-- The first of the profiles that fits the host. With `preferStrong` one that fits weakly is only
kept in case no later one fits strongly; `kept` is the one kept so far. -/
def discoverFrom (host : String) (preferStrong : Bool) (timeout : Int) (kept : Option Profile) :
    List Profile → Attempt (Option Profile)
  | [] => settle host kept
  | profile :: profiles => do
    match ← profile.strength host true timeout with
    | none | some .none => discoverFrom host preferStrong timeout kept profiles
    | some strength =>
      if strength = .strong ∨ !preferStrong then
        Online.note (foundEntry host profile)
        pure (some profile)
      else discoverFrom host preferStrong timeout (kept.or (some profile)) profiles

/-- The first of the profiles that fits the host. With `preferStrong` a strong fit goes before a weak
one. -/
def discover (profiles : List Profile) (host : String) (preferStrong : Bool) (timeout : Int) :
    Attempt (Option Profile) :=
  discoverFrom host preferStrong timeout none profiles

/-- How well each of the profiles fits the host, by name. -/
def probeAll (profiles : List Profile) (host : String) (timeout : Int) :
    Attempt (Keyed String (Option Strength)) := do
  let results ← profiles.mapM fun profile => do
    return (profile.name, ← profile.strength host true timeout)
  pure (Keyed.ofList results)

end Matching

end Telemetry
