import Telemetry.Channel

/-!
Groups of channels that a device sends together, in one line of one page. The fields of the line are
found by cutting it at a separator or by matching it with a pattern.

A round fetches the page and takes the first line with enough fields. Only a round that found one
changes anything.
-/

namespace Telemetry

structure Group where
  name : String
  /-- The names of the channels in the order of the fields; a name may occur twice. -/
  names : List String
  url : Option String := none
  /-- What separates the fields. -/
  separator : Option Pattern := none
  /-- What matches a line, with a group for each field. -/
  pattern : Option Pattern := none
  /-- The refresh interval in milliseconds. -/
  refresh : Int
  cached : Bool
  /-- The timeout of requests in milliseconds. -/
  timeout : Int
  /-- When the last round was; zero for never. -/
  lastFetch : Int := 0
  channels : Keyed String Channel
deriving DecidableEq, Repr

namespace Group

/-- A group as declared: each channel once, without any value. -/
def declare (name : String) (names : List String) (refresh : Int) (cached : Bool) (timeout : Int) :
    Group :=
  { name, names, refresh, cached, timeout
    channels := Keyed.ofList (names.map fun name => (name, { name })) }

/-- The most lines of a page that are looked at. -/
def maxLines : Nat := 100

def channel? (group : Group) (name : String) : Option Channel :=
  group.channels.lookup name

def declared (group : Group) : List Channel :=
  group.names.filterMap group.channel?

def withChannel (group : Group) (channel : Channel) : Group :=
  { group with channels := group.channels.put channel.name channel }

def isStale (group : Group) (now : Int) : Bool :=
  !group.cached || Refresh.isStale group.lastFetch group.refresh now

/-- Must the page be fetched again by now? The clock is only read where pages are cached. -/
def isStaleNow (group : Group) : Online Bool := do
  if group.cached then return group.isStale (← Online.now) else return true

@[simp] theorem run_isStaleNow (group : Group) (network : Network) :
    group.isStaleNow.run network =
      (group.isStale network.reading, network.readIf group.cached) := by
  unfold isStaleNow isStale Network.readIf
  cases group.cached with
  | false => rfl
  | true => rfl

/-- Gives the channels their factors, in the order of the fields. A list of another length is
reported and changes nothing. -/
def withFactors (group : Group) (factors : List (Option String)) : Log.Noting Group := do
  if factors.length ≠ group.names.length then
    Log.note ⟨.warning, .values, "Count of vars (" ++ toString group.names.length ++
      ") and factors (" ++ toString factors.length ++ ") differ for values." ++ group.name ++ "."⟩
    pure group
  else
    (group.names.zip factors).foldlM (fun group (name, factor) => do
      match group.channel? name with
      | some channel => return group.withChannel (← channel.withFactor factor)
      | none => pure group) group

/-- The declared type of a channel, as it is kept. An unknown one is reported. -/
def typeFor (group : Group) (name tag : String) : Log.Noting String := do
  if (Kind.ofTag? tag).isSome then pure (Text.strip tag)
  else
    Log.note ⟨.warning, .values, "Unknown type " ++ tag ++ " for " ++ name ++ " in values." ++
      group.name ++ ", using " ++ Channel.defaultType⟩
    pure Channel.defaultType

/-- Gives the channels their types, in the order of the fields. A list of another length is reported
and changes nothing. -/
def withTypes (group : Group) (tags : List String) : Log.Noting Group := do
  if tags.length ≠ group.names.length then
    Log.note ⟨.warning, .values, "Count of vars (" ++ toString group.names.length ++
      ") and types (" ++ toString tags.length ++ ") differ for values." ++ group.name ++ "."⟩
    pure group
  else
    (group.names.zip tags).foldlM (fun group (name, tag) => do
      let type ← group.typeFor name tag
      match group.channel? name with
      | some channel => pure (group.withChannel { channel with type })
      | none => pure group) group

/-- A line without the blanks around it and one semicolon at its end, with which some devices end
every line. -/
def trimmed (line : String) : List Char :=
  let cs := (Text.strip line).toList
  if cs.getLast? = some ';' then cs.dropLast else cs

/-- Fields without the empty ones at the end. -/
def withoutEmptyEnd (fields : List (Option String)) : List (Option String) :=
  (fields.reverse.dropWhile (· = some "")).reverse

/-- The fields of a line between separators. An empty line has none. -/
def cut (separator : Pattern) (line : String) : Option (List (Option String)) :=
  let cs := trimmed line
  if cs.isEmpty then none else some (withoutEmptyEnd (separator.split (String.ofList cs)))

/-- How the fields of a line are found. -/
inductive Layout where
  | separated (separator : Pattern)
  | matched (pattern : Pattern)
deriving DecidableEq, Repr

def Layout.fields : Layout → String → Option (List (Option String))
  | separated separator, line => cut separator line
  | matched pattern, line => pattern.fullMatch? (Text.strip line)

/-- How the fields of the group's line are found, if exactly one way is given. -/
def layout? (group : Group) : Option Layout :=
  match group.separator, group.pattern with
  | some separator, none => some (.separated separator)
  | none, some pattern => some (.matched pattern)
  | _, _ => none

/-- The fields of the first line that has at least as many as wanted. -/
def extract (layout : Layout) (count : Nat) (page : String) : Option (List (Option String)) :=
  ((Text.lines page).take maxLines).findSome? fun line =>
    (layout.fields line).filter fun fields => count ≤ fields.length

/-- Takes the fields of a line in, one channel after another. -/
def takeIn : (fields : List (String × Option String)) → CodeTables → Group →
    Online (CodeTables × Group)
  | [], tables, group => pure (tables, group)
  | (name, field) :: fields, tables, group => do
    match group.channel? name with
    | none => takeIn fields tables group
    | some channel =>
      let (tables, channel) ← channel.update tables field
      takeIn fields tables (group.withChannel channel)

/-- Takes the line of a page in, if there is one. The result tells whether there was. -/
def takePage (group : Group) (tables : CodeTables) (layout : Layout) (url page : String) :
    Online ((CodeTables × Group) × Bool) := do
  match extract layout group.names.length page with
  | none =>
    Online.note ⟨.error, .values, "Result from " ++ url ++ " was not matching the " ++
      toString group.names.length ++ " variables expected for values." ++ group.name ++ "."⟩
    pure ((tables, group), false)
  | some fields =>
    let (tables, group) ← takeIn (group.names.zip fields) tables group
    pure ((tables, { group with lastFetch := ← Online.now }), true)

/-- Fetches the page and takes its line in. -/
def fetchPage (group : Group) (tables : CodeTables) (layout : Layout) (url : String) :
    Online ((CodeTables × Group) × Bool) := do
  match ← Online.fetch url group.timeout with
  | none =>
    Online.note ⟨.warning, .values, "Could not fetch " ++ url ++ " for values." ++ group.name ++
      ", keeping previous values"⟩
    pure ((tables, group), false)
  | some page => group.takePage tables layout url page

/-- A round: does nothing if the group is not stale. The result tells whether new data was taken
in. -/
def round (group : Group) (tables : CodeTables) : Online ((CodeTables × Group) × Bool) := do
  if !(← group.isStaleNow) then
    Online.note ⟨.debug, .values, "Update of values." ++ group.name ++ " not needed. Skipping."⟩
    pure ((tables, group), false)
  else
    match group.layout?, group.url with
    | none, _ =>
      Online.note ⟨.error, .values, "Either split or an expression must be defined for values." ++
        group.name ++ ". Aborting data retrieval."⟩
      pure ((tables, group), false)
    | some _, none =>
      Online.note ⟨.error, .values, "No url defined for values." ++ group.name ++ "."⟩
      pure ((tables, group), false)
    | some layout, some url => group.fetchPage tables layout url

end Group

end Telemetry
