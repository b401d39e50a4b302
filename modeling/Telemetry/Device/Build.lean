import Telemetry.Device

/-!
Building devices from profiles. The properties may stand in any order, so the groups and the code
tables are declared first, and only then everything else is attached: to the tables first, because
groups refer to them.
-/

namespace Telemetry

inductive GroupField where
  | vars
  | factors
  | types
  | split
  | expr
  | url
  | refresh
  | cache
deriving DecidableEq, Repr

def GroupField.names : List (String × GroupField) := [
  ("vars", vars), ("factors", factors), ("types", types), ("split", split), ("expr", expr),
  ("url", url), ("refresh", refresh), ("cache", cache)]

inductive TableField where
  | url
  | types
  | expr
  | refresh
  | cache
deriving DecidableEq, Repr

def TableField.names : List (String × TableField) := [
  ("url", url), ("types", types), ("expr", expr), ("refresh", refresh), ("cache", cache)]

/-- What the key of a property says that the property is about. -/
inductive PropertyKey where
  | group (id : String) (field : GroupField)
  | binding (id channel : String)
  | wrongGroup
  | table (id : String) (field : TableField)
  /-- A table property without a known attribute; with three parts it still declares the table. -/
  | wrongTable (id : Option String)
  | malformed
  | plain
  | unknown
deriving DecidableEq, Repr

namespace PropertyKey

/-- What a key with the first part `values` is about. -/
def ofGroupParts : List String → PropertyKey
  | [id, "transforms", channel] => binding id channel
  | [id, field] =>
    match GroupField.names.lookup field with
    | some field => group id field
    | none => wrongGroup
  | _ => wrongGroup

/-- What a key with the first part `transforms` is about. -/
def ofTableParts : List String → PropertyKey
  | [id, field] =>
    match TableField.names.lookup field with
    | some field => table id field
    | none => wrongTable (some id)
  | _ => wrongTable none

def ofText (key : String) : PropertyKey :=
  match Text.fields '.' key with
  | "values" :: parts => ofGroupParts parts
  | "transforms" :: parts => ofTableParts parts
  | first :: parts =>
    if first = "vars" ∨ first = "options" then if parts.length = 1 then plain else malformed
    else if first = "properties" ∨ first = "name" ∨ first = "test" then plain
    else unknown
  | [] => unknown

end PropertyKey

namespace Device

/-- How far profiles may have been tried out. -/
def maturities : List String := ["draft", "unstable", "testing", "stable", "rocksolid"]

/-- The records about the name and the maturity of a profile. -/
def maturityEntries (name maturity author : String) : List Log.Entry :=
  let word := Text.lower maturity
  let text := "You are using a " ++ maturity ++ " version of profile " ++ name ++
    ". Please report errors to the author " ++ (if author = "" then "<unknown>" else author) ++ "."
  (if word ∈ maturities then []
    else [⟨.warning, .profile, "Unknown maturity " ++ maturity ++ " for profile " ++ name⟩]) ++
  [if name = "undefined" then ⟨.warning, .profile, "properties.name is not defined for a profile."⟩
    else if word = "stable" ∨ word = "rocksolid" then ⟨.debug, .profile, text⟩
    else if word = "testing" then ⟨.info, .profile, text⟩
    else ⟨.warning, .profile, text⟩]

/-- How often data is fetched and whether it is kept, where a group or a table says nothing. -/
structure Defaults where
  refresh : Int
  cached : Bool
deriving DecidableEq, Repr

/-- Enters the channels of a group into the index. A name that is there already now belongs to the
new group, which is reported. -/
def enter (device : Device) (group : Group) : Log.Noting Device :=
  group.names.foldlM (fun device name => do
    match device.index.lookup name with
    | some other =>
      Log.note ⟨.warning, .profile, "Variable " ++ name ++ " of values." ++ group.name ++
        " shadows the one from values." ++ other ++ " in " ++ device.name⟩
    | none => pure ()
    pure { device with index := device.index.put name group.name }) device

/-- Declares a group, if it has any channels. -/
def declareGroup (defaults : Defaults) (device : Device) (key id value : String) :
    Log.Noting Device := do
  let names := (Text.items value).filter (· ≠ "")
  if names.isEmpty then
    Log.note ⟨.error, .profile, key ++ " in " ++ device.name ++ " declares no variables"⟩
    pure device
  else
    let group := Group.declare id names defaults.refresh defaults.cached device.timeout
    (device.withGroup group).enter group

/-- Declares a code table, if there is none of that name. -/
def declareTable (defaults : Defaults) (device : Device) (id : String) : Device :=
  if device.tables.has id then device
  else device.withTable
    { name := id, refresh := defaults.refresh, cached := defaults.cached, timeout := device.timeout }

/-- Declares the group or the code table that a property is about. -/
def declare (defaults : Defaults) (device : Device) (property : String × String) :
    Log.Noting Device :=
  match PropertyKey.ofText property.1 with
  | .group id .vars => device.declareGroup defaults property.1 id property.2
  | .table id _ => pure (device.declareTable defaults id)
  | .wrongTable (some id) => pure (device.declareTable defaults id)
  | _ => pure device

/-- The record of a url that is none. -/
def urlEntry (url context template : String) : Log.Entry :=
  ⟨.error, .profile, "Url " ++ url ++ " of " ++ context ++ " is malformed, expanded from " ++ template⟩

/-- Expands the template of a url. What is no url of a page is reported, but kept. -/
def expandUrl (device : Device) (template context : String) : Building String := do
  let url ← Template.expand device.definitions (Text.strip template) (some context)
  if Template.hasHole url then
    Log.note (urlEntry url context template)
  else if !(← Building.url url).isFetchable then
    Log.note (urlEntry url context template)
  pure url

/-- Takes a pattern in double quotes and the text behind the comma after it apart. -/
def takeExpr (text : String) : Option (String × String) :=
  match (Text.strip text).toList with
  | '"' :: rest =>
    let source := rest.takeWhile (· ≠ '"')
    match rest.dropWhile (· ≠ '"') with
    | '"' :: ',' :: names =>
      if source.isEmpty ∨ '\n' ∈ names then none
      else some (String.ofList source, String.ofList names)
    | _ => none
  | _ => none

/-- Gives a code table its pattern and its relations. -/
def attachExpr (table : CodeTable) (key value : String) : Building CodeTable := do
  match takeExpr value with
  | none =>
    Log.note ⟨.error, .profile, "Transformation expression " ++ key ++
      " invalid. Syntax is: \"<regex>\",<relation>,..."⟩
    pure table
  | some (source, names) =>
    match ← Building.pattern source key with
    | none => pure table
    | some pattern =>
      let relations := Text.items names
      if relations.length < pattern.groups then
        Log.note ⟨.error, .profile, key ++ " has " ++ toString pattern.groups ++ " groups but only " ++
          toString relations.length ++ " relation names"⟩
      pure { table with pattern := some pattern, relations }

def attachTable (defaults : Defaults) (device : Device) (table : CodeTable)
    (field : TableField) (key value : String) : Building CodeTable :=
  match field with
  | .url => do pure { table with url := some (← device.expandUrl value key) }
  | .types => pure { table with types := Text.items value }
  | .expr => attachExpr table key value
  | .refresh => do pure { table with refresh := ← Refresh.interval (some value) defaults.refresh key }
  | .cache => do pure { table with cached := ← Refresh.cache (some value) true key }

def attachToTables (defaults : Defaults) (device : Device) (property : String × String) :
    Building Device :=
  match PropertyKey.ofText property.1 with
  | .table id field =>
    match device.table? id with
    | some table => do
      pure (device.withTable (← attachTable defaults device table field property.1 property.2))
    | none => pure device
  | .wrongTable _ => do
    Log.note ⟨.error, .profile, "Wrong property key " ++ property.1 ++
      " for transforms property type. Needs 3 parts, one of " ++
      ", ".intercalate (TableField.names.map Prod.fst) ++ "."⟩
    pure device
  | _ => pure device

def attachGroup (defaults : Defaults) (device : Device) (group : Group) (field : GroupField)
    (key value : String) : Building Group :=
  match field with
  | .vars => pure group
  | .factors => group.withFactors ((Text.items value).map some)
  | .types => group.withTypes (Text.items value)
  | .split => do
    match ← Building.pattern (unquote value) key with
    | some separator => pure { group with separator := some separator }
    | none => pure group
  | .expr => do pure { group with pattern := ← Building.pattern (unquote value) key }
  | .url => do pure { group with url := some (← device.expandUrl value key) }
  | .refresh => do pure { group with refresh := ← Refresh.interval (some value) defaults.refresh key }
  | .cache => do pure { group with cached := ← Refresh.cache (some value) true key }

/-- Attaches a decoding to a channel of a group. -/
def bind (device : Device) (group : Group) (key channel value : String) : Log.Noting Group := do
  match Text.items value with
  | [table, source, target] =>
    if !device.tables.has table then
      Log.note ⟨.error, .profile, key ++ " references unknown transformer " ++ table⟩
      pure group
    else
      match group.channel? channel with
      | none =>
        Log.note ⟨.error, .profile, key ++ " references variable " ++ channel ++
          " which is not part of values." ++ group.name⟩
        pure group
      | some channel =>
        pure (group.withChannel (← channel.withDecoding ⟨table, source, target⟩))
  | _ =>
    Log.note ⟨.error, .profile, "Transformation property " ++ key ++
      " invalid. Syntax is: <transformation.name>,<inputvar>,<outputvar>"⟩
    pure group

/-- The record of a property for a group that is not declared. -/
def undeclaredEntry (id key : String) : Log.Entry :=
  ⟨.error, .profile, "There are no vars specified for values." ++ id ++ ", ignoring " ++ key ++ "."⟩

/-- Attaches a property of a group. Properties about nothing known are reported. -/
def attachToGroups (defaults : Defaults) (device : Device) (property : String × String) :
    Building Device :=
  let (key, value) := property
  match PropertyKey.ofText key with
  | .group id field =>
    match device.group? id with
    | some group => do
      pure (device.withGroup (← attachGroup defaults device group field key value))
    | none => do
      Log.note (undeclaredEntry id key)
      pure device
  | .binding id channel =>
    match device.group? id with
    | some group => do pure (device.withGroup (← device.bind group key channel value))
    | none => do
      Log.note (undeclaredEntry id key)
      pure device
  | .wrongGroup => do
    Log.note ⟨.error, .profile, "Wrong property key " ++ key ++
      " for values property type. Needs 4 parts with transforms, otherwise 3 parts, separated by dot."⟩
    pure device
  | .malformed => do
    Log.note ⟨.error, .profile, "Malformed property key " ++ key ++ " in " ++ device.name⟩
    pure device
  | .unknown => do
    Log.note ⟨.error, .profile, "Unknown property key " ++ key ++ " in " ++ device.name ++
      ", ignoring it"⟩
    pure device
  | _ => pure device

/-- A device without groups and code tables. -/
def blank (properties : Properties) (host : Option String) (timeout : Int) : Building Device := do
  let name := properties.name?.getD "undefined"
  let maturity := (properties.lookup "properties.maturity").getD "draft"
  let author := (properties.lookup "properties.author").getD ""
  Log.noteAll (maturityEntries name maturity author)
  let definitions ← properties.definitions host
  let probe ← Probe.ofProperties properties name
  pure {
    name, host, maturity, author, definitions, options := properties.family "options", probe
    timeout }

/-- What holds where a group or a table says nothing. -/
def defaults (device : Device) : Log.Noting Defaults := do
  let refresh ← Refresh.interval (device.options.lookup "refresh") Refresh.defaultInterval
    "options.refresh"
  let cached ← Refresh.cache (device.options.lookup "cache") true "options.cache"
  pure ⟨refresh, cached⟩

/-- Builds a device from the properties of a profile. -/
def build (properties : Properties) (host : Option String) (timeout : Int) : Building Device := do
  let device ← blank properties host timeout
  let defaults ← device.defaults
  let device ← (properties.foldlM (declare defaults) device : Log.Noting Device)
  let device ← properties.foldlM (attachToTables defaults) device
  properties.foldlM (attachToGroups defaults) device

end Device

end Telemetry
