import Telemetry.Device

namespace Telemetry

def Channel.summary (channel : Channel) : String :=
  "VariableValue(name=" ++ Text.quoted channel.name ++ ", raw=" ++ Text.quoted? channel.raw ++
    ", transformed=" ++ Text.quoted? channel.decoded ++ ")"

def Group.summary (group : Group) : String :=
  "ValueGroup(name=" ++ Text.quoted group.name ++ ", url=" ++ Text.quoted? group.url ++
    ", split=" ++ Text.quoted? (group.separator.map (·.source)) ++
    ", expr=" ++ Text.quoted? (group.pattern.map (·.source)) ++
    ", values=" ++ toString group.channels.length ++ ", cache_enabled=" ++ Text.truth group.cached ++
    ", refresh=" ++ toString group.refresh ++ ", last_fetch=" ++ toString group.lastFetch ++ ")"

def CodeTable.summary (table : CodeTable) : String :=
  "Transformer(name=" ++ Text.quoted table.name ++ ", url=" ++ Text.quoted? table.url ++
    ", relations=" ++ Text.quotedTuple table.relations ++ ", refresh=" ++ toString table.refresh ++
    ", cache_enabled=" ++ Text.truth table.cached ++ ", last_fetch=" ++ toString table.lastFetch ++ ")"

def Device.summary (device : Device) : String :=
  "DeviceProfile(name=" ++ Text.quoted device.name ++ ", host=" ++ Text.quoted? device.host ++
    ", groups=" ++ Text.quotedList (Text.sorted device.groups.keys) ++ ")"

/-- A device in one line, then each group with its channels, then the code tables. -/
def Device.summaries (device : Device) : List String :=
  device.summary :: (device.groups.flatMap fun (_, group) =>
    group.summary :: group.declared.map Channel.summary) ++
  device.tables.map fun (_, table) => table.summary

end Telemetry
