import Telemetry.Device
import Telemetry.Proofs.Group.Round

namespace Telemetry.Device

/-- Do the groups and their channels stand under their own names? -/
structure Named (device : Device) : Prop where
  group : ∀ name group, device.group? name = some group → group.name = name
  channel : ∀ name group, device.group? name = some group → group.Named

theorem channel?_eq_some_iff {device : Device} {name : String} {group : Group} {channel : Channel} :
    device.channel? name = some (group, channel) ↔
      ∃ id, device.index.lookup name = some id ∧ device.group? id = some group ∧
        group.channel? name = some channel := by
  simp only [channel?, Option.bind_eq_bind, Option.bind_eq_some_iff, Option.pure_def,
    Option.some.injEq, Prod.mk.injEq]
  constructor
  · rintro ⟨id, hid, found, hfound, _, hchannel, rfl, rfl⟩
    exact ⟨id, hid, hfound, hchannel⟩
  · rintro ⟨id, hid, hgroup, hchannel⟩
    exact ⟨id, hid, group, hgroup, channel, hchannel, rfl, rfl⟩

theorem group?_withGroup (device : Device) (group : Group) (name : String) :
    (device.withGroup group).group? name =
      if name == group.name then some group else device.group? name :=
  Keyed.lookup_put group.name name group device.groups

theorem withGroup_eq_self {device : Device} {group : Group}
    (hgroup : device.group? group.name = some group) : device.withGroup group = device := by
  rw [withGroup, Keyed.put_eq_self hgroup]

theorem rounded_refresh {device after : Device} {name : String} {group : Group} {changed : Bool}
    {network network' : Network} (hgroup : device.group? name = some group)
    (hrun : (device.refresh name).run network = ((after, changed), network')) :
    ∃ tables group', group.Rounded device.tables network tables group' changed network' ∧
      after = { device with tables }.withGroup group' := by
  have hrounded := group.rounded_round device.tables network
  simp only [refresh, hgroup, round, Online.run_bind, Online.run_pure] at hrun
  obtain ⟨⟨rfl, rfl⟩, rfl⟩ := hrun
  exact ⟨_, _, hrounded, rfl⟩

theorem Named.withGroup {device : Device} (hnamed : device.Named) {group : Group}
    (hgroup : group.Named) (tables : CodeTables) :
    ({ device with tables }.withGroup group).Named := by
  have hlookup : ∀ name found, ({ device with tables }.withGroup group).group? name = some found →
      found.name = name ∧ found.Named := by
    intro name found hfound
    rw [group?_withGroup] at hfound
    split at hfound
    · rename_i hname
      obtain rfl := Option.some.inj hfound
      exact ⟨(eq_of_beq hname).symm, hgroup⟩
    · exact ⟨hnamed.group name found hfound, hnamed.channel name found hfound⟩
  exact ⟨fun name found hfound => (hlookup name found hfound).1,
    fun name found hfound => (hlookup name found hfound).2⟩

theorem named_of_rounded {group group' : Group} {tables tables' : CodeTables}
    {network network' : Network} {changed : Bool}
    (hrounded : group.Rounded tables network tables' group' changed network')
    (hnamed : group.Named) : group'.Named := by
  cases hrounded with
  | fresh | unlaid | unlocated | unanswered | unmatched => exact hnamed
  | taken _ _ _ _ _ htaken => exact htaken.named hnamed

theorem Named.refresh {device : Device} (hnamed : device.Named) (name : String) (network : Network) :
    ((device.refresh name).run network).1.1.Named := by
  cases hgroup : device.group? name with
  | none =>
      simp only [Device.refresh, hgroup, Online.run_pure]
      exact hnamed
  | some group =>
      generalize hrun : (device.refresh name).run network = outcome
      obtain ⟨⟨after, changed⟩, network'⟩ := outcome
      obtain ⟨tables, group', hrounded, rfl⟩ := rounded_refresh hgroup hrun
      have hgroup' := named_of_rounded hrounded (hnamed.channel name group hgroup)
      exact hnamed.withGroup hgroup' tables

/-- A round is all or nothing. It succeeds just if the group is stale, its fields are found in one
way, the page comes in, and one of its first lines has a field for every name. -/
theorem refresh_succeeds_iff_and_local {device after : Device} (hnamed : device.Named)
    {name : String} {group : Group} (hgroup : device.group? name = some group) {changed : Bool}
    {network network' : Network}
    (hrun : (device.refresh name).run network = ((after, changed), network')) :
    (changed = true ↔
      group.isStale network.reading = true ∧ group.separator.isSome ≠ group.pattern.isSome ∧
        ∃ layout url page, group.layout? = some layout ∧ group.url = some url ∧
          (network.answerFor url).page = some page ∧
          ∃ line ∈ (Text.lines page).take 100, ∃ fields, layout.fields line = some fields ∧
            group.names.length ≤ fields.length) ∧
    (changed = false → after = device) ∧
    (changed = true →
      (∃ group', after.group? name = some group' ∧ group'.lastFetch = network'.now) ∧
      (∀ other, other ≠ name → after.group? other = device.group? other) ∧
      (∀ table, ¬group.DecodesBy table → after.table? table = device.table? table) ∧
      Keyed.keys after.groups = Keyed.keys device.groups ∧
      Keyed.keys after.tables = Keyed.keys device.tables ∧
      after = { device with groups := after.groups, tables := after.tables }) := by
  obtain ⟨tables, group', hrounded, rfl⟩ := rounded_refresh hgroup hrun
  have hname := hnamed.group name group hgroup
  refine ⟨?_, ?_, ?_⟩
  · rw [hrounded.succeeded_iff, ← Group.layout?_isSome_iff]
    simp only [Group.extract_isSome_iff]
    constructor
    · rintro ⟨hstale, layout, url, page, hlayout, hurl, hpage, hline⟩
      exact ⟨hstale, by simp [hlayout], layout, url, page, hlayout, hurl, hpage, hline⟩
    · rintro ⟨hstale, -, hrest⟩
      exact ⟨hstale, hrest⟩
  · rintro rfl
    obtain ⟨rfl, rfl⟩ := hrounded.eq_of_failed
    exact withGroup_eq_self (by rw [hname]; exact hgroup)
  · rintro rfl
    cases hrounded with
    | taken hstale hlayout hurl hpage hfields htaken =>
        rename_i group' network'
        have hname' : group'.name = name := by
          rw [htaken.eq_with_channels]
          exact hname
        refine ⟨⟨{ group' with lastFetch := network'.reading }, ?_, rfl⟩, ?_, ?_, ?_, htaken.keys_eq, rfl⟩
        · rw [group?_withGroup, if_pos (by simp [hname'])]
        · intro other hother
          rw [group?_withGroup, if_neg (by simpa [hname'] using hother)]
          rfl
        · intro table hother
          exact htaken.lookup_of_not_decodesBy hother
        · exact Keyed.keys_put_of_lookup (by rw [hname']; exact hgroup) _

/-- A group that sends a power and a code of a status, separated by a semicolon. -/
def liveGroup : Group where
  name := "live"
  names := ["power", "status"]
  url := some "http://host/live"
  separator := some { source := ";", expr := .one (.only .exact 59), groups := 0 }
  refresh := 1000
  cached := true
  timeout := 3000
  channels := [("power", { name := "power" }),
    ("status", { name := "status", decoding := some ⟨"statuses", "code", "word"⟩ })]

/-- A device with that group, whose statuses a table explains. -/
def meter : Device where
  name := "meter"
  host := some "host"
  maturity := "stable"
  author := ""
  definitions := [("host", "host")]
  options := []
  probe := ⟨none, none, none⟩
  timeout := 3000
  groups := [("live", liveGroup)]
  tables := [("statuses", {
    name := "statuses"
    url := some "http://host/statuses"
    pattern := some {
      source := "(.),(.*)"
      expr := .seq (.group 1 (.one .anyButNewline))
        (.seq (.one (.only .exact 44)) (.group 2 (.loop 0 none .greedy (.one .anyButNewline))))
      groups := 2 }
    relations := ["code", "word"]
    refresh := 1000
    cached := true
    timeout := 3000 })]
  index := [("power", "live"), ("status", "live")]

/-- The network of the device: each page takes a while. -/
def meterNetwork : Network where
  now := 1000
  answer _ url :=
    if url = "http://host/live" then ⟨some "# values\n42;3;", 5⟩ else ⟨some "3,Running", 7⟩
  reaches _ _ := true

theorem named_meter : meter.Named := by
  have hlookup : ∀ name group, meter.group? name = some group → name = "live" ∧ group = liveGroup := by
    intro name group hgroup
    simp only [group?, meter, List.lookup_cons, List.lookup_nil] at hgroup
    split at hgroup
    · rename_i hname
      exact ⟨eq_of_beq hname, (Option.some.inj hgroup).symm⟩
    · contradiction
  constructor
  · intro name group hgroup
    obtain ⟨rfl, rfl⟩ := hlookup name group hgroup
    rfl
  · intro name group hgroup
    obtain ⟨-, rfl⟩ := hlookup name group hgroup
    intro name channel hchannel
    simp only [Group.channel?, liveGroup, List.lookup_cons, List.lookup_nil] at hchannel
    split at hchannel
    · rename_i hname
      rw [← Option.some.inj hchannel, eq_of_beq hname]
    · split at hchannel
      · rename_i hname
        rw [← Option.some.inj hchannel, eq_of_beq hname]
      · contradiction

theorem refresh_meter_succeeds :
    meter.Named ∧ meter.group? "live" = some liveGroup ∧
      ((meter.refresh "live").run meterNetwork).1.2 = true ∧
      ((meter.refresh "live").run meterNetwork).2.now = 1012 ∧
      ∃ group', ((meter.refresh "live").run meterNetwork).1.1.group? "live" = some group' ∧
        group'.lastFetch = 1012 := by
  have hchanged : ((meter.refresh "live").run meterNetwork).1.2 = true := by decide +kernel
  have hnow : ((meter.refresh "live").run meterNetwork).2.now = 1012 := by decide +kernel
  refine ⟨named_meter, rfl, hchanged, hnow, ?_⟩
  generalize hrun : (meter.refresh "live").run meterNetwork = outcome at *
  obtain ⟨⟨after, changed⟩, network'⟩ := outcome
  obtain ⟨-, -, hlocal⟩ := refresh_succeeds_iff_and_local named_meter rfl hrun
  obtain ⟨group', hgroup', hfetch⟩ := (hlocal hchanged).1
  exact ⟨group', hgroup', hfetch.trans hnow⟩

end Telemetry.Device
