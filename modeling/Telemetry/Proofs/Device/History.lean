import Telemetry.Proofs.Device.Build
import Telemetry.Proofs.Group.Fields

namespace Telemetry.Device

/-- What can be asked of a device. -/
inductive Operation where
  | currentText (name : String)
  | reading (name : String) (kind : Kind)
  | groupChannel (group name : String)
  | refresh (group : String)
deriving DecidableEq, Repr

/-- Asks the device, for the sake of what happens to it. -/
def Operation.run (operation : Operation) (device : Device) : Online Device :=
  match operation with
  | currentText name => Prod.fst <$> device.currentText name
  | reading name kind => Prod.fst <$> device.reading name kind
  | groupChannel group name => Prod.fst <$> device.groupChannel group name
  | refresh group => Prod.fst <$> device.refresh group

/-- The group that must be fresh before the device answers. -/
def Operation.group? (operation : Operation) (device : Device) : Option String :=
  match operation with
  | currentText name | reading name _ => (device.channel? name).bind fun _ => device.index.lookup name
  | groupChannel group _ | refresh group => some group

/-- A successful round: of which group, and the page that came in. -/
structure Round where
  group : String
  page : Option String
deriving DecidableEq, Repr

/-- What the request for a group's page meets. -/
def pageFor (device : Device) (group : String) (network : Network) : Option String := do
  let group ← device.group? group
  let url ← group.url
  (network.answerFor url).page

theorem pageFor_eq {device : Device} {id url : String} {group : Group}
    (hgroup : device.group? id = some group) (hurl : group.url = some url) (network : Network) :
    device.pageFor id network = (network.answerFor url).page := by
  simp only [pageFor, hgroup, hurl, Option.bind_eq_bind, Option.bind_some]

/-- The successful round that an operation causes, if any. -/
def Operation.round? (operation : Operation) (device : Device) (network : Network) : Option Round := do
  let group ← operation.group? device
  if ((device.refresh group).run network).1.2 then some ⟨group, device.pageFor group network⟩ else none

/-- The devices that come of one by operations in any networks, with the successful rounds so far, the
last one first. -/
inductive Run (start : Device) : List Round → Device → Prop
  | start : Run start [] start
  | asked {rounds : List Round} {device : Device} (hrun : Run start rounds device)
      (operation : Operation) (network : Network) :
      Run start ((operation.round? device network).toList ++ rounds)
        ((operation.run device).run network).1

theorem exists_of_channel? {device : Device} {name : String} {group : Group} {channel : Channel}
    (hchannel : device.channel? name = some (group, channel)) :
    ∃ id, device.index.lookup name = some id ∧ device.group? id = some group := by
  simp only [channel?, Option.bind_eq_bind, Option.bind_eq_some_iff, Option.pure_def,
    Option.some.injEq, Prod.mk.injEq] at hchannel
  obtain ⟨id, hid, found, hfound, -, -, rfl, -⟩ := hchannel
  exact ⟨id, hid, hfound⟩

theorem read_fst (device : Device) (name : String) (network : Network) :
    ((device.read name).run network).1.1 =
      match (device.channel? name).bind fun _ => device.index.lookup name with
      | some group => ((device.refresh group).run network).1.1
      | none => device := by
  unfold read
  cases hchannel : device.channel? name with
  | none => rfl
  | some found =>
      obtain ⟨group, channel⟩ := found
      obtain ⟨id, hid, hgroup⟩ := exists_of_channel? hchannel
      simp only [Option.bind_some, hid, refresh, hgroup, Online.run_bind, Online.run_pure]

theorem Operation.run_fst (operation : Operation) (device : Device) (network : Network) :
    ((operation.run device).run network).1 =
      match operation.group? device with
      | some group => ((device.refresh group).run network).1.1
      | none => device := by
  cases operation with
  | currentText name => exact device.read_fst name network
  | reading name kind =>
      rw [Operation.group?, ← read_fst]
      simp only [Operation.run, Device.reading, Online.run_map, Online.run_bind]
      cases ((device.read name).run network).1.2 <;> rfl
  | groupChannel group name => rfl
  | refresh group => rfl

theorem Run.named {start device : Device} {rounds : List Round} (hstart : start.Named)
    (hrun : Run start rounds device) : device.Named := by
  induction hrun with
  | start => exact hstart
  | asked _ operation network ih =>
      rw [operation.run_fst]
      split
      · exact ih.refresh _ network
      · exact ih

/-- The fields that a round took in. -/
def Round.fields (round : Round) (group : Group) : Option (List (Option String)) := do
  let page ← round.page
  let layout ← group.layout?
  Group.extract layout group.names.length page

/-- The last text that a round of a group had for a channel. -/
def lastText (rounds : List Round) (id : String) (group : Group) (name : String) : Option String :=
  rounds.findSome? fun round =>
    if round.group = id then
      (round.fields group).bind fun fields => Group.lastField (group.names.zip fields) name
    else none

/-- Does a channel hold the last text for it, and what its factor makes of this text? -/
structure Reflected (rounds : List Round) (id : String) (group : Group) (name : String)
    (channel : Channel) : Prop where
  declared : name ∈ group.names
  raw : channel.raw = lastText rounds id group name
  scaled : channel.scaled = channel.raw.map (Channel.scaledText channel.factor)
  decoded : channel.decoding = none → channel.decoded = channel.scaled

/-- Do the channels of the device tell its rounds? -/
structure Reflects (rounds : List Round) (device : Device) : Prop where
  named : device.Named
  round : ∀ round ∈ rounds, ∀ group, device.group? round.group = some group →
    (round.fields group).isSome
  channel : ∀ id group name channel, device.group? id = some group →
    group.channel? name = some channel → Reflected rounds id group name channel

/-- How the fields of a round are found depends on nothing that a round changes. -/
theorem Round.fields_congr {group group' : Group} (hnames : group'.names = group.names)
    (hlayout : group'.layout? = group.layout?) (round : Round) :
    round.fields group' = round.fields group := by
  simp only [fields, hnames, hlayout]

theorem lastText_congr {group group' : Group} (hnames : group'.names = group.names)
    (hlayout : group'.layout? = group.layout?) (rounds : List Round) (id name : String) :
    lastText rounds id group' name = lastText rounds id group name := by
  simp only [lastText, Round.fields_congr hnames hlayout, hnames]

theorem Reflected.congr {rounds : List Round} {id name : String} {group group' : Group}
    {channel : Channel} (hreflected : Reflected rounds id group name channel)
    (hnames : group'.names = group.names) (hlayout : group'.layout? = group.layout?) :
    Reflected rounds id group' name channel where
  declared := hnames ▸ hreflected.declared
  raw := (lastText_congr hnames hlayout rounds id name).symm ▸ hreflected.raw
  scaled := hreflected.scaled
  decoded := hreflected.decoded

theorem lastText_cons (round : Round) (rounds : List Round) (id : String) (group : Group)
    (name : String) :
    lastText (round :: rounds) id group name =
      (if round.group = id then
        (round.fields group).bind fun fields => Group.lastField (group.names.zip fields) name
      else none).or (lastText rounds id group name) := by
  rw [lastText, List.findSome?_cons, lastText]
  split
  · rename_i htext
    rw [htext]
    rfl
  · rename_i hnone
    rw [hnone]
    rfl

theorem Reflected.taken {rounds : List Round} {id name page : String} {group group' : Group}
    {channel channel' : Channel} {fields : List (Option String)} {tables tables' : CodeTables}
    {network network' : Network}
    (hreflected : Reflected rounds id group name channel) (hnamed : group.Named)
    (hchannel : group.channel? name = some channel) (hchannel' : group'.channel? name = some channel')
    (hfields : Round.fields ⟨id, some page⟩ group = some fields)
    (htaken : Group.TakenIn (group.names.zip fields) tables group network tables' group' network') :
    Reflected (⟨id, some page⟩ :: rounds) id group name channel' := by
  have hlast : lastText (⟨id, some page⟩ :: rounds) id group name =
      (Group.lastField (group.names.zip fields) name).or (lastText rounds id group name) := by
    rw [lastText_cons, if_pos rfl, hfields, Option.bind_some]
  rcases htaken.channel?_eq hnamed hchannel with ⟨hnone, hsame⟩ | ⟨raw, decoded, hraw, hheld, hplain⟩
  · obtain rfl := Option.some.inj (hchannel'.symm.trans hsame)
    refine ⟨hreflected.declared, ?_, hreflected.scaled, hreflected.decoded⟩
    rw [hlast, hnone, Option.none_or, hreflected.raw]
  · obtain rfl := Option.some.inj (hchannel'.symm.trans hheld)
    refine ⟨hreflected.declared, ?_, rfl, hplain⟩
    rw [hlast, hraw, Option.some_or]
    rfl

theorem Reflects.cons {rounds : List Round} {device : Device} (hreflects : Reflects rounds device)
    {id : String} {page : Option String} {group after : Group} (tables : CodeTables)
    (hgroup : device.group? id = some group) (hname : after.name = id) (hnamed : after.Named)
    (hnames : after.names = group.names) (hlayout : after.layout? = group.layout?)
    (hfields : (Round.fields ⟨id, page⟩ group).isSome)
    (hchannels : ∀ name channel, after.channel? name = some channel →
      Reflected (⟨id, page⟩ :: rounds) id group name channel) :
    Reflects (⟨id, page⟩ :: rounds) ({ device with tables }.withGroup after) := by
  have hlookup : ∀ other found, ({ device with tables }.withGroup after).group? other = some found →
      (other = id ∧ found = after) ∨ (other ≠ id ∧ device.group? other = some found) := by
    intro other found hfound
    rw [group?_withGroup, hname] at hfound
    by_cases hother : other = id
    · rw [if_pos (by simp [hother])] at hfound
      exact .inl ⟨hother, (Option.some.inj hfound).symm⟩
    · rw [if_neg (by simpa using hother)] at hfound
      exact .inr ⟨hother, hfound⟩
  refine ⟨hreflects.named.withGroup hnamed tables, ?_, ?_⟩
  · intro round hround found hfound
    rcases hlookup _ found hfound with ⟨hid, rfl⟩ | ⟨hid, hkept⟩
    · rw [Round.fields_congr hnames hlayout]
      rcases List.mem_cons.mp hround with rfl | hround
      · exact hfields
      · exact hreflects.round round hround group (hid ▸ hgroup)
    · rcases List.mem_cons.mp hround with rfl | hround
      · exact absurd rfl hid
      · exact hreflects.round round hround found hkept
  · intro other found name channel hfound hchannel
    rcases hlookup other found hfound with ⟨rfl, rfl⟩ | ⟨hid, hkept⟩
    · exact (hchannels name channel hchannel).congr hnames hlayout
    · obtain ⟨hdeclared, hraw, hscaled, hdecoded⟩ :=
        hreflects.channel other found name channel hkept hchannel
      refine ⟨hdeclared, ?_, hscaled, hdecoded⟩
      rw [lastText_cons, if_neg (Ne.symm hid), Option.none_or, hraw]

theorem Reflects.taken {rounds : List Round} {device : Device} (hreflects : Reflects rounds device)
    {id page : String} {group group' : Group} {layout : Group.Layout} {fields : List (Option String)}
    {tables tables' : CodeTables} {network network' : Network} (time : Int)
    (hgroup : device.group? id = some group) (hlayout : group.layout? = some layout)
    (hfields : Group.extract layout group.names.length page = some fields)
    (htaken : Group.TakenIn (group.names.zip fields) tables group network tables' group' network') :
    Reflects (⟨id, some page⟩ :: rounds)
      ({ device with tables := tables' }.withGroup { group' with lastFetch := time }) := by
  have hnamed := hreflects.named.channel id group hgroup
  have hfields' : Round.fields ⟨id, some page⟩ group = some fields := by
    simp only [Round.fields, Option.bind_eq_bind, Option.bind_some, hlayout, hfields]
  have hkept := htaken.eq_with_channels
  refine hreflects.cons tables' hgroup ?_ (htaken.named hnamed) ?_ ?_ ?_ ?_
  · rw [hkept]
    exact hreflects.named.group id group hgroup
  · rw [hkept]
  · rw [hkept]
    rfl
  · rw [hfields']
    rfl
  · intro name channel' hchannel'
    cases hchannel : group.channel? name with
    | none =>
        have hnone := htaken.channel?_eq_none hnamed hchannel
        exact absurd (hchannel'.symm.trans hnone) (by simp)
    | some channel =>
        have hreflected := hreflects.channel id group name channel hgroup hchannel
        have htaken' : group'.channel? name = some channel' := hchannel'
        exact hreflected.taken hnamed hchannel htaken' hfields' htaken

theorem Reflects.asked {rounds : List Round} {device : Device} (hreflects : Reflects rounds device)
    (operation : Operation) (network : Network) :
    Reflects ((operation.round? device network).toList ++ rounds)
      ((operation.run device).run network).1 := by
  rw [operation.run_fst, Operation.round?]
  cases htarget : operation.group? device with
  | none => exact hreflects
  | some id =>
      simp only [Option.bind_eq_bind, Option.bind_some]
      cases hgroup : device.group? id with
      | none =>
          simp only [refresh, hgroup, Online.run_pure]
          exact hreflects
      | some group =>
          have hname := hreflects.named.group id group hgroup
          generalize hrun : (device.refresh id).run network = outcome
          obtain ⟨⟨after, changed⟩, network'⟩ := outcome
          obtain ⟨tables, group', hrounded, rfl⟩ := rounded_refresh hgroup hrun
          cases changed with
          | false =>
              -- no round joins the list, so the device has to be the very same
              obtain ⟨rfl, rfl⟩ := hrounded.eq_of_failed
              have hsame : device.withGroup group' = device :=
                withGroup_eq_self (by rw [hname]; exact hgroup)
              rw [hsame]
              exact hreflects
          | true =>
              cases hrounded with
              | taken _ hlayout hurl hpage hfields htaken =>
                  rw [pageFor_eq hgroup hurl, hpage]
                  exact hreflects.taken _ hgroup hlayout hfields htaken

theorem Run.reflects {start device : Device} {rounds : List Round} (hstart : Reflects [] start)
    (hrun : Run start rounds device) : Reflects rounds device := by
  induction hrun with
  | start => exact hstart
  | asked _ operation network ih => exact ih.asked operation network

theorem reflects_of_build {properties : Properties} {host : Option String} {timeout : Int}
    {journal : Log.Journal} {device : Device}
    (hbuild : ((build properties host timeout).run.run journal).1 = .ok device) :
    Reflects [] device := by
  obtain ⟨probe, rfl⟩ := exists_eq_assembled properties host timeout hbuild
  refine ⟨(wellFormed_assembled properties host timeout probe).named, ?_, ?_⟩
  · intro round hround
    contradiction
  · intro id group name channel hgroup hchannel
    obtain ⟨hname, hempty⟩ := pristine_assembled properties host timeout probe hgroup name channel
      hchannel
    refine ⟨hname, hempty.raw, ?_, fun _ => ?_⟩
    · rw [hempty.scaled, hempty.raw]
      rfl
    · rw [hempty.decoded, hempty.scaled]

theorem lastText_eq_none {rounds : List Round} {id : String}
    (hrounds : rounds.find? (·.group = id) = none) (group : Group) (name : String) :
    lastText rounds id group name = none := by
  rw [lastText, List.findSome?_eq_none_iff]
  intro round hround
  have hid := List.find?_eq_none.mp hrounds round hround
  rw [if_neg (by simpa using hid)]

theorem lastText_eq_some {rounds : List Round} {round : Round} {id name text : String} {group : Group}
    {fields : List (Option String)} (hrounds : rounds.find? (·.group = id) = some round)
    (hfields : round.fields group = some fields)
    (htext : Group.lastField (group.names.zip fields) name = some text) :
    lastText rounds id group name = some text := by
  induction rounds with
  | nil => contradiction
  | cons first rounds ih =>
      rw [lastText_cons]
      by_cases hid : first.group = id
      · rw [List.find?_cons_of_pos (by simpa using hid)] at hrounds
        obtain rfl := Option.some.inj hrounds
        rw [if_pos hid, hfields, Option.bind_some, htext]
        rfl
      · rw [List.find?_cons_of_neg (by simpa using hid)] at hrounds
        rw [if_neg hid, Option.none_or]
        exact ih hrounds

/-- The channels of a device tell the rounds that it has been through. -/
theorem channel_of_run {properties : Properties} {host : Option String} {timeout : Int}
    {journal : Log.Journal} {start device : Device} {rounds : List Round}
    (hbuild : ((build properties host timeout).run.run journal).1 = .ok start)
    (hrun : Run start rounds device) {id : String} {group : Group}
    (hgroup : device.group? id = some group) :
    (∀ round ∈ rounds, round.group = id →
      ∃ page line fields, round.page = some page ∧ group.QualifiesIn page line fields ∧
        round.fields group = some fields) ∧
    (∀ name channel, group.channel? name = some channel →
      channel.raw = lastText rounds id group name ∧
      channel.scaled = channel.raw.map (Channel.scaledText channel.factor) ∧
      (channel.decoding = none → channel.decoded = channel.scaled)) ∧
    (∀ separator, group.layout? = some (.separated separator) → separator.groups = 0 →
      (rounds.find? (·.group = id) = none ∧
        ∀ name channel, group.channel? name = some channel → channel.raw = none) ∨
      ∃ round page line fields, rounds.find? (·.group = id) = some round ∧
        round.page = some page ∧ group.QualifiesIn page line fields ∧
        ∀ name channel, group.channel? name = some channel →
          channel.raw.isSome ∧ channel.raw = Group.lastField (group.names.zip fields) name) := by
  have hreflects := hrun.reflects (reflects_of_build hbuild)
  have hfields : ∀ round ∈ rounds, round.group = id →
      ∃ page line fields, round.page = some page ∧ group.QualifiesIn page line fields ∧
        round.fields group = some fields := by
    intro round hround hid
    obtain ⟨fields, hfields⟩ := Option.isSome_iff_exists.mp
      (hreflects.round round hround group (hid ▸ hgroup))
    have htaken := hfields
    simp only [Round.fields, Option.bind_eq_bind, Option.bind_eq_some_iff] at htaken
    obtain ⟨page, hpage, layout, hlayout, hextract⟩ := htaken
    obtain ⟨line, hline⟩ := Group.exists_qualifiesIn hlayout hextract
    exact ⟨page, line, fields, hpage, hline, hfields⟩
  refine ⟨hfields, ?_, ?_⟩
  · intro name channel hchannel
    obtain ⟨-, hraw, hscaled, hdecoded⟩ := hreflects.channel id group name channel hgroup hchannel
    exact ⟨hraw, hscaled, hdecoded⟩
  · intro separator hlayout hgroups
    cases hfind : rounds.find? (·.group = id) with
    | none =>
        refine .inl ⟨rfl, fun name channel hchannel => ?_⟩
        rw [(hreflects.channel id group name channel hgroup hchannel).raw]
        exact lastText_eq_none hfind group name
    | some round =>
        have hid : round.group = id := by simpa using List.find?_some hfind
        obtain ⟨page, line, fields, hpage, hline, htaken⟩ :=
          hfields round (List.mem_of_find?_eq_some hfind) hid
        refine .inr ⟨round, page, line, fields, rfl, hpage, hline, ?_⟩
        obtain ⟨layout, -, -, hlayout', -, hcut, hlength, -⟩ := hline
        obtain rfl := Option.some.inj (hlayout.symm.trans hlayout')
        intro name channel hchannel
        have hreflected := hreflects.channel id group name channel hgroup hchannel
        have hsome := Group.isSome_lastField hlength
          (fun field hfield => Group.isSome_of_mem_cut hgroups hcut hfield) hreflected.declared
        obtain ⟨text, htext⟩ := Option.isSome_iff_exists.mp hsome
        rw [hreflected.raw, lastText_eq_some hfind htaken htext, htext]
        exact ⟨rfl, rfl⟩

def builtMeter : Device :=
  ((build meterProfile (some "host") 3000).run.run []).1.toOption.getD meter

theorem build_meterProfile :
    ((build meterProfile (some "host") 3000).run.run []).1 = .ok builtMeter :=
  eq_ok_getD_of_isSome (by decide +kernel) meter

theorem channel_of_run_builtMeter :
    ((build meterProfile (some "host") 3000).run.run []).1 = .ok builtMeter ∧
      ∃ rounds device group, Run builtMeter rounds device ∧ device.group? "live" = some group ∧
        rounds = [⟨"live", some "# values\n42;3;"⟩] ∧
        ∀ name channel, group.channel? name = some channel →
          channel.raw = lastText rounds "live" group name := by
  have hround : Operation.round? (.currentText "status") builtMeter meterNetwork =
      some ⟨"live", some "# values\n42;3;"⟩ := by
    decide +kernel
  have hgroup : ((((Operation.currentText "status").run builtMeter).run meterNetwork).1.group?
      "live").isSome = true := by
    decide +kernel
  obtain ⟨group, hgroup⟩ := Option.isSome_iff_exists.mp hgroup
  have hrun : Run builtMeter _ _ := Run.start.asked (.currentText "status") meterNetwork
  refine ⟨build_meterProfile, _, _, group, hrun, hgroup, by rw [hround]; rfl, ?_⟩
  intro name channel hchannel
  exact ((channel_of_run build_meterProfile hrun hgroup).2.1 name channel hchannel).1

end Telemetry.Device
