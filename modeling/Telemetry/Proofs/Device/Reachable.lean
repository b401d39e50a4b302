import Telemetry.Proofs.Device.Windows
import Telemetry.Proofs.Reading.Validity

namespace Telemetry

namespace Channel

theorem IsEmpty.isSettled {channel : Channel} (hempty : channel.IsEmpty) : channel.IsSettled :=
  fun _ => ⟨hempty.raw, hempty.decoded⟩

theorem Updated.isSettled {channel after : Channel} {tables tables' : CodeTables}
    {network network' : Network} {raw : Option String}
    (hupdated : Updated channel tables network raw tables' after network')
    (hsettled : channel.IsSettled) : after.IsSettled := by
  cases raw with
  | none => rwa [hupdated.eq_of_none]
  | some text =>
      obtain ⟨decoded, rfl, -⟩ := hupdated.exists_holding
      intro hnone
      contradiction

end Channel

namespace Group

/-- Are the channels under their names, and settled? -/
structure IsSettled (group : Group) : Prop where
  named : group.Named
  channel : ∀ name channel, group.channel? name = some channel → channel.IsSettled

theorem IsSettled.withChannel {group : Group} (hsettled : group.IsSettled) {channel : Channel}
    (hchannel : channel.IsSettled) : (group.withChannel channel).IsSettled := by
  refine ⟨named_withChannel hsettled.named channel, ?_⟩
  intro name found hfound
  rw [channel?_withChannel] at hfound
  split at hfound
  · rwa [← Option.some.inj hfound]
  · exact hsettled.channel name found hfound

theorem TakenIn.isSettled {fields : List (String × Option String)} {tables tables' : CodeTables}
    {group group' : Group} {network network' : Network}
    (htaken : TakenIn fields tables group network tables' group' network')
    (hsettled : group.IsSettled) : group'.IsSettled := by
  induction htaken with
  | done => exact hsettled
  | passed _ _ ih => exact ih hsettled
  | updated hchannel hupdated _ ih =>
      have hafter := hupdated.isSettled (hsettled.channel _ _ hchannel)
      exact ih (hsettled.withChannel hafter)

theorem Rounded.isSettled {group group' : Group} {tables tables' : CodeTables}
    {network network' : Network} {changed : Bool}
    (hrounded : Rounded group tables network tables' group' changed network')
    (hsettled : group.IsSettled) : group'.IsSettled := by
  cases hrounded with
  | fresh | unlaid | unlocated | unanswered | unmatched => exact hsettled
  | taken _ _ _ _ _ htaken =>
      have hgroup := htaken.isSettled hsettled
      exact ⟨hgroup.named, hgroup.channel⟩

theorem Rounded.name_eq {group group' : Group} {tables tables' : CodeTables}
    {network network' : Network} {changed : Bool}
    (hrounded : Rounded group tables network tables' group' changed network') :
    group'.name = group.name := by
  cases hrounded with
  | fresh | unlaid | unlocated | unanswered | unmatched => rfl
  | taken _ _ _ _ _ htaken => rw [htaken.eq_with_channels]

theorem Rounded.isSome_channel? {group group' : Group} {tables tables' : CodeTables}
    {network network' : Network} {changed : Bool}
    (hrounded : Rounded group tables network tables' group' changed network') (hnamed : group.Named)
    {name : String} {channel : Channel} (hchannel : group.channel? name = some channel) :
    ∃ after, group'.channel? name = some after := by
  cases hrounded with
  | fresh | unlaid | unlocated | unanswered | unmatched => exact ⟨channel, hchannel⟩
  | taken _ _ _ _ _ htaken =>
      rcases htaken.channel?_eq hnamed hchannel with ⟨-, hsame⟩ | ⟨raw, decoded, -, hheld, -⟩
      · exact ⟨channel, hsame⟩
      · exact ⟨_, hheld⟩

end Group

namespace Device

/-- The states that a device can come to. -/
inductive Reachable (start : Device) : Device → Prop
  | start : Reachable start start
  | called {device : Device} (hreachable : Reachable start device) (call : Call)
      (network : Network) : Reachable start ((call.run device).run network).1
  | updated {device : Device} (hreachable : Reachable start device) (name : String)
      (raw : Option String) (network : Network) :
      Reachable start ((device.update name raw).run network).1
  | timed {device : Device} (hreachable : Reachable start device) (timeout : Int) :
      Reachable start (device.withTimeout timeout)

/-- Are the groups under their names, and settled? -/
structure IsSettled (device : Device) : Prop where
  name : ∀ id group, device.group? id = some group → group.name = id
  group : ∀ id group, device.group? id = some group → group.IsSettled

namespace IsSettled

variable {device : Device}

theorem withGroup (hsettled : device.IsSettled) {group : Group} (hgroup : group.IsSettled)
    (tables : CodeTables) : ({ device with tables }.withGroup group).IsSettled := by
  have hlookup : ∀ id found, ({ device with tables }.withGroup group).group? id = some found →
      found.name = id ∧ found.IsSettled := by
    intro id found hfound
    rw [group?_withGroup] at hfound
    split at hfound
    · rename_i hid
      obtain rfl := Option.some.inj hfound
      exact ⟨(eq_of_beq hid).symm, hgroup⟩
    · exact ⟨hsettled.name id found hfound, hsettled.group id found hfound⟩
  exact ⟨fun id found hfound => (hlookup id found hfound).1,
    fun id found hfound => (hlookup id found hfound).2⟩

theorem round (hsettled : device.IsSettled) {id : String} {group : Group}
    (hgroup : device.group? id = some group) (network : Network) :
    ((device.round group).run network).1.1.IsSettled := by
  have hrounded := group.rounded_round device.tables network
  exact hsettled.withGroup (hrounded.isSettled (hsettled.group id group hgroup)) _

theorem channel?_round (hsettled : device.IsSettled) {name : String} {group : Group}
    {channel : Channel} (hchannel : device.channel? name = some (group, channel))
    (network : Network) :
    ∃ found, ((device.round group).run network).1.1.channel? name = some found := by
  obtain ⟨id, hid, hgroup, hfound⟩ := channel?_eq_some_iff.mp hchannel
  have hrounded := group.rounded_round device.tables network
  obtain ⟨after, hafter⟩ :=
    hrounded.isSome_channel? (hsettled.group id group hgroup).named hfound
  have hname := hrounded.name_eq.trans (hsettled.name id group hgroup)
  refine ⟨(_, after), channel?_eq_some_iff.mpr ⟨id, hid, ?_, hafter⟩⟩
  simp only [Device.round, Online.run_bind, Online.run_pure]
  rw [group?_withGroup, hname, if_pos (beq_self_eq_true id)]

theorem refresh (hsettled : device.IsSettled) (id : String) (network : Network) :
    ((device.refresh id).run network).1.1.IsSettled := by
  cases hgroup : device.group? id with
  | none =>
      simp only [Device.refresh, hgroup, Online.run_pure]
      exact hsettled
  | some group =>
      simp only [Device.refresh, hgroup]
      exact hsettled.round hgroup network

theorem resolve (hsettled : device.IsSettled) (table value source target : String)
    (network : Network) :
    ((device.resolve table value source target).run network).1.1.IsSettled := by
  unfold Device.resolve
  cases device.table? table with
  | none => exact hsettled
  | some found => exact ⟨hsettled.name, hsettled.group⟩

theorem call (hsettled : device.IsSettled) (call : Call) (network : Network) :
    ((call.run device).run network).1.IsSettled := by
  cases call with
  | ask operation =>
      rw [Call.run, operation.run_fst]
      cases operation.group? device with
      | none => exact hsettled
      | some id => exact hsettled.refresh id network
  | resolve table value source target => exact hsettled.resolve table value source target network

theorem update (hsettled : device.IsSettled) (name : String) (raw : Option String)
    (network : Network) : ((device.update name raw).run network).1.IsSettled := by
  unfold Device.update
  cases hchannel : device.channel? name with
  | none => exact hsettled
  | some found =>
      obtain ⟨group, channel⟩ := found
      obtain ⟨id, -, hgroup, hfound⟩ := channel?_eq_some_iff.mp hchannel
      have hsettled' := hsettled.group id group hgroup
      have hupdated := channel.updated_update device.tables raw network
      have hafter := hupdated.isSettled (hsettled'.channel name channel hfound)
      exact hsettled.withGroup (hsettled'.withChannel hafter) _

theorem withTimeout (hsettled : device.IsSettled) (timeout : Int) :
    (device.withTimeout timeout).IsSettled := by
  have hlookup : ∀ id, (device.withTimeout timeout).group? id =
      (device.group? id).map fun group => { group with timeout } :=
    fun id =>
      Keyed.lookup_map (fun group : Group => ({ group with timeout } : Group)) device.groups id
  constructor
  · intro id found hfound
    rw [hlookup, Option.map_eq_some_iff] at hfound
    obtain ⟨group, hgroup, rfl⟩ := hfound
    exact hsettled.name id group hgroup
  · intro id found hfound
    rw [hlookup, Option.map_eq_some_iff] at hfound
    obtain ⟨group, hgroup, rfl⟩ := hfound
    have hgroup' := hsettled.group id group hgroup
    exact ⟨hgroup'.named, hgroup'.channel⟩

end IsSettled

theorem isSettled_of_build {properties : Properties} {host : Option String} {timeout : Int}
    {journal : Log.Journal} {device : Device}
    (hbuild : ((build properties host timeout).run.run journal).1 = .ok device) :
    device.IsSettled := by
  obtain ⟨probe, rfl⟩ := exists_eq_assembled properties host timeout hbuild
  have hformed := wellFormed_assembled properties host timeout probe
  refine ⟨hformed.named.group, fun id group hgroup => ⟨hformed.named.channel id group hgroup, ?_⟩⟩
  intro name channel hchannel
  exact (pristine_assembled properties host timeout probe hgroup name channel hchannel).2.isSettled

theorem Reachable.isSettled {start device : Device} (hreachable : Reachable start device)
    (hstart : start.IsSettled) : device.IsSettled := by
  induction hreachable with
  | start => exact hstart
  | called _ call network ih => exact ih.call call network
  | updated _ name raw network ih => exact ih.update name raw network
  | timed _ timeout ih => exact ih.withTimeout timeout

end Device

end Telemetry
