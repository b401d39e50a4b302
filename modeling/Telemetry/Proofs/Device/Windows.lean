import Telemetry.Proofs.Device.Trace

namespace Telemetry

open Cache (Event Window Obeys Step Accounts lastStamp times stamps obeys_append_of_other obeys_of_other
  lastStamp_of_other)

namespace Group.Traced

variable {group group' : Group} {id : String} {tables tables' : CodeTables}
  {network network' : Network} {events : List Event}

theorem obeys (htraced : Traced group id tables network events tables' group' network')
    {window : Window} (hwindow : group.window? = some window) :
    Obeys (.group id) window.interval window.stamp none events ∧
      group'.window? = some { window with stamp := lastStamp (.group id) window.stamp events } := by
  have hkept := hwindow
  unfold window? at hwindow
  split at hwindow
  · rename_i hcached
    obtain rfl := Option.some.inj hwindow
    have hshown : network.shown group.cached = some network.reading := by
      rw [hcached]
      rfl
    have hstale_eq : group.isStale network.reading =
        Refresh.isStale group.lastFetch group.refresh network.reading := by
      rw [isStale, hcached]
      rfl
    cases htraced with
    | kept =>
        refine ⟨?_, hkept⟩
        simp [Obeys, hshown]
    | failed hstale =>
        rw [hstale_eq] at hstale
        refine ⟨?_, hkept⟩
        simp [Obeys, hshown, hstale]
    | @taken _ inner _ _ between hstale _ hafter htables =>
        rw [hstale_eq] at hstale
        -- what happens to the tables in between does not concern the group
        have hother : ∀ event ∈ inner, event.cache ≠ .group id := by
          intro event hevent
          obtain ⟨table, htable⟩ := htables.isTable event hevent
          simp [htable]
        refine ⟨?_, ?_⟩
        · simp [Obeys, hshown, hstale, obeys_append_of_other hother]
        · rw [hafter, hkept]
          simp [lastStamp, stamps, Event.stamp?]
  · contradiction

theorem step (htraced : Traced group id tables network events tables' group' network') :
    Step (tableWindows tables) events (tableWindows tables') := by
  have hsingle : ∀ (event : Event) (tables : CodeTables), event.cache = .group id →
      Step (tableWindows tables) [event] (tableWindows tables) := by
    rintro event tables hevent (other | other) window hwindow
    · contradiction
    · have hother : ∀ event' ∈ [event], event'.cache ≠ .table other := by simp [hevent]
      rw [lastStamp_of_other hother]
      exact ⟨obeys_of_other hother, hwindow⟩
  cases htraced with
  | kept | failed => exact hsingle _ tables rfl
  | taken _ _ _ htables =>
      exact (hsingle _ tables rfl).trans (htables.step.trans (hsingle _ tables' rfl))

theorem cleared (htraced : Traced group id tables network events tables' group' network') (id : String) :
    (tables'.lookup id).map CodeTable.cleared = (tables.lookup id).map CodeTable.cleared := by
  cases htraced with
  | kept | failed => rfl
  | taken _ _ _ htables => exact htables.cleared id

end Group.Traced

namespace Device

/-- The windows of the cached groups and tables. -/
def windows (device : Device) : Cache → Option Window
  | .group id => (device.group? id).bind Group.window?
  | .table id => (device.table? id).bind CodeTable.window?

/-- Do the groups and the tables stand under their own names? -/
structure UnderNames (device : Device) : Prop where
  group : ∀ id group, device.group? id = some group → group.name = id
  table : ∀ id table, device.table? id = some table → table.name = id

theorem WellFormed.underNames {device : Device} (hdevice : device.WellFormed) : device.UnderNames :=
  ⟨fun id group hgroup => (hdevice.group id group hgroup).1, hdevice.table⟩

/-- A call on a device. -/
inductive Call where
  | ask (operation : Operation)
  | resolve (table value source target : String)
deriving DecidableEq, Repr

namespace Call

def run (call : Call) (device : Device) : Online Device :=
  match call with
  | ask operation => operation.run device
  | resolve table value source target => Prod.fst <$> device.resolve table value source target

/-- What a call does to the caches of the device. -/
def trace (call : Call) (device : Device) (network : Network) : List Event :=
  match call with
  | ask operation =>
    ((operation.group? device).bind device.group?).elim [] fun group =>
      group.trace group.name device.tables network
  | resolve table value source target =>
    (device.table? table).elim [] fun found => found.trace table value source target network

end Call

/-- What a call preserves, and what it has done to the caches. -/
structure Traced (device : Device) (network : Network) (events : List Event) (after : Device)
    (network' : Network) : Prop where
  names : after.UnderNames
  step : Step device.windows events after.windows
  stamped : ∀ id, stamps (.group id) events = [] → after.group? id = device.group? id
  accounts : Accounts network events network'

theorem Traced.idle {device : Device} (hnames : device.UnderNames) (network : Network)
    (journal : Log.Journal) : Traced device network [] device (network.reported journal) :=
  ⟨hnames, .refl _, fun _ _ => rfl, (List.append_nil _).symm, rfl⟩

theorem traced_round {device : Device} (hnames : device.UnderNames) {id : String} {group : Group}
    (hgroup : device.group? id = some group) (network : Network) :
    Traced device network (group.trace id device.tables network)
      ((device.round group).run network).1.1 ((device.round group).run network).2 := by
  have htraced := group.traced_trace id device.tables network
  have hname := hnames.group id group hgroup
  simp only [round, Online.run_bind, Online.run_pure]
  generalize (group.round device.tables).run network = outcome at *
  obtain ⟨⟨⟨tables', group'⟩, changed⟩, network'⟩ := outcome
  dsimp only at htraced ⊢
  have hname' : group'.name = id := htraced.name_eq.trans hname
  have hlookup : ∀ other, ({ device with tables := tables' }.withGroup group').group? other =
      if other == id then some group' else device.group? other := by
    intro other
    rw [group?_withGroup, hname']
    rfl
  constructor
  · constructor
    · intro other found hfound
      rw [hlookup] at hfound
      split at hfound
      · rename_i hother
        obtain rfl := Option.some.inj hfound
        rw [hname', eq_of_beq hother]
      · exact hnames.group other found hfound
    · intro other found hfound
      have hcleared := htraced.cleared other
      have hfound' : tables'.lookup other = some found := hfound
      rw [hfound', Option.map_some] at hcleared
      obtain ⟨table, htable, hcleared⟩ := Option.map_eq_some_iff.mp hcleared.symm
      rw [← hnames.table other table htable]
      exact (congrArg CodeTable.name hcleared).symm
  · rintro (other | other) window hwindow
    · by_cases hother : other = id
      · subst hother
        simp only [windows, hgroup, Option.bind_some] at hwindow
        simp only [windows, hlookup, beq_self_eq_true, if_true, Option.bind_some]
        exact htraced.obeys hwindow
      · have hevents := htraced.of_other hother
        refine ⟨obeys_of_other hevents, ?_⟩
        rw [lastStamp_of_other hevents, windows, hlookup, if_neg (by simpa using hother)]
        exact hwindow
    · exact htraced.step (.table other) window hwindow
  · intro other hstamps
    rw [hlookup]
    split
    · rename_i hother
      rw [eq_of_beq hother] at hstamps ⊢
      rw [htraced.eq_of_stamps_eq_nil hstamps, hgroup]
    · rfl
  · exact htraced.accounts

theorem Traced.reported {device after : Device} {network network' : Network} {events : List Event}
    (htraced : Traced device network events after network') (journal : Log.Journal) :
    Traced device network events after (network'.reported journal) :=
  ⟨htraced.names, htraced.step, htraced.stamped, htraced.accounts.requests, htraced.accounts.readings⟩

theorem traced_refresh {device : Device} (hnames : device.UnderNames) (id : String)
    (network : Network) :
    Traced device network
      ((device.group? id).elim [] fun group => group.trace group.name device.tables network)
      ((device.refresh id).run network).1.1 ((device.refresh id).run network).2 := by
  cases hgroup : device.group? id with
  | none =>
      simp only [refresh, hgroup, Online.run_pure]
      exact .idle hnames network network.journal
  | some group =>
      simp only [refresh, hgroup]
      rw [Option.elim_some, hnames.group id group hgroup]
      exact traced_round hnames hgroup network

theorem traced_read {device : Device} (hnames : device.UnderNames) (name : String)
    (network : Network) :
    Traced device network
      ((((device.channel? name).bind fun _ => device.index.lookup name).bind device.group?).elim []
        fun group => group.trace group.name device.tables network)
      ((device.read name).run network).1.1 ((device.read name).run network).2 := by
  cases hchannel : device.channel? name with
  | none =>
      simp only [read, hchannel, Online.run_bind, Online.run_note, Online.run_pure]
      exact .idle hnames network _
  | some found =>
      obtain ⟨group, channel⟩ := found
      obtain ⟨id, hid, hgroup⟩ := exists_of_channel? hchannel
      have htraced := traced_refresh hnames id network
      simp only [refresh, hgroup] at htraced
      simp only [read, hchannel, Option.bind_some, hid, hgroup]
      exact htraced

theorem traced_resolve {device : Device} (hnames : device.UnderNames)
    (id value source target : String) (network : Network) :
    Traced device network ((Call.resolve id value source target).trace device network)
      (((Call.resolve id value source target).run device).run network).1
      (((Call.resolve id value source target).run device).run network).2 := by
  cases htable : device.table? id with
  | none =>
      simp only [Call.run, Call.trace, Device.resolve, htable, Online.run_map, Online.run_pure]
      exact .idle hnames network network.journal
  | some table =>
      simp only [Call.run, Call.trace, Device.resolve, htable, Online.run_map, Online.run_bind,
        Online.run_pure, Option.elim_some]
      have htraced := table.traced_trace id value source target network
      have hcleared := (table.resolved_resolve value source target network).cleared_eq
      generalize (table.resolve value source target).run network = outcome at *
      obtain ⟨⟨after, output⟩, network'⟩ := outcome
      dsimp only at htraced hcleared ⊢
      have hname : after.name = id :=
        (congrArg CodeTable.name hcleared).trans (hnames.table id table htable)
      have hstep := htraced.step htable
      have hwith : device.withTable after =
          { device with tables := device.tables.put id after } := by
        rw [withTable, hname]
      rw [hwith]
      constructor
      · refine ⟨hnames.group, fun other found hfound => ?_⟩
        rw [table?, Keyed.lookup_put] at hfound
        split at hfound
        · rename_i hother
          obtain rfl := Option.some.inj hfound
          rw [hname, eq_of_beq hother]
        · exact hnames.table other found hfound
      · rintro (other | other) window hwindow
        · have hevents : ∀ event ∈ table.trace id value source target network,
              event.cache ≠ .group other := by
            intro event hevent
            rw [htraced.cache_eq event hevent]
            simp
          rw [lastStamp_of_other hevents]
          exact ⟨obeys_of_other hevents, hwindow⟩
        · exact hstep (.table other) window hwindow
      · intro other hstamps
        rfl
      · exact htraced.accounts

theorem traced_call {device : Device} (hnames : device.UnderNames) (call : Call) (network : Network) :
    Traced device network (call.trace device network) ((call.run device).run network).1
      ((call.run device).run network).2 := by
  cases call with
  | ask operation =>
      cases operation with
      | currentText name => exact traced_read hnames name network
      | reading name kind =>
          have htraced := traced_read hnames name network
          simp only [Call.run, Operation.run, Device.reading, Online.run_map, Online.run_bind]
          split
          · exact htraced
          · exact htraced.reported _
      | groupChannel group name => exact traced_refresh hnames group network
      | refresh group => exact traced_refresh hnames group network
  | resolve id value source target => exact traced_resolve hnames id value source target network

/-- The devices that come of one by calls in any networks, with what has happened to the caches. -/
inductive Course (start : Device) : List Event → Device → Prop
  | start : Course start [] start
  | called {events : List Event} {device : Device} (hcourse : Course start events device) (call : Call)
      (network : Network) :
      Course start (events ++ call.trace device network) ((call.run device).run network).1

namespace Course

variable {start mid device : Device} {events later : List Event}

theorem names (hcourse : Course start events device) (hstart : start.UnderNames) :
    device.UnderNames := by
  induction hcourse with
  | start => exact hstart
  | called _ call network ih => exact (traced_call ih call network).names

theorem append (hearlier : Course start events mid) (hlater : Course mid later device) :
    Course start (events ++ later) device := by
  induction hlater with
  | start => rwa [List.append_nil]
  | called _ call network ih =>
      rw [← List.append_assoc]
      exact ih.called call network

theorem step (hcourse : Course start events device) (hstart : start.UnderNames) :
    Step start.windows events device.windows := by
  induction hcourse with
  | start => exact .refl _
  | called hcourse call network ih =>
      exact ih.trans (traced_call (hcourse.names hstart) call network).step

theorem group?_eq (hcourse : Course start events device) (hstart : start.UnderNames) {id : String}
    (hstamps : stamps (.group id) events = []) : device.group? id = start.group? id := by
  induction hcourse with
  | start => rfl
  | called hcourse call network ih =>
      rw [Cache.stamps_append, List.append_eq_nil_iff] at hstamps
      rw [(traced_call (hcourse.names hstart) call network).stamped id hstamps.2]
      exact ih hstamps.1

end Course

theorem underNames_of_build {properties : Properties} {host : Option String} {timeout : Int}
    {journal : Log.Journal} {device : Device}
    (hbuild : ((build properties host timeout).run.run journal).1 = .ok device) :
    device.UnderNames := by
  obtain ⟨probe, rfl⟩ := exists_eq_assembled properties host timeout hbuild
  exact (wellFormed_assembled properties host timeout probe).underNames

/-- While the clock does not run backwards, no cache makes a request in the window that its last stamp
has opened, and one that is to be kept for ever makes none after its first stamp. So while the clock
stands still, a group has one successful round at most, and stays as that has left it. -/
theorem windows_respected {start mid device : Device} (hnames : start.UnderNames)
    {earlier later : List Event} (hearlier : Course start earlier mid)
    (hlater : Course mid later device) (hpositive : ∀ time ∈ times (earlier ++ later), 0 < time)
    (hsorted : (times (earlier ++ later)).Pairwise (· ≤ ·)) :
    (∀ cache window, start.windows cache = some window → 0 < window.interval →
      ∀ before time after, earlier ++ later = before ++ .stored cache time :: after →
        (∀ next ∈ stamps cache after, time + window.interval ≤ next) ∧
        ∀ clock request, .asked cache clock (some request) ∈ after →
          ∃ now, clock = some now ∧ time + window.interval ≤ now) ∧
    (∀ cache window, start.windows cache = some window → window.interval = Refresh.once →
      (stamps cache (earlier ++ later)).length ≤ 1 ∧
      ∀ before time after, earlier ++ later = before ++ .stored cache time :: after →
        ∀ clock request, .asked cache clock request ∈ after → request = none) ∧
    (∀ id window, start.windows (.group id) = some window →
      window.interval = Refresh.once ∨ 0 < window.interval →
      (∀ time ∈ times (earlier ++ later), ∀ time' ∈ times (earlier ++ later), time = time') →
      (stamps (.group id) (earlier ++ later)).length ≤ 1 ∧
      (stamps (.group id) earlier ≠ [] → device.group? id = mid.group? id)) ∧
    ∀ call network, Accounts network (Call.trace call device network)
      ((call.run device).run network).2 := by
  have hcourse := hearlier.append hlater
  have hstep := hcourse.step hnames
  have hlate : ∀ cache window, start.windows cache = some window →
      window.interval = Refresh.once ∨ 0 < window.interval →
      ∀ before time after, earlier ++ later = before ++ .stored cache time :: after →
        ∀ event ∈ after, event.IsLate cache window.interval time := by
    intro cache window hwindow hinterval before time after hevents
    exact (hstep cache window hwindow).1.window hinterval hpositive hsorted hevents
  refine ⟨?_, ?_, ?_, ?_⟩
  · intro cache window hwindow hinterval before time after hevents
    have hafter := hlate cache window hwindow (.inr hinterval) before time after hevents
    refine ⟨fun next hnext => (Cache.isLate_of_mem_stamps hafter hnext).2, ?_⟩
    intro clock request hrequest
    obtain ⟨now, hnow, -, hle⟩ := hafter _ hrequest rfl rfl
    exact ⟨now, hnow, hle⟩
  · intro cache window hwindow honce
    have hafter := hlate cache window hwindow (.inl honce)
    refine ⟨Cache.length_stamps_le_one fun before time after hevents => ?_, ?_⟩
    · rw [List.eq_nil_iff_forall_not_mem]
      intro next hnext
      exact (Cache.isLate_of_mem_stamps (hafter before time after hevents) hnext).1 honce
    · intro before time after hevents clock request hrequest
      cases request with
      | none => rfl
      | some request =>
          obtain ⟨-, -, hne, -⟩ := hafter before time after hevents _ hrequest rfl rfl
          exact absurd honce hne
  · intro id window hwindow hinterval hstands
    have hone : (stamps (.group id) (earlier ++ later)).length ≤ 1 := by
      refine Cache.length_stamps_le_one fun before time after hevents => ?_
      rw [List.eq_nil_iff_forall_not_mem]
      intro next hnext
      obtain ⟨honce, hle⟩ := Cache.isLate_of_mem_stamps
        (hlate _ window hwindow hinterval before time after hevents) hnext
      have hstored : .stored (.group id) time ∈ earlier ++ later := by simp [hevents]
      have hstored' : .stored (.group id) next ∈ earlier ++ later := by
        simp [hevents, Cache.mem_stamps_iff.mp hnext]
      have hsame := hstands time (Cache.mem_times_of_stored hstored) next
        (Cache.mem_times_of_stored hstored')
      have hpositive' := hinterval.resolve_left honce
      omega
    refine ⟨hone, fun hstamped => hlater.group?_eq (hearlier.names hnames) ?_⟩
    rw [Cache.stamps_append, List.length_append] at hone
    have hlength := List.length_pos_iff.mpr hstamped
    exact List.eq_nil_of_length_eq_zero (by omega)
  · intro call network
    exact (traced_call (hcourse.names hnames) call network).accounts

/-- The events of calls one after another, and the device that they leave. -/
def afterCalls (device : Device) : List (Call × Network) → List Event × Device
  | [] => ([], device)
  | (call, network) :: calls =>
    let rest := afterCalls ((call.run device).run network).1 calls
    (call.trace device network ++ rest.1, rest.2)

theorem course_afterCalls (device : Device) (calls : List (Call × Network)) :
    Course device (afterCalls device calls).1 (afterCalls device calls).2 := by
  induction calls generalizing device with
  | nil => exact .start
  | cons call calls ih =>
      obtain ⟨call, network⟩ := call
      exact (Course.start.called call network).append (ih _)

/-- The meter is asked for its status, while its values are fresh, and when they have gone stale. -/
def meterCalls : List (Call × Network) := [
  (.ask (.currentText "status"), meterNetwork),
  (.ask (.reading "power" .number), { meterNetwork with now := 1500 }),
  (.ask (.refresh "live"), { meterNetwork with now := 6012 })]

theorem windows_respected_meter :
    ∃ earlier later mid device, Course builtMeter earlier mid ∧ Course mid later device ∧
      .stored (.group "live") 1012 ∈ earlier ∧
      .asked (.group "live") (some 1500) none ∈ later ∧
      (∃ request, .asked (.group "live") (some 6012) (some request) ∈ later) ∧
      ∀ clock request, .asked (.group "live") clock (some request) ∈ later →
        ∃ now, clock = some now ∧ 6012 ≤ now := by
  have hearlier := course_afterCalls builtMeter (meterCalls.take 1)
  have hlater := course_afterCalls (afterCalls builtMeter (meterCalls.take 1)).2 (meterCalls.drop 1)
  have hevents : (afterCalls builtMeter (meterCalls.take 1)).1 = [
      .asked (.group "live") (some 1000) (some ⟨"http://host/live", 3000⟩),
      .asked (.table "statuses") (some 1005) (some ⟨"http://host/statuses", 3000⟩),
      .stored (.table "statuses") 1012, .stored (.group "live") 1012] := by
    decide +kernel
  have hevents' : (afterCalls (afterCalls builtMeter (meterCalls.take 1)).2 (meterCalls.drop 1)).1 = [
      .asked (.group "live") (some 1500) none,
      .asked (.group "live") (some 6012) (some ⟨"http://host/live", 3000⟩),
      .asked (.table "statuses") (some 6017) (some ⟨"http://host/statuses", 3000⟩),
      .stored (.table "statuses") 6024, .stored (.group "live") 6024] := by
    decide +kernel
  have hwindow : builtMeter.windows (.group "live") = some ⟨5000, 0⟩ := by
    decide +kernel
  rw [hevents] at hearlier
  rw [hevents'] at hlater
  refine ⟨_, _, _, _, hearlier, hlater, by simp, by simp, ⟨⟨"http://host/live", 3000⟩, by simp⟩, ?_⟩
  have hnames := underNames_of_build build_meterProfile
  obtain ⟨hwindows, -⟩ := windows_respected hnames hearlier hlater (by decide) (by decide)
  exact (hwindows (.group "live") ⟨5000, 0⟩ hwindow (by decide) [_, _, _] 1012 _ rfl).2

end Device

end Telemetry
