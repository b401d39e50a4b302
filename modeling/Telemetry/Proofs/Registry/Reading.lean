import Telemetry.Proofs.Channel.Update
import Telemetry.Proofs.Network.Use
import Telemetry.Registry

namespace Telemetry

open Online

namespace CodeTable

variable {pings : Bool} (table : CodeTable)

theorem exists_gives_resolveCached (way : Direction) (input : String) :
    ∃ found, Log.Gives (table.resolveCached way input) found := by
  unfold resolveCached
  split
  · exact ⟨_, (Log.gives_note _).bind (Log.gives_pure _)⟩
  · exact ⟨_, Log.gives_pure _⟩

theorem exists_gives_resolveFresh (way : Direction) (source target input : String) :
    ∃ found, Log.Gives (table.resolveFresh way source target input) found := by
  obtain ⟨found, hfound⟩ := table.exists_gives_resolveCached way input
  unfold resolveFresh
  split
  · exact ⟨found, hfound⟩
  · split
    · exact ⟨_, (Log.gives_note _).bind (Log.gives_pure _)⟩
    · exact ⟨found, (Log.gives_note _).bind hfound⟩

theorem uses_isStaleNow : Uses true pings table.isStaleNow := by
  unfold isStaleNow
  split
  · exact (Uses.now rfl).bind fun _ => .pure _
  · exact .pure true

theorem uses_resolveFetched (way : Direction) (input : String) :
    Uses true pings (table.resolveFetched way input) := by
  unfold resolveFetched
  split
  · exact (Uses.note _).bind fun _ => .pure _
  · refine (Uses.fetch _ _).bind fun page => ?_
    split
    · exact (Uses.note _).bind fun _ => .pure _
    · refine (Uses.now rfl).bind fun time => ?_
      split
      split
      · exact (Uses.note _).bind fun _ => .pure _
      · exact .pure _

theorem uses_resolve (input source target : String) :
    Uses true pings (table.resolve input source target) := by
  unfold resolve
  split
  · exact (Uses.note _).bind fun _ => .pure _
  · refine table.uses_isStaleNow.bind fun isStale => ?_
    split
    · exact table.uses_resolveFetched _ input
    · obtain ⟨found, hfound⟩ := table.exists_gives_resolveFresh _ source target input
      exact .noting hfound

end CodeTable

namespace Channel

variable {pings : Bool} (channel : Channel) (tables : CodeTables)

theorem uses_decode (scaled : String) : Uses true pings (channel.decode tables scaled) := by
  unfold decode
  split
  · exact .pure _
  · split
    · exact .pure _
    · exact (CodeTable.uses_resolve _ _ _ _).bind fun _ => .pure _

theorem uses_update (raw : Option String) : Uses true pings (channel.update tables raw) := by
  unfold update
  split
  · exact .pure _
  · rename_i text
    have hscale : Log.Gives (channel.scale text) (scaledText channel.factor text) :=
      channel.run_scale_fst text
    refine Uses.bind (.noting hscale) fun scaled => ?_
    exact (channel.uses_decode tables scaled).bind fun _ => .pure _

theorem exists_gives_reading (kind : Kind) :
    ∃ reading, Log.Gives (channel.reading tables kind) reading := by
  unfold reading Reading.create
  split
  split
  · exact ⟨none, Log.gives_pure _⟩
  · split
    · exact ⟨_, Log.gives_pure _⟩
    · exact ⟨none, (Log.gives_note _).bind (Log.gives_pure _)⟩

end Channel

namespace Group

variable {pings : Bool}

theorem uses_isStaleNow (group : Group) : Uses true pings group.isStaleNow := by
  unfold isStaleNow
  split
  · exact (Uses.now rfl).bind fun _ => .pure _
  · exact .pure true

theorem uses_takeIn (fields : List (String × Option String)) (tables : CodeTables) (group : Group) :
    Uses true pings (takeIn fields tables group) := by
  induction fields generalizing tables group with
  | nil => exact .pure _
  | cons field fields ih =>
      unfold takeIn
      split
      · exact ih tables group
      · exact (Channel.uses_update _ tables _).bind fun _ => ih _ _

theorem uses_round (group : Group) (tables : CodeTables) :
    Uses true pings (group.round tables) := by
  unfold round
  refine group.uses_isStaleNow.bind fun isStale => ?_
  split
  · exact (Uses.note _).bind fun _ => .pure _
  · split
    · exact (Uses.note _).bind fun _ => .pure _
    · exact (Uses.note _).bind fun _ => .pure _
    · refine (Uses.fetch _ _).bind fun page => ?_
      split
      · exact (Uses.note _).bind fun _ => .pure _
      · unfold takePage
        split
        · exact (Uses.note _).bind fun _ => .pure _
        · refine (uses_takeIn _ tables group).bind fun _ => ?_
          exact (Uses.now rfl).bind fun _ => .pure _

end Group

namespace Device

variable {pings : Bool} (device : Device)

theorem uses_read (name : String) : Uses true pings (device.read name) := by
  unfold read
  split
  · exact (Uses.note _).bind fun _ => .pure _
  · exact (Uses.bind (Group.uses_round _ _) fun _ => .pure _).bind fun _ => .pure _

theorem uses_refresh (name : String) : Uses true pings (device.refresh name) := by
  unfold refresh
  split
  · exact (Group.uses_round _ _).bind fun _ => .pure _
  · exact .pure _

theorem uses_reading (name : String) (kind : Kind) : Uses true pings (device.reading name kind) := by
  unfold reading
  refine (device.uses_read name).bind fun result => ?_
  obtain ⟨device, channel⟩ := result
  cases channel with
  | none => exact .pure _
  | some channel =>
      obtain ⟨reading, hreading⟩ := channel.exists_gives_reading device.tables kind
      exact Uses.bind (.noting hreading) fun _ => .pure _

end Device

theorem Registry.uses_reading {pings : Bool} (registry : Registry) (server : Scalar)
    (channel : String) (kind : Kind) : Uses true pings (registry.reading server channel kind) := by
  unfold reading
  split
  · exact (Uses.note _).bind fun _ => .pure _
  · exact (Device.uses_reading _ channel kind).bind fun _ => .pure _

end Telemetry
