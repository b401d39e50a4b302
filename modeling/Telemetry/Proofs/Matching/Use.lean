import Telemetry.Matching
import Telemetry.Proofs.Device.Build
import Telemetry.Proofs.Network.Use

namespace Telemetry

open Online

namespace Attempt

variable {clock pings : Bool} {α β : Type}

theorem run_run_bind (act : Attempt α) (next : α → Attempt β) (network : Network) :
    (act >>= next).run.run network =
      match act.run.run network with
      | (.ok value, network) => (next value).run.run network
      | (.error fault, network) => (.error fault, network) := by
  rw [ExceptT.run_bind, run_bind]
  obtain ⟨outcome, network⟩ := act.run.run network
  cases outcome with
  | ok value => rfl
  | error fault => rfl

theorem run_run_liftM (act : Building α) (network : Network) :
    (liftM act : Attempt α).run.run network =
      ((act.run.run network.journal).1, network.reported (act.run.run network.journal).2) :=
  (rfl)

theorem uses_bind {act : Attempt α} {next : α → Attempt β} (hact : Uses clock pings act.run)
    (hnext : ∀ value, Uses clock pings (next value).run) : Uses clock pings (act >>= next).run := by
  rw [ExceptT.run_bind]
  refine hact.bind fun outcome => ?_
  cases outcome with
  | ok value => exact hnext value
  | error fault => exact .pure _

theorem uses_pure (value : α) : Uses clock pings (pure value : Attempt α).run :=
  .pure _

theorem uses_liftM {act : Online α} (hact : Uses clock pings act) :
    Uses clock pings (liftM act : Attempt α).run :=
  hact.map _

theorem uses_outcome (outcome : Except Fault α) :
    Uses clock pings (liftM outcome : Attempt α).run :=
  .pure _

theorem uses_building {act : Building α} {outcome : Except Fault α} (hact : act.Gives outcome) :
    Uses clock pings (building act).run :=
  .noting hact

theorem uses_noting {act : Log.Noting α} {value : α} (hact : Log.Gives act value) :
    Uses clock pings (liftM act : Attempt α).run :=
  .noting (Building.gives_liftM hact)

end Attempt

open Attempt

namespace Profile

theorem uses_pageStrength {clock pings : Bool} (profile : Profile) (probe : Probe) (url : String)
    (timeout : Int) : Uses clock pings (profile.pageStrength probe url timeout) := by
  unfold pageStrength
  refine (Uses.fetch url timeout).bind fun page => ?_
  split
  · exact (Uses.note _).bind fun _ => .pure _
  · split
    · exact (Uses.note _).bind fun _ => .pure _
    · exact .pure _

theorem uses_strength {clock : Bool} (profile : Profile) (host : String) (fully : Bool)
    (timeout : Int) : Uses clock true (profile.strength host fully timeout).run := by
  unfold strength
  refine uses_bind (uses_building (Probe.gives_ofProperties _ _)) fun probe => ?_
  split
  · exact uses_bind (uses_liftM (.note _)) fun _ => uses_pure _
  · refine uses_bind (uses_noting (Template.gives_resolve _ _)) fun definitions => ?_
    refine uses_bind (uses_noting (Template.gives_expand _ _ _)) fun url => ?_
    split
    · exact uses_bind (uses_liftM (.note _)) fun _ => uses_pure _
    · refine uses_bind (uses_outcome _) fun port => uses_bind (uses_outcome _) fun seconds => ?_
      refine uses_bind (uses_liftM (.ping rfl host port seconds)) fun reached => ?_
      split
      · exact uses_pure _
      · split
        · exact uses_pure _
        · exact uses_bind (uses_liftM (profile.uses_pageStrength probe _ timeout)) fun _ => uses_pure _

end Profile

namespace Matching

variable {clock : Bool}

theorem uses_settle {pings : Bool} (host : String) (kept : Option Profile) :
    Uses clock pings (settle host kept) := by
  cases kept with
  | none => exact (Uses.note _).bind fun _ => .pure _
  | some profile => exact (Uses.note _).bind fun _ => .pure _

theorem uses_discoverFrom (host : String) (preferStrong : Bool) (timeout : Int)
    (kept : Option Profile) (profiles : List Profile) :
    Uses clock true (discoverFrom host preferStrong timeout kept profiles).run := by
  induction profiles generalizing kept with
  | nil => exact uses_liftM (uses_settle host kept)
  | cons profile profiles ih =>
      unfold discoverFrom
      refine uses_bind (profile.uses_strength host true timeout) fun strength => ?_
      split
      · exact ih kept
      · exact ih kept
      · split
        · exact uses_bind (uses_liftM (.note _)) fun _ => uses_pure _
        · exact ih _

theorem uses_discover (profiles : List Profile) (host : String) (preferStrong : Bool)
    (timeout : Int) : Uses clock true (discover profiles host preferStrong timeout).run :=
  uses_discoverFrom host preferStrong timeout none profiles

end Matching

end Telemetry
