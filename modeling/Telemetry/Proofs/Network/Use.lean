import Telemetry.Proofs.Building
import Telemetry.Network

/-!
What a computation uses of the network: pages, and perhaps the clock and whether servers can be
reached. A computation meets the same in two networks that show the same world, so it comes to the
same there.
-/

namespace Telemetry

/-- What requests and attempts to reach a server meet, whenever they are made. -/
structure World where
  page : String → Option String
  reaches : String → Int → Bool

namespace Network

/-- A network that shows a world and takes no time, before anything is asked of it. -/
def ofWorld (world : World) : Network where
  now := 0
  answer _ url := ⟨world.page url, 0⟩
  reaches := world.reaches

structure Shows (network : Network) (world : World) : Prop where
  page : ∀ earlier url, (network.answer earlier url).page = world.page url
  reaches : network.reaches = world.reaches

theorem shows_ofWorld (world : World) : (ofWorld world).Shows world :=
  ⟨fun _ _ => rfl, rfl⟩

/-- Does the clock stand still, at a given time? -/
structure StandsAt (network : Network) (time : Int) : Prop where
  now : network.now = time
  drift : ∀ earlier, network.drift earlier = 0
  delay : ∀ earlier url, (network.answer earlier url).delay = 0

theorem StandsAt.reading_eq {network : Network} {time : Int} (hstands : network.StandsAt time) :
    network.reading = time := by
  rw [reading, hstands.drift, hstands.now, Int.add_zero]

end Network

namespace Online

/-- The ways of using the network. The clock is read only with `clock`, and servers are tried only
with `pings`. -/
inductive Uses (clock pings : Bool) : {α : Type} → Online α → Prop
  | pure {α : Type} (value : α) : Uses clock pings (pure value)
  | bind {α β : Type} {act : Online α} {next : α → Online β} (hact : Uses clock pings act)
      (hnext : ∀ value, Uses clock pings (next value)) : Uses clock pings (act >>= next)
  | noting {α : Type} {act : Log.Noting α} {value : α} (hgives : Log.Gives act value) :
      Uses clock pings (noting act)
  | now (hclock : clock = true) : Uses clock pings now
  | fetch (url : String) (timeout : Int) : Uses clock pings (fetch url timeout)
  | ping (hpings : pings = true) (host : String) (port : Int) (seconds : Binary64) :
      Uses clock pings (ping host port seconds)

namespace Uses

variable {clock pings : Bool} {α β : Type} {act : Online α}

theorem note (entry : Log.Entry) : Uses clock pings (Online.note entry) :=
  .noting (Log.gives_note entry)

theorem map (hact : Uses clock pings act) (f : α → β) : Uses clock pings (f <$> act) :=
  .bind hact fun value => .pure (f value)

theorem shows (huses : Uses clock pings act) {network : Network} {world : World}
    (hworld : network.Shows world) : (act.run network).2.Shows world := by
  induction huses generalizing network with
  | pure | noting | now | fetch | ping => exact ⟨hworld.page, hworld.reaches⟩
  | bind _ _ ih ihnext => exact ihnext _ (ih hworld)

theorem standsAt (huses : Uses clock pings act) {network : Network} {time : Int}
    (htime : network.StandsAt time) : (act.run network).2.StandsAt time := by
  induction huses generalizing network with
  | pure | noting | ping => exact ⟨htime.now, htime.drift, htime.delay⟩
  | now => exact ⟨htime.reading_eq, htime.drift, htime.delay⟩
  | fetch url =>
      refine ⟨?_, htime.drift, htime.delay⟩
      rw [run_fetch, Network.asked, Network.answerFor, htime.delay, Int.add_zero, htime.now]
  | bind _ _ ih ihnext => exact ihnext _ (ih htime)

theorem pings_eq (huses : Uses clock false act) (network : Network) :
    (act.run network).2.pings = network.pings := by
  induction huses generalizing network with
  | pure | noting | now | fetch => rfl
  | ping hpings => contradiction
  | bind _ _ ih ihnext => exact (ihnext _ _).trans (ih network)

/-- A computation comes to the same in two networks that show the same world, at the same time if it
reads the clock. -/
theorem result_eq (huses : Uses clock pings act) {network network' : Network} {world : World}
    (hworld : network.Shows world) (hworld' : network'.Shows world)
    (htime : clock = true → ∃ time, network.StandsAt time ∧ network'.StandsAt time) :
    (act.run network).1 = (act.run network').1 := by
  induction huses generalizing network network' with
  | pure => rfl
  | noting hgives => exact (hgives _).trans (hgives _).symm
  | now hclock =>
      obtain ⟨time, htime, htime'⟩ := htime hclock
      exact htime.reading_eq.trans htime'.reading_eq.symm
  | fetch url => exact (hworld.page _ url).trans (hworld'.page _ url).symm
  | ping _ host port => exact congrFun (congrFun (hworld.reaches.trans hworld'.reaches.symm) host) port
  | bind hact _ ih ihnext =>
      rw [run_bind, run_bind, ih hworld hworld' htime]
      refine ihnext _ (hact.shows hworld) (hact.shows hworld') fun hclock => ?_
      obtain ⟨time, htime, htime'⟩ := htime hclock
      exact ⟨time, hact.standsAt htime, hact.standsAt htime'⟩

theorem exists_run_eq (huses : Uses false pings act) (world : World) :
    ∃ value requests tried, ∀ network : Network, network.Shows world →
      (act.run network).1 = value ∧
        (act.run network).2.requests = network.requests ++ requests ∧
        (act.run network).2.pings = network.pings ++ tried := by
  induction huses with
  | pure value =>
      exact ⟨value, [], [], fun _ _ => ⟨rfl, (List.append_nil _).symm, (List.append_nil _).symm⟩⟩
  | @noting _ _ value hgives =>
      exact ⟨value, [], [], fun _ _ => ⟨hgives _, (List.append_nil _).symm, (List.append_nil _).symm⟩⟩
  | now hclock => contradiction
  | fetch url timeout =>
      exact ⟨world.page url, [⟨url, timeout⟩], [], fun _ hworld =>
        ⟨hworld.page _ url, rfl, (List.append_nil _).symm⟩⟩
  | ping _ host port seconds =>
      exact ⟨world.reaches host port, [], [⟨host, port, seconds⟩], fun _ hworld =>
        ⟨congrFun (congrFun hworld.reaches host) port, (List.append_nil _).symm, rfl⟩⟩
  | bind hact _ ih ihnext =>
      obtain ⟨value, requests, tried, hrun⟩ := ih
      obtain ⟨result, requests', tried', hrun'⟩ := ihnext value
      refine ⟨result, requests ++ requests', tried ++ tried', fun network hworld => ?_⟩
      obtain ⟨hvalue, hrequests, htried⟩ := hrun network hworld
      obtain ⟨hresult, hrequests', htried'⟩ := hrun' _ (hact.shows hworld)
      rw [run_bind, hvalue]
      refine ⟨hresult, ?_, ?_⟩
      · rw [hrequests', hrequests, List.append_assoc]
      · rw [htried', htried, List.append_assoc]

/-- Away from the clock a computation does in every network of a world what it does in the plainest
one. -/
theorem run_eq (huses : Uses false pings act) {network : Network} {world : World}
    (hworld : network.Shows world) :
    (act.run network).1 = (act.run (.ofWorld world)).1 ∧
      (act.run network).2.requests =
        network.requests ++ (act.run (.ofWorld world)).2.requests ∧
      (act.run network).2.pings = network.pings ++ (act.run (.ofWorld world)).2.pings := by
  obtain ⟨value, requests, tried, hrun⟩ := huses.exists_run_eq world
  obtain ⟨hvalue, hrequests, htried⟩ := hrun network hworld
  obtain ⟨hvalue', hrequests', htried'⟩ := hrun _ (Network.shows_ofWorld world)
  rw [hvalue, hrequests, htried, hvalue', hrequests', htried']
  exact ⟨rfl, rfl, rfl⟩

end Uses

end Online

end Telemetry
