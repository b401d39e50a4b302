import Telemetry.Network
import Telemetry.Refresh

/-!
What happens to caches in the course of time. A cache is asked for what it holds, requests a page if
that is stale, and is stamped when the page has been taken in. `Obeys` says that no request and no
stamp of a cache comes too early; from this alone follow the windows in which it stays quiet.
-/

namespace Telemetry

/-- What keeps a page, or what was found on it, until that is stale. -/
inductive Cache where
  | group (id : String)
  | table (id : String)
deriving DecidableEq, Repr

namespace Cache

inductive Event where
  /-- The cache was asked, at a time if the clock was read for it, and made a request if it was stale. -/
  | asked (cache : Cache) (time : Option Int) (request : Option Request)
  /-- The requested page was taken in, and stamped with a time. -/
  | stored (cache : Cache) (time : Int)
deriving DecidableEq, Repr

namespace Event

def cache : Event → Cache
  | asked cache .. => cache
  | stored cache _ => cache

def time? : Event → Option Int
  | asked _ time _ => time
  | stored _ time => some time

def request? : Event → Option Request
  | asked _ _ request => request
  | stored .. => none

def stamp? (cache : Cache) : Event → Option Int
  | asked .. => none
  | stored other time => if other = cache then some time else none

end Event

/-- The times that the clock has shown. -/
def times (events : List Event) : List Int :=
  events.filterMap (·.time?)

def requests (events : List Event) : List Request :=
  events.filterMap (·.request?)

/-- The stamps of the successful rounds of a cache. -/
def stamps (cache : Cache) (events : List Event) : List Int :=
  events.filterMap (·.stamp? cache)

/-- The last stamp of a cache that had a given one before. -/
def lastStamp (cache : Cache) (stamp : Int) (events : List Event) : Int :=
  (stamps cache events).getLast?.getD stamp

/-- A cache with a stamp requests a page only when that is stale, and gets a new stamp only for such
a request. `pending` is the time at which the cache was asked that has made the last request. -/
def Obeys (cache : Cache) (interval : Int) : Int → Option Int → List Event → Prop
  | _, _, [] => True
  | stamp, pending, .asked other time request :: events =>
    if other = cache then
      time.isSome ∧ (request.isSome → ∀ now ∈ time, Refresh.isStale stamp interval now = true) ∧
        Obeys cache interval stamp (if request.isSome then time else none) events
    else Obeys cache interval stamp pending events
  | stamp, pending, .stored other time :: events =>
    if other = cache then
      (∃ now, pending = some now ∧ Refresh.isStale stamp interval now = true) ∧
        Obeys cache interval time none events
    else Obeys cache interval stamp pending events

@[simp] theorem times_append (events later : List Event) :
    times (events ++ later) = times events ++ times later :=
  List.filterMap_append

@[simp] theorem requests_append (events later : List Event) :
    requests (events ++ later) = requests events ++ requests later :=
  List.filterMap_append

@[simp] theorem stamps_append (cache : Cache) (events later : List Event) :
    stamps cache (events ++ later) = stamps cache events ++ stamps cache later :=
  List.filterMap_append

@[simp] theorem stamps_stored_self (cache : Cache) (time : Int) (events : List Event) :
    stamps cache (.stored cache time :: events) = time :: stamps cache events := by
  simp [stamps, Event.stamp?]

@[simp] theorem stamps_asked (cache other : Cache) (time : Option Int) (request : Option Request)
    (events : List Event) :
    stamps cache (.asked other time request :: events) = stamps cache events :=
  rfl

theorem stamps_stored_of_ne {cache other : Cache} (hother : other ≠ cache) (time : Int)
    (events : List Event) : stamps cache (.stored other time :: events) = stamps cache events := by
  simp [stamps, Event.stamp?, hother]

theorem mem_stamps_iff {cache : Cache} {events : List Event} {time : Int} :
    time ∈ stamps cache events ↔ .stored cache time ∈ events := by
  simp only [stamps, List.mem_filterMap]
  constructor
  · rintro ⟨_ | ⟨other, stamp⟩, hevent, hstamp⟩
    · contradiction
    · simp only [Event.stamp?, Option.ite_none_right_eq_some, Option.some.injEq] at hstamp
      obtain ⟨rfl, rfl⟩ := hstamp
      exact hevent
  · intro hevent
    exact ⟨_, hevent, if_pos rfl⟩

theorem mem_times_of_stored {cache : Cache} {events : List Event} {time : Int}
    (hevent : .stored cache time ∈ events) : time ∈ times events :=
  List.mem_filterMap.mpr ⟨_, hevent, rfl⟩

theorem lastStamp_append (cache : Cache) (stamp : Int) (events later : List Event) :
    lastStamp cache stamp (events ++ later) =
      lastStamp cache (lastStamp cache stamp events) later := by
  simp only [lastStamp, stamps_append, List.getLast?_append]
  cases (stamps cache later).getLast? <;> simp

theorem stamps_eq_nil {cache : Cache} {events : List Event}
    (hother : ∀ event ∈ events, event.cache ≠ cache) : stamps cache events = [] := by
  rw [stamps, List.filterMap_eq_nil_iff]
  rintro (_ | ⟨other, time⟩) hevent
  · rfl
  · exact if_neg (hother _ hevent)

theorem lastStamp_of_other {cache : Cache} {events : List Event}
    (hother : ∀ event ∈ events, event.cache ≠ cache) (stamp : Int) :
    lastStamp cache stamp events = stamp := by
  rw [lastStamp, stamps_eq_nil hother]
  rfl

/-- Is a time too late for what was stamped before to be kept still? -/
def IsLate (interval stamp now : Int) : Prop :=
  interval ≠ Refresh.once ∧ stamp + interval ≤ now

/-- Does a cache with a stamp neither request nor store anything too early? -/
def Event.IsLate (cache : Cache) (interval stamp : Int) : Event → Prop
  | asked other time request =>
    other = cache → request.isSome → ∃ now, time = some now ∧ Cache.IsLate interval stamp now
  | stored other time => other = cache → Cache.IsLate interval stamp time

theorem Event.IsLate.mono {cache : Cache} {event : Event} {interval stamp stamp' : Int}
    (hlate : event.IsLate cache interval stamp') (hinterval : 0 < interval)
    (hstamp : stamp + interval ≤ stamp') : event.IsLate cache interval stamp := by
  cases event with
  | asked other time request =>
      intro hcache hsome
      obtain ⟨now, hnow, honce, hlate⟩ := hlate hcache hsome
      exact ⟨now, hnow, honce, by omega⟩
  | stored other time =>
      intro hcache
      obtain ⟨honce, hlate⟩ := hlate hcache
      exact ⟨honce, by omega⟩

theorem isStale_iff_isLate {stamp interval now : Int} (hstamp : 0 < stamp)
    (hinterval : interval = Refresh.once ∨ 0 < interval) :
    Refresh.isStale stamp interval now = true ↔ IsLate interval stamp now := by
  unfold Refresh.isStale IsLate
  rw [if_neg (Int.ne_of_gt hstamp)]
  rcases hinterval with rfl | hinterval
  · simp
  · have honce : interval ≠ Refresh.once := by
      rw [Refresh.once]
      omega
    have halways : interval ≠ Refresh.always := Int.ne_of_gt hinterval
    simp [honce, halways]

section Obeys

variable {cache : Cache} {interval stamp : Int} {pending : Option Int} {events later : List Event}

theorem obeys_append_of_other (hother : ∀ event ∈ events, event.cache ≠ cache) :
    Obeys cache interval stamp pending (events ++ later) ↔
      Obeys cache interval stamp pending later := by
  induction events with
  | nil => rfl
  | cons event events ih =>
      obtain ⟨hfirst, hrest⟩ := List.forall_mem_cons.mp hother
      cases event with
      | asked other time request | stored other time =>
          have hne : other ≠ cache := hfirst
          rw [List.cons_append, Obeys, if_neg hne]
          exact ih hrest

theorem obeys_of_other (hother : ∀ event ∈ events, event.cache ≠ cache) :
    Obeys cache interval stamp pending events := by
  rw [← List.append_nil events, obeys_append_of_other hother]
  trivial

namespace Obeys

theorem of_none (hobeys : Obeys cache interval stamp none events) :
    Obeys cache interval stamp pending events := by
  induction events with
  | nil => trivial
  | cons event events ih =>
      cases event with
      | asked other time request =>
          rw [Obeys] at hobeys ⊢
          split at hobeys
          · rename_i hcache
            rwa [if_pos hcache]
          · rename_i hcache
            rw [if_neg hcache]
            exact ih hobeys
      | stored other time =>
          rw [Obeys] at hobeys ⊢
          split at hobeys
          · obtain ⟨⟨now, hnow, -⟩, -⟩ := hobeys
            contradiction
          · rename_i hcache
            rw [if_neg hcache]
            exact ih hobeys

theorem append (hobeys : Obeys cache interval stamp pending events)
    (hlater : Obeys cache interval (lastStamp cache stamp events) none later) :
    Obeys cache interval stamp pending (events ++ later) := by
  induction events generalizing stamp pending with
  | nil => exact hlater.of_none
  | cons event events ih =>
      have hlast := lastStamp_append cache stamp [event] events
      rw [List.singleton_append] at hlast
      rw [hlast] at hlater
      cases event with
      | asked other time request =>
          rw [List.cons_append]
          rw [Obeys] at hobeys ⊢
          split at hobeys
          · rename_i hcache
            rw [if_pos hcache]
            exact ⟨hobeys.1, hobeys.2.1, ih hobeys.2.2 hlater⟩
          · rename_i hcache
            rw [if_neg hcache]
            exact ih hobeys hlater
      | stored other time =>
          rw [List.cons_append]
          rw [Obeys] at hobeys ⊢
          split at hobeys
          · rename_i hcache
            subst hcache
            rw [if_pos rfl]
            have hstamp : lastStamp other stamp [.stored other time] = time := by
              simp [lastStamp, stamps, Event.stamp?]
            rw [hstamp] at hlater
            exact ⟨hobeys.1, ih hobeys.2 hlater⟩
          · rename_i hcache
            rw [if_neg hcache]
            have hstamp : lastStamp cache stamp [.stored other time] = stamp :=
              lastStamp_of_other (by simpa [Event.cache] using hcache) stamp
            rw [hstamp] at hlater
            exact ih hobeys hlater

/-- After a stamp, nothing is requested and nothing stored before the interval is over, and never if
the page is to be kept for ever. -/
theorem isLate (hobeys : Obeys cache interval stamp pending events) (hstamp : 0 < stamp)
    (hinterval : interval = Refresh.once ∨ 0 < interval)
    (hpositive : ∀ time ∈ times events, 0 < time) (hsorted : (times events).Pairwise (· ≤ ·))
    (hpending : ∀ now ∈ pending, ∀ time ∈ times events, now ≤ time) :
    ∀ event ∈ events, event.IsLate cache interval stamp := by
  induction events generalizing stamp pending with
  | nil => simp
  | cons event events ih =>
      have hsublist : (times events).Sublist (times (event :: events)) :=
        (List.sublist_cons_self event events).filterMap _
      have hsorted' := hsorted.sublist hsublist
      have hpositive' := fun time htime => hpositive time (hsublist.subset htime)
      have hpending' := fun now hnow time htime => hpending now hnow time (hsublist.subset htime)
      rw [List.forall_mem_cons]
      cases event with
      | asked other time request =>
          rw [Obeys] at hobeys
          split at hobeys
          · obtain ⟨hclock, hrequest, hrest⟩ := hobeys
            obtain ⟨now, rfl⟩ := Option.isSome_iff_exists.mp hclock
            refine ⟨fun _ hsome => ?_, ih hrest hstamp hpositive' hsorted' ?_⟩
            · exact ⟨now, rfl, (isStale_iff_isLate hstamp hinterval).mp (hrequest hsome now rfl)⟩
            · intro earlier hearlier later hlater
              split at hearlier
              · obtain rfl := Option.some.inj hearlier
                exact (List.pairwise_cons.mp hsorted).1 later hlater
              · contradiction
          · rename_i hcache
            refine ⟨fun hcache' => absurd hcache' hcache, ?_⟩
            exact ih hobeys hstamp hpositive' hsorted' hpending'
      | stored other time =>
          rw [Obeys] at hobeys
          split at hobeys
          · obtain ⟨⟨now, rfl, hstale⟩, hrest⟩ := hobeys
            obtain ⟨honce, hlate⟩ := (isStale_iff_isLate hstamp hinterval).mp hstale
            have hnow : now ≤ time := hpending now rfl time List.mem_cons_self
            have htime : 0 < time := hpositive time List.mem_cons_self
            refine ⟨fun _ => ⟨honce, by omega⟩, fun event hevent => ?_⟩
            -- what comes late after the new stamp comes even later after the old one
            have hlater := ih hrest htime hpositive' hsorted' (by simp) event hevent
            exact hlater.mono (hinterval.resolve_left honce) (by omega)
          · rename_i hcache
            refine ⟨fun hcache' => absurd hcache' hcache, ?_⟩
            exact ih hobeys hstamp hpositive' hsorted' hpending'

theorem of_append (hobeys : Obeys cache interval stamp pending (events ++ later)) :
    ∃ stamp' pending', Obeys cache interval stamp' pending' later := by
  induction events generalizing stamp pending with
  | nil => exact ⟨stamp, pending, hobeys⟩
  | cons event events ih =>
      cases event with
      | asked other time request =>
          rw [List.cons_append, Obeys] at hobeys
          split at hobeys
          · exact ih hobeys.2.2
          · exact ih hobeys
      | stored other time =>
          rw [List.cons_append, Obeys] at hobeys
          split at hobeys
          · exact ih hobeys.2
          · exact ih hobeys

theorem window {time : Int} (hobeys : Obeys cache interval stamp pending events)
    (hinterval : interval = Refresh.once ∨ 0 < interval)
    (hpositive : ∀ time ∈ times events, 0 < time) (hsorted : (times events).Pairwise (· ≤ ·))
    {before : List Event} (hevents : events = before ++ .stored cache time :: later) :
    ∀ event ∈ later, event.IsLate cache interval time := by
  subst hevents
  obtain ⟨stamp', pending', hrest⟩ := hobeys.of_append
  rw [Obeys, if_pos rfl] at hrest
  have htimes : times (before ++ .stored cache time :: later) =
      times before ++ time :: times later := by
    rw [times_append]
    rfl
  rw [htimes] at hpositive hsorted
  have hsorted' := (List.pairwise_append.mp hsorted).2.1
  refine hrest.2.isLate (hpositive time (by simp)) hinterval ?_ hsorted'.of_cons (by simp)
  intro next hnext
  exact hpositive next (by simp [hnext])

end Obeys

end Obeys

theorem isLate_of_mem_stamps {cache : Cache} {interval stamp time : Int} {events : List Event}
    (hlate : ∀ event ∈ events, event.IsLate cache interval stamp)
    (htime : time ∈ stamps cache events) : IsLate interval stamp time :=
  hlate _ (mem_stamps_iff.mp htime) rfl

theorem length_stamps_le_one {cache : Cache} {events : List Event}
    (hlast : ∀ before time after, events = before ++ .stored cache time :: after →
      stamps cache after = []) : (stamps cache events).length ≤ 1 := by
  induction events with
  | nil => exact Nat.zero_le 1
  | cons event events ih =>
      have hrest := ih fun before time after hevents =>
        hlast (event :: before) time after (by rw [hevents, List.cons_append])
      cases event with
      | asked other time request => exact hrest
      | stored other time =>
          by_cases hother : other = cache
          · subst hother
            rw [stamps_stored_self, hlast [] time events rfl]
            exact Nat.le_refl 1
          · rwa [stamps_stored_of_ne hother]

/-- The refresh interval of a cache and its stamp. -/
structure Window where
  interval : Int
  stamp : Int
deriving DecidableEq, Repr

/-- What happens between two states of the caches obeys the windows of all. -/
def Step (before : Cache → Option Window) (events : List Event) (after : Cache → Option Window) :
    Prop :=
  ∀ cache window, before cache = some window →
    Obeys cache window.interval window.stamp none events ∧
      after cache = some { window with stamp := lastStamp cache window.stamp events }

namespace Step

variable {before between after : Cache → Option Window} {events later : List Event}

theorem refl (caches : Cache → Option Window) : Step caches [] caches :=
  fun _ _ hwindow => ⟨trivial, hwindow⟩

theorem trans (hfirst : Step before events between) (hsecond : Step between later after) :
    Step before (events ++ later) after := by
  intro cache window hwindow
  obtain ⟨hobeys, hbetween⟩ := hfirst cache window hwindow
  obtain ⟨hobeys', hafter⟩ := hsecond cache _ hbetween
  refine ⟨hobeys.append hobeys', ?_⟩
  rw [hafter, lastStamp_append]

end Step

end Cache

end Telemetry
