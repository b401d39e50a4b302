import Mathlib.Logic.Relation
import Telemetry.Poller
import Telemetry.Proofs.Device.Round
import Telemetry.Proofs.Document.ScalarKey
import Telemetry.Proofs.Keyed
import Telemetry.Proofs.Registry.Reading

/-!
A tick whose servers are read at the same time, by a worker for each of them. While the clock stands
still and answers depend on the url alone, the order in which the workers come to read makes no
difference: reads of different servers commute. What every step preserves is what would come out if the
workers finished one after another from there on.
-/

namespace Telemetry.Poller

/-- The bindings of a server that are still to be read, and what there is to publish so far. -/
structure Worker where
  waiting : List Binding
  published : List Publication := []

structure Pool where
  workers : List Worker
  registry : Registry
  network : Network

namespace Pool

/-- One of the workers reads its next binding. -/
inductive Step : Pool → Pool → Prop
  | read {before after : List Worker} {binding : Binding} {waiting : List Binding}
      {published : List Publication} {registry : Registry} {network : Network} :
      Step ⟨before ++ ⟨binding :: waiting, published⟩ :: after, registry, network⟩
        ⟨before ++ ⟨waiting, published ++ ((readBinding registry binding).run network).1.2⟩ :: after,
          ((readBinding registry binding).run network).1.1,
          ((readBinding registry binding).run network).2⟩

/-- The workers of a tick, once the clock has been read. -/
def start (poller : Poller) (registry : Registry) (network : Network) : Pool where
  workers := (byServer (poller.due network.reading)).map fun entry => ⟨entry.2, []⟩
  registry := registry
  network := network.read

def IsDone (pool : Pool) : Prop :=
  ∀ worker ∈ pool.workers, worker.waiting = []

def published (pool : Pool) : List Publication :=
  pool.workers.flatMap (·.published)

/-- Different workers read different servers. -/
def Separate (pool : Pool) : Prop :=
  pool.workers.Pairwise fun worker other =>
    ∀ binding ∈ worker.waiting, ∀ binding' ∈ other.waiting, binding.server ≠ binding'.server

end Pool

section Reads

variable {network : Network} {registry other : Registry} {binding binding' : Binding}
  {device : Device}

theorem device?_withDevice_of_ne (registry : Registry) {server server' : String}
    (hne : server' ≠ server) (device : Device) :
    (registry.withDevice (.text server) device).device? (.text server') =
      registry.device? (.text server') := by
  have hbeq := Scalar.text_beq_text_of_ne hne
  simp only [Registry.device?, Registry.withDevice, Keyed.lookup_adjust_of_ne hbeq]

theorem withDevice_comm {server server' : String} (hne : server' ≠ server) (device device' : Device) :
    (registry.withDevice (.text server) device).withDevice (.text server') device' =
      (registry.withDevice (.text server') device').withDevice (.text server) device := by
  have hbeq := Scalar.text_beq_text_of_ne hne
  simp only [Registry.withDevice, Keyed.adjust_comm hbeq]

def readIn (network : Network) (registry : Registry) (binding : Binding) :
    Registry × List Publication :=
  ((readBinding registry binding).run network).1

theorem readIn_of_none (hdevice : registry.device? (.text binding.server) = none) :
    readIn network registry binding = (registry, []) := by
  have hreading : registry.reading (.text binding.server) binding.channel binding.kind = (do
      Online.note ⟨.warning, .registry, "Server " ++ (Scalar.text binding.server).toText ++
        " is not configured or has no matching profile"⟩
      pure (registry, none)) := by
    simp only [Registry.reading, hdevice]
  rw [readIn, readBinding, hreading]
  rfl

theorem exists_readIn_eq (network : Network) (binding : Binding) (device : Device) :
    ∃ after published, ∀ registry : Registry,
      registry.device? (.text binding.server) = some device → readIn network registry binding =
        (registry.withDevice (.text binding.server) after, published) := by
  -- the outcome is fixed before the registry, so that it is the same for all of them
  generalize hrun : (device.reading binding.channel binding.kind).run network = outcome
  obtain ⟨⟨after, reading⟩, network'⟩ := outcome
  refine ⟨after, (reading.map (⟨binding, ·⟩)).toList, fun registry hdevice => ?_⟩
  simp only [readIn, readBinding, Registry.reading, hdevice, Online.run_bind, hrun]
  cases reading <;> rfl

/-- Reads of different servers commute, and do not see each other. -/
theorem readIn_comm (network : Network) (registry : Registry)
    (hne : binding'.server ≠ binding.server) :
    readIn network (readIn network registry binding).1 binding' =
      ((readIn network (readIn network registry binding').1 binding).1,
        (readIn network registry binding').2) ∧
    (readIn network (readIn network registry binding').1 binding).2 =
      (readIn network registry binding).2 := by
  -- a read without a device changes nothing; with two devices there are two updates to exchange
  cases hdevice : registry.device? (.text binding.server) with
  | none =>
      cases hdevice' : registry.device? (.text binding'.server) with
      | none => simp only [readIn_of_none hdevice, readIn_of_none hdevice', and_self]
      | some device' =>
          obtain ⟨after', published', hread'⟩ := exists_readIn_eq network binding' device'
          have hkept : (registry.withDevice (.text binding'.server) after').device?
              (.text binding.server) = none :=
            (device?_withDevice_of_ne registry hne.symm after').trans hdevice
          simp only [readIn_of_none hdevice, hread' registry hdevice', readIn_of_none hkept, and_self]
  | some device =>
      obtain ⟨after, published, hread⟩ := exists_readIn_eq network binding device
      have hkept' := device?_withDevice_of_ne registry hne after
      cases hdevice' : registry.device? (.text binding'.server) with
      | none =>
          rw [hdevice'] at hkept'
          simp only [readIn_of_none hdevice', hread registry hdevice, readIn_of_none hkept', and_self]
      | some device' =>
          obtain ⟨after', published', hread'⟩ := exists_readIn_eq network binding' device'
          have hkept : (registry.withDevice (.text binding'.server) after').device?
              (.text binding.server) = some device :=
            (device?_withDevice_of_ne registry hne.symm after').trans hdevice
          rw [hdevice'] at hkept'
          simp only [hread registry hdevice, hread' registry hdevice', hread _ hkept, hread' _ hkept',
            withDevice_comm hne, and_self]

def readAllIn (network : Network) (registry : Registry) :
    List Binding → Registry × List Publication
  | [] => (registry, [])
  | binding :: bindings =>
    let (registry, first) := readIn network registry binding
    let (registry, rest) := readAllIn network registry bindings
    (registry, first ++ rest)

theorem readAllIn_append (bindings bindings' : List Binding) :
    readAllIn network registry (bindings ++ bindings') =
      ((readAllIn network (readAllIn network registry bindings).1 bindings').1,
        (readAllIn network registry bindings).2 ++
          (readAllIn network (readAllIn network registry bindings).1 bindings').2) := by
  induction bindings generalizing registry with
  | nil => rfl
  | cons first bindings ih => simp only [List.cons_append, readAllIn, ih, List.append_assoc]

theorem readAllIn_comm (network : Network) (registry : Registry) {bindings : List Binding}
    (hne : ∀ other ∈ bindings, other.server ≠ binding.server) :
    readAllIn network (readIn network registry binding).1 bindings =
      ((readIn network (readAllIn network registry bindings).1 binding).1,
        (readAllIn network registry bindings).2) ∧
    (readIn network (readAllIn network registry bindings).1 binding).2 =
      (readIn network registry binding).2 := by
  induction bindings generalizing registry with
  | nil => exact ⟨rfl, rfl⟩
  | cons other bindings ih =>
      obtain ⟨hread, hpublished⟩ := readIn_comm network registry (hne other List.mem_cons_self)
      obtain ⟨hrest, hrest'⟩ := @ih (readIn network registry other).1
        fun later hlater => hne later (List.mem_cons_of_mem _ hlater)
      simp only [readAllIn, hread, hrest, hrest', hpublished, and_self]

end Reads

namespace Pool

/-- What comes out if the workers finish one after another. -/
def finish (network : Network) (registry : Registry) : List Worker → Registry × List Publication
  | [] => (registry, [])
  | worker :: workers =>
    let (registry, more) := readAllIn network registry worker.waiting
    let (registry, rest) := finish network registry workers
    (registry, worker.published ++ more ++ rest)

variable {network : Network} {registry : Registry}

/-- A read by any of the workers changes nothing about what comes out in the end. -/
theorem finish_read {before after : List Worker} {binding : Binding} {waiting : List Binding}
    {published : List Publication}
    (hne : ∀ worker ∈ before, ∀ other ∈ worker.waiting, other.server ≠ binding.server) :
    finish network (readIn network registry binding).1
        (before ++ ⟨waiting, published ++ (readIn network registry binding).2⟩ :: after) =
      finish network registry (before ++ ⟨binding :: waiting, published⟩ :: after) := by
  induction before generalizing registry with
  | nil => simp only [List.nil_append, finish, readAllIn, List.append_assoc]
  | cons worker before ih =>
      obtain ⟨hread, hpublished⟩ := readAllIn_comm network registry (hne worker List.mem_cons_self)
      have hrest := @ih (readAllIn network registry worker.waiting).1
        fun other hother => hne other (List.mem_cons_of_mem _ hother)
      rw [hpublished] at hrest
      simp only [List.cons_append, finish, hread, hrest]

theorem finish_of_done {workers : List Worker} (hdone : ∀ worker ∈ workers, worker.waiting = []) :
    finish network registry workers = (registry, workers.flatMap (·.published)) := by
  induction workers with
  | nil => rfl
  | cons worker workers ih =>
      have hrest := ih fun other hother => hdone other (List.mem_cons_of_mem _ hother)
      simp only [finish, hdone worker List.mem_cons_self, readAllIn, hrest, List.append_nil,
        List.flatMap_cons]

/-- Workers that have not begun read what waits for them as one reader would. -/
theorem finish_start (queues : List (List Binding)) :
    finish network registry (queues.map (⟨·, []⟩)) = readAllIn network registry queues.flatten := by
  induction queues generalizing registry with
  | nil => rfl
  | cons queue queues ih =>
      simp only [List.map_cons, finish, ih, List.nil_append, List.flatten_cons, readAllIn_append]

end Pool

theorem uses_readBinding {pings : Bool} (registry : Registry) (binding : Binding) :
    Online.Uses true pings (readBinding registry binding) := by
  unfold readBinding
  refine (registry.uses_reading _ _ _).bind fun outcome => ?_
  split
  split
  · exact .pure _
  · exact (Online.Uses.note _).bind fun _ => .pure _

section Standing

variable {network network' : Network} {world : World} {time : Int} (hworld : network.Shows world)
  (htime : network.StandsAt time) (hworld' : network'.Shows world) (htime' : network'.StandsAt time)
include hworld htime hworld' htime'

theorem readIn_eq (registry : Registry) (binding : Binding) :
    readIn network registry binding = readIn network' registry binding :=
  have huses : Online.Uses true false (readBinding registry binding) :=
    uses_readBinding registry binding
  huses.result_eq hworld hworld' fun _ => ⟨time, htime, htime'⟩

theorem readAllIn_eq (registry : Registry) (bindings : List Binding) :
    readAllIn network registry bindings = readAllIn network' registry bindings := by
  induction bindings generalizing registry with
  | nil => rfl
  | cons binding bindings ih =>
      simp only [readAllIn, readIn_eq hworld htime hworld' htime', ih]

theorem Pool.finish_eq (registry : Registry) (workers : List Worker) :
    finish network registry workers = finish network' registry workers := by
  induction workers generalizing registry with
  | nil => rfl
  | cons worker workers ih =>
      simp only [finish, readAllIn_eq hworld htime hworld' htime', ih]

end Standing

theorem run_readBindings_fst {network : Network} {world : World} {time : Int}
    (hworld : network.Shows world) (htime : network.StandsAt time) (registry : Registry)
    (bindings : List Binding) :
    ((readBindings registry bindings).run network).1 = readAllIn network registry bindings := by
  induction bindings generalizing registry network with
  | nil => rfl
  | cons binding bindings ih =>
      have huses : Online.Uses true false (readBinding registry binding) :=
        uses_readBinding registry binding
      have hworld' := huses.shows hworld
      have htime' := huses.standsAt htime
      simp only [readBindings, Online.run_bind, Online.run_pure, ih hworld' htime', readAllIn]
      rw [readAllIn_eq hworld' htime' hworld htime]
      rfl

theorem nodup_keys_byServer (bindings : List Binding) : (Keyed.keys (byServer bindings)).Nodup := by
  refine List.foldlRecOn (motive := fun servers => (Keyed.keys servers).Nodup) _ _ List.nodup_nil ?_
  intro servers hservers binding _
  exact Keyed.nodup_keys_put hservers _ _

theorem getD_lookup_foldl_addTo (servers : Keyed String (List Binding)) (bindings : List Binding)
    (server : String) :
    ((bindings.foldl addTo servers).lookup server).getD [] =
      (servers.lookup server).getD [] ++ bindings.filter (·.server = server) := by
  induction bindings generalizing servers with
  | nil => simp
  | cons binding bindings ih =>
      rw [List.foldl_cons, ih, addTo, Keyed.lookup_put]
      by_cases hserver : server = binding.server
      · simp [← hserver]
      · simp [hserver, Ne.symm hserver]

theorem eq_filter_of_mem_byServer {bindings queue : List Binding} {server : String}
    (hmem : (server, queue) ∈ byServer bindings) : queue = bindings.filter (·.server = server) := by
  have hfound := Keyed.lookup_of_mem (nodup_keys_byServer bindings) hmem
  have hgathered := getD_lookup_foldl_addTo [] bindings server
  rw [byServer] at hfound
  rwa [hfound] at hgathered

namespace Pool

theorem separate_start (poller : Poller) (registry : Registry) (network : Network) :
    (start poller registry network).Separate := by
  have hnodup := nodup_keys_byServer (poller.due network.reading)
  rw [Keyed.keys, List.Nodup, List.pairwise_map] at hnodup
  rw [Separate, start, List.pairwise_map]
  refine hnodup.imp_of_mem ?_
  intro entry entry' hentry hentry' hne binding hbinding binding' hbinding'
  rw [eq_filter_of_mem_byServer hentry] at hbinding
  rw [eq_filter_of_mem_byServer hentry'] at hbinding'
  have hserver : binding.server = entry.1 := by simpa using (List.mem_filter.mp hbinding).2
  have hserver' : binding'.server = entry'.1 := by simpa using (List.mem_filter.mp hbinding').2
  rw [hserver, hserver']
  exact hne

/-- The pool is on the way to an outcome, in a world and at a time. -/
structure LeadsTo (outcome : Registry × List Publication) (world : World) (time : Int)
    (pool : Pool) : Prop where
  separate : pool.Separate
  shows : pool.network.Shows world
  standsAt : pool.network.StandsAt time
  finish : finish pool.network pool.registry pool.workers = outcome

variable {outcome : Registry × List Publication} {world : World} {time : Int} {pool pool' : Pool}

theorem LeadsTo.step (hpool : pool.LeadsTo outcome world time) (hstep : Step pool pool') :
    pool'.LeadsTo outcome world time := by
  obtain ⟨hseparate, hshows, hstands, hfinish⟩ := hpool
  cases hstep with
  | @read before after binding waiting published registry network =>
      obtain ⟨hbefore, hrest, hacross⟩ := List.pairwise_append.mp hseparate
      obtain ⟨hworker, hafter⟩ := List.pairwise_cons.mp hrest
      have huses : Online.Uses true false (readBinding registry binding) :=
        uses_readBinding registry binding
      refine ⟨?_, huses.shows hshows, huses.standsAt hstands, ?_⟩
      · -- what waits for the worker afterwards has waited for it before
        refine List.pairwise_append.mpr ⟨hbefore, List.pairwise_cons.mpr ⟨?_, hafter⟩, ?_⟩
        · intro other hother later hlater
          exact hworker other hother later (List.mem_cons_of_mem _ hlater)
        · intro other hother worker hmem
          rcases List.mem_cons.mp hmem with rfl | hmem
          · intro binding' hbinding' later hlater
            exact hacross other hother _ List.mem_cons_self binding' hbinding' later
              (List.mem_cons_of_mem _ hlater)
          · exact hacross other hother worker (List.mem_cons_of_mem _ hmem)
      · have hne : ∀ other ∈ before, ∀ binding' ∈ other.waiting, binding'.server ≠ binding.server :=
          fun other hother binding' hbinding' =>
            hacross other hother _ List.mem_cons_self binding' hbinding' binding List.mem_cons_self
        rw [← hfinish, ← finish_read hne]
        exact finish_eq (huses.shows hshows) (huses.standsAt hstands) hshows hstands _ _

theorem LeadsTo.run (hpool : pool.LeadsTo outcome world time)
    (hrun : Relation.ReflTransGen Step pool pool') : pool'.LeadsTo outcome world time := by
  induction hrun with
  | refl => exact hpool
  | tail _ hstep ih => exact ih.step hstep

theorem exists_done (pool : Pool) : ∃ last, Relation.ReflTransGen Step pool last ∧ last.IsDone := by
  -- on the number of bindings that still wait: each step takes one of them
  generalize hcount : (pool.workers.flatMap (·.waiting)).length = count
  induction count using Nat.strongRecOn generalizing pool with
  | _ count ih =>
      by_cases hdone : pool.IsDone
      · exact ⟨pool, .refl, hdone⟩
      · obtain ⟨workers, registry, network⟩ := pool
        simp only [IsDone, Classical.not_forall, exists_prop] at hdone
        obtain ⟨⟨waiting, published⟩, hworker, hwaiting⟩ := hdone
        obtain ⟨binding, waiting, rfl⟩ := List.exists_cons_of_ne_nil hwaiting
        obtain ⟨before, after, rfl⟩ := List.append_of_mem hworker
        have hstep : Step ⟨before ++ ⟨binding :: waiting, published⟩ :: after, registry, network⟩ _ :=
          .read
        have hfewer : ((before ++ ⟨waiting, published ++
            ((readBinding registry binding).run network).1.2⟩ :: after).flatMap (·.waiting)).length <
            count := by
          rw [← hcount]
          simp only [List.flatMap_append, List.flatMap_cons, List.length_append, List.length_cons]
          omega
        obtain ⟨last, hrun, hlast⟩ := ih _ hfewer ⟨_, _, _⟩ rfl
        exact ⟨last, .head hstep hrun, hlast⟩

theorem leadsTo_start {network : Network} (hworld : network.Shows world)
    (htime : network.StandsAt time) (poller : Poller) (registry : Registry) :
    (start poller registry network).LeadsTo
      (((poller.tick registry).run network).1.1.2, ((poller.tick registry).run network).1.2)
      world time := by
  have huses : Online.Uses true false Online.now := .now rfl
  have hworld' : network.read.Shows world := huses.shows hworld
  have htime' : network.read.StandsAt time := huses.standsAt htime
  refine ⟨separate_start poller registry network, hworld', htime', ?_⟩
  simp only [start, tick, Online.run_bind, Online.run_now, Online.run_pure,
    run_readBindings_fst hworld' htime']
  rw [agenda, List.flatMap, ← finish_start, List.map_map]
  rfl

/-- The worker at a position reads its next binding, if it has one. -/
def turn (pool : Pool) (position : Nat) : Pool :=
  match pool.workers[position]? with
  | some ⟨binding :: waiting, published⟩ =>
    let ((registry, more), network) := (readBinding pool.registry binding).run pool.network
    ⟨pool.workers.set position ⟨waiting, published ++ more⟩, registry, network⟩
  | _ => pool

theorem run_turn (pool : Pool) (position : Nat) :
    Relation.ReflTransGen Step pool (pool.turn position) := by
  obtain ⟨workers, registry, network⟩ := pool
  unfold turn
  split
  · rename_i binding waiting published hworker
    obtain ⟨hposition, hworker⟩ := List.getElem?_eq_some_iff.mp hworker
    have hsplit : workers.take position ++ ⟨binding :: waiting, published⟩ ::
        workers.drop (position + 1) = workers := by
      rw [← hworker, ← List.drop_eq_getElem_cons, List.take_append_drop]
    have hset : workers.set position
          ⟨waiting, published ++ ((readBinding registry binding).run network).1.2⟩ =
        workers.take position ++
          ⟨waiting, published ++ ((readBinding registry binding).run network).1.2⟩ ::
            workers.drop (position + 1) := by
      rw [List.set_eq_take_append_cons_drop, if_pos hposition]
    have hstep : Step ⟨workers.take position ++ ⟨binding :: waiting, published⟩ ::
        workers.drop (position + 1), registry, network⟩ _ := .read
    rw [hsplit, ← hset] at hstep
    exact .single hstep
  · exact .refl

/-- Whatever turns the workers take, it is a run of theirs. -/
theorem run_turns (pool : Pool) (positions : List Nat) :
    Relation.ReflTransGen Step pool (positions.foldl turn pool) := by
  induction positions generalizing pool with
  | nil => exact .refl
  | cons position positions ih => exact (pool.run_turn position).trans (ih _)

end Pool

/-- Servers may be read at the same time. However the workers take turns, they come to an end, and
then the registry and what there is to publish are those of a tick that reads one server after another. -/
theorem tick_eq_of_interleaved {network : Network} {time : Int} (hsteady : network.IsSteady)
    (htime : network.StandsAt time) {poller : Poller} {registry : Registry} {pool : Pool}
    (hrun : Relation.ReflTransGen Pool.Step (Pool.start poller registry network) pool) :
    (∃ last, Relation.ReflTransGen Pool.Step pool last ∧ last.IsDone) ∧
      (pool.IsDone →
        pool.registry = ((poller.tick registry).run network).1.1.2 ∧
        pool.published = ((poller.tick registry).run network).1.2 ∧
        pool.published.length = ((poller.tick registry).run network).1.2.length) := by
  have hworld : network.Shows ⟨fun url => (network.answer 0 url).page, network.reaches⟩ :=
    ⟨fun earlier url => congrArg Answer.page (hsteady earlier 0 url), rfl⟩
  refine ⟨pool.exists_done, fun hdone => ?_⟩
  have hfinish := ((Pool.leadsTo_start hworld htime poller registry).run hrun).finish
  rw [Pool.finish_of_done hdone] at hfinish
  obtain ⟨hregistry, hpublished⟩ := Prod.mk.inj hfinish
  exact ⟨hregistry, hpublished, congrArg List.length hpublished⟩

section Meters

/-- Two servers that are the same device. -/
def meters : Registry where
  library := []
  devices := [(.text "east", Device.meter), (.text "west", Device.meter)]

/-- The network of the devices, when pages take no time. -/
def promptNetwork : Network :=
  { Device.meterNetwork with
    answer := fun earlier url => ⟨(Device.meterNetwork.answer earlier url).page, 0⟩ }

def meterPoller : Poller :=
  ofBindings [⟨"1", "east", "power", .text, 0⟩, ⟨"2", "west", "power", .text, 0⟩,
    ⟨"3", "east", "status", .text, 0⟩, ⟨"4", "west", "status", .text, 0⟩]

theorem tick_meters_interleaved :
    promptNetwork.IsSteady ∧ promptNetwork.StandsAt 1000 ∧
      ∃ pool : Pool,
        Relation.ReflTransGen Pool.Step (Pool.start meterPoller meters promptNetwork) pool ∧
        pool.IsDone ∧ pool.registry = ((meterPoller.tick meters).run promptNetwork).1.1.2 ∧
        pool.published = ((meterPoller.tick meters).run promptNetwork).1.2 ∧
        pool.published.map (fun publication => (publication.binding.name, publication.reading)) =
          [("1", .text "42"), ("3", .text "3"), ("2", .text "42"), ("4", .text "3")] := by
  have hsteady : promptNetwork.IsSteady := fun _ _ _ => rfl
  have htime : promptNetwork.StandsAt 1000 := ⟨rfl, fun _ => rfl, fun _ _ => rfl⟩
  have hrun := (Pool.start meterPoller meters promptNetwork).run_turns [1, 0, 0, 1]
  have hdone :
      ([1, 0, 0, 1].foldl Pool.turn (Pool.start meterPoller meters promptNetwork)).IsDone := by
    unfold Pool.IsDone
    decide +kernel
  obtain ⟨hregistry, hpublished, -⟩ := (tick_eq_of_interleaved hsteady htime hrun).2 hdone
  refine ⟨hsteady, htime, _, hrun, hdone, hregistry, hpublished, ?_⟩
  decide +kernel

end Meters

end Telemetry.Poller
