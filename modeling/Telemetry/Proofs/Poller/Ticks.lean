import Telemetry.Proofs.Poller.Agenda

namespace Telemetry.Poller

/-- A task that was read, and the value if there was one. -/
structure Read where
  task : Task
  reading : Option Reading
deriving DecidableEq, Repr

def Read.publication? (read : Read) : Option Publication :=
  read.reading.map (⟨read.task.binding, ·⟩)

/-- What is reported about a read. -/
def Read.entries (read : Read) : Log.Journal :=
  match read.reading with
  | some _ => []
  | none => [⟨.debug, .poller, "No update for " ++ read.task.binding.name ++ " this tick"⟩]

/-- Reads made in turn: each is what the registry, as the earlier ones leave it, gives for a binding. -/
inductive Made : List Read → Registry → Network → Registry → Network → Prop
  | done {registry : Registry} {network : Network} : Made [] registry network registry network
  | read {task : Task} {reading : Option Reading} {reads : List Read}
      {registry registry' final : Registry} {network network' network'' : Network}
      (hreading : (registry.reading (.text task.binding.server) task.binding.channel
        task.binding.kind).run network = ((registry', reading), network'))
      (hreads : Made reads registry'
        (network'.reported (network'.journal ++ Read.entries ⟨task, reading⟩)) final network'') :
      Made (⟨task, reading⟩ :: reads) registry network final network''

def perform (registry : Registry) (task : Task) : Online (Registry × Read) := do
  let (registry, reading) ←
    registry.reading (.text task.binding.server) task.binding.channel task.binding.kind
  match reading with
  | some reading => pure (registry, ⟨task, some reading⟩)
  | none =>
    Online.note ⟨.debug, .poller, "No update for " ++ task.binding.name ++ " this tick"⟩
    pure (registry, ⟨task, none⟩)

def performAll (registry : Registry) : List Task → Online (Registry × List Read)
  | [] => pure (registry, [])
  | task :: tasks => do
    let (registry, read) ← perform registry task
    let (registry, reads) ← performAll registry tasks
    pure (registry, read :: reads)

/-- A tick with its record of reads. -/
def recordedTick (poller : Poller) (registry : Registry) :
    Online ((Poller × Registry) × List Read) := do
  let now ← Online.now
  let (registry, reads) ← performAll registry (regrouped (poller.tasks now))
  pure ((poller.stamped now, registry), reads)

theorem run_readBinding (registry : Registry) (task : Task) (network : Network) :
    (readBinding registry task.binding).run network =
      ((((perform registry task).run network).1.1,
          ((perform registry task).run network).1.2.publication?.toList),
        ((perform registry task).run network).2) := by
  simp only [readBinding, perform, Online.run_bind]
  generalize (registry.reading (.text task.binding.server) task.binding.channel
    task.binding.kind).run network = outcome
  obtain ⟨⟨registry', reading⟩, network'⟩ := outcome
  cases reading with
  | none => rfl
  | some reading => rfl

theorem run_perform (registry : Registry) (task : Task) (network : Network) :
    (perform registry task).run network =
      let outcome := (registry.reading (.text task.binding.server) task.binding.channel
        task.binding.kind).run network
      ((outcome.1.1, ⟨task, outcome.1.2⟩),
        outcome.2.reported (outcome.2.journal ++ Read.entries ⟨task, outcome.1.2⟩)) := by
  rw [perform, Online.run_bind]
  generalize (registry.reading (.text task.binding.server) task.binding.channel
    task.binding.kind).run network = outcome
  obtain ⟨⟨registry', reading⟩, network'⟩ := outcome
  cases reading with
  | none => rfl
  | some reading =>
      simp only [Read.entries, List.append_nil]
      rfl

theorem task_perform (registry : Registry) (task : Task) (network : Network) :
    ((perform registry task).run network).1.2.task = task := by
  rw [run_perform]

theorem map_task_performAll (registry : Registry) (tasks : List Task) (network : Network) :
    ((performAll registry tasks).run network).1.2.map (·.task) = tasks := by
  induction tasks generalizing registry network with
  | nil => rfl
  | cons task tasks ih =>
      simp only [performAll, Online.run_bind, Online.run_pure, List.map_cons, task_perform, ih]

theorem made_performAll (registry : Registry) (tasks : List Task) (network : Network) :
    Made ((performAll registry tasks).run network).1.2 registry network
      ((performAll registry tasks).run network).1.1 ((performAll registry tasks).run network).2 := by
  induction tasks generalizing registry network with
  | nil => exact .done
  | cons task tasks ih =>
      simp only [performAll, Online.run_bind, Online.run_pure, run_perform]
      exact .read rfl (ih _ _)

theorem run_readBindings (registry : Registry) (tasks : List Task) (network : Network) :
    (readBindings registry (tasks.map (·.binding))).run network =
      ((((performAll registry tasks).run network).1.1,
          ((performAll registry tasks).run network).1.2.filterMap Read.publication?),
        ((performAll registry tasks).run network).2) := by
  induction tasks generalizing registry network with
  | nil => rfl
  | cons task tasks ih =>
      simp only [List.map_cons, readBindings, performAll, Online.run_bind, Online.run_pure,
        run_readBinding, ih, List.filterMap_cons]
      cases ((perform registry task).run network).1.2.publication? with
      | none => rfl
      | some publication => rfl

theorem run_tick (poller : Poller) (registry : Registry) (network : Network) :
    (poller.tick registry).run network =
      ((((poller.recordedTick registry).run network).1.1,
          ((poller.recordedTick registry).run network).1.2.filterMap Read.publication?),
        ((poller.recordedTick registry).run network).2) := by
  simp only [tick, recordedTick, Online.run_bind, Online.run_now, Online.run_pure,
    ← map_binding_regrouped, run_readBindings]

theorem map_task_recordedTick (poller : Poller) (registry : Registry) (network : Network) :
    ((poller.recordedTick registry).run network).1.2.map (·.task) =
      regrouped (poller.tasks network.reading) := by
  simp only [recordedTick, Online.run_bind, Online.run_now, Online.run_pure, map_task_performAll]

theorem made_recordedTick (poller : Poller) (registry : Registry) (network : Network) :
    Made ((poller.recordedTick registry).run network).1.2 registry network.read
      ((poller.recordedTick registry).run network).1.1.2
      ((poller.recordedTick registry).run network).2 := by
  simp only [recordedTick, Online.run_bind, Online.run_now, Online.run_pure]
  exact made_performAll _ _ _

theorem length_filterMap_publication? (reads : List Read) :
    (reads.filterMap Read.publication?).length = reads.countP (·.reading.isSome) := by
  rw [List.length_filterMap_eq_countP]
  refine List.countP_congr fun read _ => ?_
  rw [Read.publication?, Option.isSome_map]

theorem filterMap_publication?_singleton (read : Read) :
    [read].filterMap Read.publication? = read.publication?.toList := by
  rw [List.filterMap_cons]
  cases read.publication? with
  | none => rfl
  | some publication => rfl

/-- A worker with its positions and the record of what it has read. -/
structure Hand where
  waiting : List Task
  reads : List Read := []

def Hand.worker (hand : Hand) : Worker where
  waiting := hand.waiting.map (·.binding)
  published := hand.reads.filterMap Read.publication?

/-- Workers at work. What all of them have read is recorded in the order of time. -/
structure Crew where
  hands : List Hand
  registry : Registry
  network : Network
  record : List Read := []

namespace Crew

/-- The workers without positions and records. -/
def pool (crew : Crew) : Pool :=
  ⟨crew.hands.map Hand.worker, crew.registry, crew.network⟩

/-- What has been read, worker by worker. -/
def reads (crew : Crew) : List Read :=
  crew.hands.flatMap (·.reads)

inductive Step : Crew → Crew → Prop
  | read {before after : List Hand} {task : Task} {waiting : List Task} {reads record : List Read}
      {registry : Registry} {network : Network} :
      Step ⟨before ++ ⟨task :: waiting, reads⟩ :: after, registry, network, record⟩
        ⟨before ++ ⟨waiting, reads ++ [((perform registry task).run network).1.2]⟩ :: after,
          ((perform registry task).run network).1.1, ((perform registry task).run network).2,
          record ++ [((perform registry task).run network).1.2]⟩

def start (poller : Poller) (registry : Registry) (network : Network) : Crew where
  hands := (servers (poller.tasks network.reading)).map fun server =>
    ⟨queue (poller.tasks network.reading) server, []⟩
  registry := registry
  network := network.read

theorem pool_start (poller : Poller) (registry : Registry) (network : Network) :
    (start poller registry network).pool = Pool.start poller registry network := by
  rw [Pool.start, byServer_due, List.map_map]
  rw [pool, start, List.map_map]
  rfl

theorem exists_step {crew : Crew} {pool : Pool} (hstep : Pool.Step crew.pool pool) :
    ∃ crew', Step crew crew' ∧ crew'.pool = pool := by
  obtain ⟨hands, registry, network, record⟩ := crew
  generalize hpool : Crew.pool ⟨hands, registry, network, record⟩ = current at hstep
  cases hstep with
  | @read before after binding waiting published registry' network' =>
      -- the worker that reads has a hand behind it, and the binding a task
      obtain ⟨hworkers, rfl, rfl⟩ := Pool.mk.inj hpool
      obtain ⟨front, rest, rfl, rfl, hrest⟩ := List.map_eq_append_iff.mp hworkers
      obtain ⟨⟨tasks, reads⟩, back, rfl, hhand, rfl⟩ := List.map_eq_cons_iff.mp hrest
      obtain ⟨hwaiting, rfl⟩ := Worker.mk.inj hhand
      obtain ⟨task, later, rfl, rfl, rfl⟩ := List.map_eq_cons_iff.mp hwaiting
      refine ⟨_, .read, ?_⟩
      simp only [pool, List.map_append, List.map_cons, Hand.worker, run_readBinding,
        List.filterMap_append, filterMap_publication?_singleton]

theorem exists_run {crew : Crew} {pool : Pool} (hrun : Relation.ReflTransGen Pool.Step crew.pool pool) :
    ∃ crew', Relation.ReflTransGen Step crew crew' ∧ crew'.pool = pool := by
  induction hrun with
  | refl => exact ⟨crew, .refl, rfl⟩
  | tail _ hstep ih =>
      obtain ⟨middle, hmiddle, rfl⟩ := ih
      obtain ⟨crew', hstep', hpool⟩ := exists_step hstep
      exact ⟨crew', hmiddle.tail hstep', hpool⟩

/-- Every hand has read the first of its tasks and has the others before it, and nothing was read
that no hand has read. -/
structure Accounts (queues : List (List Task)) (crew : Crew) : Prop where
  queues : crew.hands.map (fun hand => hand.reads.map (·.task) ++ hand.waiting) = queues
  record : crew.record.Perm crew.reads

variable {queues : List (List Task)} {crew crew' : Crew}

theorem reads_split {before after : List Hand} {waiting : List Task} {reads record : List Read}
    {registry : Registry} {network : Network} :
    Crew.reads ⟨before ++ ⟨waiting, reads⟩ :: after, registry, network, record⟩ =
      before.flatMap (·.reads) ++ (reads ++ after.flatMap (·.reads)) := by
  rw [Crew.reads, List.flatMap_append, List.flatMap_cons]

theorem accounts_start (poller : Poller) (registry : Registry) (network : Network) :
    Accounts ((servers (poller.tasks network.reading)).map (queue (poller.tasks network.reading)))
      (start poller registry network) := by
  constructor
  · rw [start, List.map_map]
    rfl
  · rw [reads, start, List.flatMap_map]
    simp

theorem Accounts.step (haccounts : Accounts queues crew) (hstep : Step crew crew') :
    Accounts queues crew' := by
  obtain ⟨hqueues, hrecord⟩ := haccounts
  cases hstep with
  | @read before after task waiting reads record registry network =>
      constructor
      · -- the task goes over from the waiting ones to those that were read
        rw [← hqueues]
        simp only [List.map_append, List.map_cons, task_perform, List.map_nil, List.append_assoc,
          List.singleton_append]
      · rw [reads_split] at hrecord ⊢
        refine (hrecord.append_right _).trans ?_
        rw [List.append_assoc, List.append_assoc, List.append_assoc]
        exact (List.perm_append_comm.append_left _).append_left _

theorem Accounts.run (haccounts : Accounts queues crew)
    (hrun : Relation.ReflTransGen Step crew crew') : Accounts queues crew' := by
  induction hrun with
  | refl => exact haccounts
  | tail _ hstep ih => exact ih.step hstep

theorem Accounts.map_task_reads (haccounts : Accounts queues crew) (hdone : crew.pool.IsDone) :
    crew.reads.map (·.task) = queues.flatten := by
  rw [reads, List.map_flatMap, ← haccounts.queues, List.flatMap]
  congr 1
  refine List.map_congr_left fun hand hhand => ?_
  have hwaiting := hdone hand.worker (List.mem_map_of_mem hhand)
  rw [List.map_eq_nil_iff.mp hwaiting, List.append_nil]

theorem published_pool (crew : Crew) :
    crew.pool.published = crew.reads.filterMap Read.publication? := by
  rw [Pool.published, pool, List.flatMap_map, reads, List.filterMap_flatMap]
  rfl

end Crew

/-- Every due position is read once and nothing else is, server by server. What is published is what
was read, in that order, without what was absent. The due positions are stamped, the others are left as
they were. It is the same if the servers are read at the same time, whatever turns the workers take. -/
theorem tick_reads_each_due_once (poller : Poller) (registry : Registry) (network : Network) :
    let now := network.reading
    let tasks := regrouped (poller.tasks now)
    let outcome := (poller.recordedTick registry).run network
    let reads := outcome.1.2
    (poller.tick registry).run network =
        ((outcome.1.1, reads.filterMap Read.publication?), outcome.2) ∧
      reads.map (·.task) = tasks ∧
      (tasks.map (·.position)).Nodup ∧
      (∀ task, task ∈ tasks ↔ ∃ slot, poller.slots[task.position]? = some slot ∧
        slot.binding = task.binding ∧ slot.isDue now = true) ∧
      ((poller.tick registry).run network).1.2.length = reads.countP (·.reading.isSome) ∧
      (∀ position : Nat, outcome.1.1.1.slots[position]? =
        poller.slots[position]?.map fun slot : Slot =>
          if slot.isDue now then { slot with lastRead := some now } else slot) ∧
      ∀ pool, Relation.ReflTransGen Pool.Step (Pool.start poller registry network) pool →
        pool.IsDone → ∃ crew : Crew,
          Relation.ReflTransGen Crew.Step (Crew.start poller registry network) crew ∧
          crew.pool = pool ∧ crew.reads.map (·.task) = tasks ∧ crew.record.Perm crew.reads ∧
          pool.published = crew.reads.filterMap Read.publication? := by
  refine ⟨run_tick poller registry network, map_task_recordedTick poller registry network,
    nodup_positions_regrouped, fun task => mem_regrouped_iff, ?_, ?_, ?_⟩
  · rw [run_tick]
    exact length_filterMap_publication? _
  · intro position
    exact List.getElem?_map
  · intro pool hrun hdone
    rw [← Crew.pool_start] at hrun
    obtain ⟨crew, hcrew, rfl⟩ := Crew.exists_run hrun
    have haccounts := (Crew.accounts_start poller registry network).run hcrew
    exact ⟨crew, hcrew, rfl, haccounts.map_task_reads hdone, haccounts.record, crew.published_pool⟩

section Meters

/-- Of the six positions the first is not due, the third and the fifth are equal, and the fourth has
nothing to give. -/
def crowdedPoller : Poller where
  slots := [⟨⟨"early", "east", "power", .text, 500⟩, some 900⟩,
    ⟨⟨"west", "west", "power", .text, 0⟩, none⟩, ⟨⟨"east", "east", "power", .text, 100⟩, some 900⟩,
    ⟨⟨"gone", "west", "gone", .text, 0⟩, none⟩, ⟨⟨"east", "east", "power", .text, 100⟩, some 900⟩,
    ⟨⟨"state", "west", "status", .text, 0⟩, some 400⟩]

/-- The end of a run in which the east is read between the readings of the west. -/
def crowdedPool : Pool :=
  [0, 1, 0, 1, 0].foldl Pool.turn (Pool.start crowdedPoller meters promptNetwork)

theorem tick_crowdedPoller :
    Relation.ReflTransGen Pool.Step (Pool.start crowdedPoller meters promptNetwork) crowdedPool ∧
      crowdedPool.IsDone ∧
      ∃ reads : List Read,
        reads.map (·.task.position) = [1, 3, 5, 2, 4] ∧
        crowdedPool.published = reads.filterMap Read.publication? ∧
        crowdedPool.published.map
            (fun publication => (publication.binding.name, publication.reading)) =
          [("west", .text "42"), ("state", .text "3"), ("east", .text "42"), ("east", .text "42")] ∧
        ((crowdedPoller.tick meters).run promptNetwork).1.1.1.slots.map (·.lastRead) =
          [some 900, some 1000, some 1000, some 1000, some 1000, some 1000] := by
  have hrun : Relation.ReflTransGen Pool.Step (Pool.start crowdedPoller meters promptNetwork)
      crowdedPool := Pool.run_turns _ _
  have hdone : crowdedPool.IsDone := by
    unfold Pool.IsDone
    decide +kernel
  obtain ⟨crew, -, -, htasks, -, hpublished⟩ :=
    (tick_reads_each_due_once crowdedPoller meters promptNetwork).2.2.2.2.2.2 crowdedPool hrun hdone
  have hpositions : crew.reads.map (·.task.position) = [1, 3, 5, 2, 4] := by
    have hregrouped : (regrouped (crowdedPoller.tasks promptNetwork.reading)).map (·.position) =
        [1, 3, 5, 2, 4] := by decide +kernel
    rw [← hregrouped, ← htasks, List.map_map]
    rfl
  refine ⟨hrun, hdone, crew.reads, hpositions, hpublished, ?_, ?_⟩
  · decide +kernel
  · decide +kernel

end Meters

end Telemetry.Poller
