import Mathlib.Data.List.Induction
import Mathlib.Data.List.Nodup
import Telemetry.Proofs.Poller.Workers

namespace Telemetry.Poller

/-- A binding to read and its position. -/
structure Task where
  position : Nat
  binding : Binding
deriving DecidableEq, Repr

/-- What is due, in the order of the positions. -/
def tasks (poller : Poller) (now : Int) : List Task :=
  (poller.slots.zipIdx.filter (·.1.isDue now)).map fun entry => ⟨entry.2, entry.1.binding⟩

def servers (tasks : List Task) : List String :=
  (tasks.map (·.binding.server)).eraseDups

def queue (tasks : List Task) (server : String) : List Task :=
  tasks.filter (·.binding.server = server)

/-- The tasks server by server: the servers as they first occur, for each the tasks as they stand. -/
def regrouped (tasks : List Task) : List Task :=
  (servers tasks).flatMap (queue tasks)

theorem map_binding_tasks (poller : Poller) (now : Int) :
    (poller.tasks now).map (·.binding) = poller.due now := by
  have hslots : poller.slots = poller.slots.zipIdx.map Prod.fst := (List.zipIdx_map_fst 0 _).symm
  rw [due, hslots, List.filter_map, List.map_map, tasks, List.map_map]
  rfl

theorem mem_tasks_iff {poller : Poller} {now : Int} {task : Task} :
    task ∈ poller.tasks now ↔
      ∃ slot, poller.slots[task.position]? = some slot ∧ slot.binding = task.binding ∧
        slot.isDue now = true := by
  rw [tasks, List.mem_map]
  constructor
  · rintro ⟨⟨slot, position⟩, hmem, rfl⟩
    obtain ⟨hslot, hdue⟩ := List.mem_filter.mp hmem
    exact ⟨slot, List.mem_zipIdx_iff_getElem?.mp hslot, rfl, hdue⟩
  · rintro ⟨slot, hslot, hbinding, hdue⟩
    refine ⟨(slot, task.position), ?_, by rw [hbinding]⟩
    exact List.mem_filter.mpr ⟨List.mem_zipIdx_iff_getElem?.mpr hslot, hdue⟩

theorem nodup_positions_tasks (poller : Poller) (now : Int) :
    ((poller.tasks now).map (·.position)).Nodup := by
  have hpositions : (poller.slots.zipIdx.map Prod.snd).Nodup := by
    rw [List.zipIdx_map_snd]
    exact List.nodup_range'
  rw [tasks, List.map_map]
  exact hpositions.sublist (List.filter_sublist.map _)

theorem keys_byServer (bindings : List Binding) :
    Keyed.keys (byServer bindings) = (bindings.map (·.server)).eraseDups := by
  -- from the end, because each binding is put behind those gathered so far
  induction bindings using List.reverseRecOn with
  | nil => rfl
  | append_singleton bindings binding ih =>
      have hknown : Keyed.has (byServer bindings) binding.server = true ↔
          binding.server ∈ bindings.map (·.server) := by
        rw [Keyed.has_iff_mem_keys, ih, List.mem_eraseDups]
      rw [byServer, List.foldl_append, List.foldl_cons, List.foldl_nil, ← byServer, addTo,
        Keyed.keys_put, ih, List.map_append, List.eraseDups_append]
      by_cases hmem : binding.server ∈ bindings.map (·.server)
      · have hremoved : ([binding].map (·.server)).removeAll (bindings.map (·.server)) = [] := by
          simpa [List.removeAll] using hmem
        rw [if_pos (hknown.mpr hmem), hremoved]
        exact (List.append_nil _).symm
      · have hkept : ([binding].map (·.server)).removeAll (bindings.map (·.server)) =
            [binding.server] := by
          simpa [List.removeAll] using hmem
        rw [if_neg (mt hknown.mp hmem), hkept]
        rfl

theorem byServer_eq (bindings : List Binding) :
    byServer bindings = (bindings.map (·.server)).eraseDups.map fun server =>
      (server, bindings.filter (·.server = server)) := by
  rw [← keys_byServer, Keyed.keys, List.map_map]
  conv_lhs => rw [← List.map_id (byServer bindings)]
  refine List.map_congr_left fun entry hentry => ?_
  rw [Function.comp_apply, ← eq_filter_of_mem_byServer hentry]
  rfl

section Regrouping

variable {poller : Poller} {now : Int}

theorem servers_tasks : servers (poller.tasks now) = ((poller.due now).map (·.server)).eraseDups := by
  rw [servers, ← map_binding_tasks, List.map_map]
  rfl

theorem map_binding_queue (server : String) :
    (queue (poller.tasks now) server).map (·.binding) =
      (poller.due now).filter (·.server = server) := by
  rw [queue, ← map_binding_tasks, List.filter_map]
  rfl

theorem byServer_due : byServer (poller.due now) = (servers (poller.tasks now)).map fun server =>
    (server, (queue (poller.tasks now) server).map (·.binding)) := by
  rw [byServer_eq, servers_tasks]
  refine List.map_congr_left fun server _ => ?_
  rw [map_binding_queue]

theorem map_binding_regrouped :
    (regrouped (poller.tasks now)).map (·.binding) = poller.agenda now := by
  rw [agenda, byServer_due, regrouped, List.map_flatMap, List.flatMap_map]

theorem nodup_servers : (servers (poller.tasks now)).Nodup := by
  rw [servers_tasks, ← keys_byServer]
  exact nodup_keys_byServer _

/-- Regrouping keeps every task, and keeps it once. -/
theorem regrouped_perm : (regrouped (poller.tasks now)).Perm (poller.tasks now) := by
  have htasks : (poller.tasks now).Nodup := (nodup_positions_tasks poller now).of_map _
  -- no task stands in two queues, as it has one server
  have hregrouped : (regrouped (poller.tasks now)).Nodup := by
    refine List.nodup_flatMap.mpr ⟨fun server _ => htasks.filter _, ?_⟩
    refine nodup_servers.imp fun hne task htask htask' => hne ?_
    have hserver := (List.mem_filter.mp htask).2
    have hserver' := (List.mem_filter.mp htask').2
    exact (of_decide_eq_true hserver).symm.trans (of_decide_eq_true hserver')
  refine (List.perm_ext_iff_of_nodup hregrouped htasks).mpr fun task => ?_
  simp only [regrouped, servers, queue, List.mem_flatMap, List.mem_eraseDups, List.mem_filter,
    List.mem_map, decide_eq_true_eq]
  constructor
  · rintro ⟨_, -, htask, -⟩
    exact htask
  · intro htask
    exact ⟨task.binding.server, ⟨task, htask, rfl⟩, htask, rfl⟩

theorem nodup_positions_regrouped :
    ((regrouped (poller.tasks now)).map (·.position)).Nodup :=
  (regrouped_perm.map _).nodup_iff.mpr (nodup_positions_tasks poller now)

theorem mem_regrouped_iff {task : Task} :
    task ∈ regrouped (poller.tasks now) ↔
      ∃ slot, poller.slots[task.position]? = some slot ∧ slot.binding = task.binding ∧
        slot.isDue now = true := by
  rw [regrouped_perm.mem_iff, mem_tasks_iff]

theorem mem_positions_regrouped_iff {position : Nat} {slot : Slot}
    (hslot : poller.slots[position]? = some slot) :
    position ∈ (regrouped (poller.tasks now)).map (·.position) ↔ slot.isDue now = true := by
  rw [List.mem_map]
  constructor
  · rintro ⟨task, htask, rfl⟩
    obtain ⟨slot', hslot', -, hdue⟩ := mem_regrouped_iff.mp htask
    rw [hslot] at hslot'
    obtain rfl : slot = slot' := Option.some.inj hslot'
    exact hdue
  · intro hdue
    exact ⟨⟨position, slot.binding⟩, mem_regrouped_iff.mpr ⟨slot, hslot, rfl, hdue⟩, rfl⟩

end Regrouping

end Telemetry.Poller
