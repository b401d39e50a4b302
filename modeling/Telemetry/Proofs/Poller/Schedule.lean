import Mathlib.Algebra.Order.Floor.Div
import Mathlib.Data.List.Chain
import Mathlib.Data.Rat.Floor
import Telemetry.Proofs.Poller.Ticks

/-!
When the bindings of a poller are read. A history lists the ticks of a poller since it was made, the
latest first, each with its time and the positions that it read; the registry and the network may be
others at every tick. What carries everything is that a slot holds the time of the last tick that read
its position.
-/

namespace Telemetry.Poller

structure Visit where
  time : Int
  positions : List Nat
deriving DecidableEq, Repr

inductive History (bindings : List Binding) : List Visit → Poller → Prop
  | start : History bindings [] (ofBindings bindings)
  | tick {visits : List Visit} {poller next : Poller} {registry registry' : Registry}
      {network network' : Network} {reads : List Read} (hhistory : History bindings visits poller)
      (hrecorded : (poller.recordedTick registry).run network = (((next, registry'), reads), network'))
      (htick : (poller.tick registry).run network =
        (((next, registry'), reads.filterMap Read.publication?), network')) :
      History bindings (⟨network.reading, reads.map (·.task.position)⟩ :: visits) next

def lastVisit (position : Nat) (earlier : List Visit) : Option Int :=
  (earlier.find? fun visit => position ∈ visit.positions).map (·.time)

/-- Every how many ticks a binding is read, if there is the same time between any two of them. -/
def stride (refresh spacing : Int) : Nat :=
  (max 1 ⌈(refresh : ℚ) / spacing⌉).toNat

/-- Ticks with the same time between any two of them. -/
def Spaced (spacing : Int) (visits : List Visit) : Prop :=
  visits.IsChain fun visit previous => visit.time = previous.time + spacing

theorem lastVisit_cons (position : Nat) (visit : Visit) (earlier : List Visit) :
    lastVisit position (visit :: earlier) =
      if position ∈ visit.positions then some visit.time else lastVisit position earlier := by
  rw [lastVisit, List.find?_cons]
  by_cases hmem : position ∈ visit.positions
  · rw [if_pos hmem, decide_eq_true hmem]
    rfl
  · rw [if_neg hmem, decide_eq_false hmem]
    rfl

/-- A tick with what it reads. -/
theorem exists_recordedTick (poller : Poller) (registry : Registry) (network : Network) :
    ∃ reads registry' network',
      (poller.recordedTick registry).run network =
        (((poller.stamped network.reading, registry'), reads), network') ∧
      (poller.tick registry).run network =
        (((poller.stamped network.reading, registry'), reads.filterMap Read.publication?), network') :=
  ⟨_, _, _, rfl, run_tick poller registry network⟩

theorem of_recordedTick {poller next : Poller} {registry registry' : Registry}
    {network network' : Network} {reads : List Read}
    (hrecorded : (poller.recordedTick registry).run network = (((next, registry'), reads), network')) :
    next = poller.stamped network.reading ∧
      reads.map (·.task) = regrouped (poller.tasks network.reading) ∧
      reads.map (·.task.position) = (regrouped (poller.tasks network.reading)).map (·.position) := by
  obtain ⟨reads', registry'', network'', hrecorded', -⟩ := exists_recordedTick poller registry network
  have htasks := map_task_recordedTick poller registry network
  rw [hrecorded] at htasks hrecorded'
  refine ⟨congrArg (·.1.1.1) hrecorded', htasks, ?_⟩
  rw [← htasks, List.map_map]
  rfl

theorem isDue_iff {binding : Binding} {lastRead : Option Int} {now : Int} :
    Slot.isDue ⟨binding, lastRead⟩ now = true ↔
      ∀ last ∈ lastRead, last + binding.refresh ≤ now := by
  cases lastRead with
  | none => simp [Slot.isDue]
  | some last => simp [Slot.isDue]

section Stride

variable {refresh spacing : Int} {count : Nat}

theorem stride_pos : 0 < stride refresh spacing := by
  have hone : (1 : Int) ≤ max 1 ⌈(refresh : ℚ) / spacing⌉ := le_max_left _ _
  rw [stride]
  omega

theorem stride_le_iff (hspacing : 1 ≤ spacing) (hcount : 1 ≤ count) :
    stride refresh spacing ≤ count ↔ refresh ≤ count * spacing := by
  have hpos : (0 : ℚ) < spacing := by exact_mod_cast hspacing
  have hone : (1 : Int) ≤ count := by exact_mod_cast hcount
  rw [stride, Int.toNat_le, max_le_iff, and_iff_right hone, Int.ceil_le, div_le_iff₀ hpos]
  norm_cast

theorem le_mod_add_one_iff {k : Nat} (hk : 0 < k) : k ≤ count % k + 1 ↔ k ∣ count + 1 := by
  have hdivision : count + 1 = k * (count / k) + (count % k + 1) := by
    rw [← Nat.add_assoc, Nat.div_add_mod]
  constructor
  · intro hle
    have hlt := Nat.mod_lt count hk
    have hremainder : count % k + 1 = k := by omega
    rw [hdivision, hremainder]
    exact Dvd.intro (count / k + 1) rfl
  · intro hdvd
    rw [hdivision, Nat.dvd_add_right (Dvd.intro _ rfl)] at hdvd
    exact Nat.le_of_dvd (Nat.succ_pos _) hdvd

theorem mod_of_not_dvd {k : Nat} (hk : 0 < k) (hdvd : ¬k ∣ count + 1) :
    (count + 1) % k = count % k + 1 := by
  have hlt : count % k + 1 < k := by
    rw [← le_mod_add_one_iff hk] at hdvd
    omega
  rw [Nat.add_mod, Nat.mod_eq_of_lt (show 1 < k by omega), Nat.mod_eq_of_lt hlt]

theorem ceilDiv_succ {k : Nat} (hk : 0 < k) :
    (count + 1) ⌈/⌉ k = count ⌈/⌉ k + if k ∣ count then 1 else 0 := by
  have hshift : count + 1 + k - 1 = count + k - 1 + 1 := by omega
  have hsum : count + k - 1 + 1 = count + k := by omega
  rw [Nat.ceilDiv_eq_add_pred_div, Nat.ceilDiv_eq_add_pred_div, hshift, Nat.succ_div, hsum]
  simp only [Nat.dvd_add_self_right]

end Stride

variable {bindings : List Binding} {visits earlier later : List Visit} {visit : Visit}
  {poller : Poller} {position : Nat} {binding : Binding} {spacing : Int}

namespace History

/-- A slot holds the time of the last visit to its position. -/
theorem slots_eq (hhistory : History bindings visits poller) (position : Nat) :
    poller.slots[position]? =
      bindings[position]?.map fun binding => ⟨binding, lastVisit position visits⟩ := by
  induction hhistory with
  | start => exact List.getElem?_map
  | @tick visits poller _ _ _ network _ _ _ hrecorded _ ih =>
      obtain ⟨rfl, -, hpositions⟩ := of_recordedTick hrecorded
      rw [hpositions, stamped, List.getElem?_map, ih, Option.map_map]
      cases hbinding : bindings[position]? with
      | none => rfl
      | some binding =>
          rw [hbinding] at ih
          -- the slot is stamped exactly if its position is read
          have hread : position ∈ (regrouped (poller.tasks network.reading)).map (·.position) ↔
              Slot.isDue ⟨binding, lastVisit position visits⟩ network.reading = true :=
            mem_positions_regrouped_iff ih
          rw [Option.map_some, Option.map_some, lastVisit_cons, Function.comp_apply, Slot.stamped]
          by_cases hdue : Slot.isDue ⟨binding, lastVisit position visits⟩ network.reading = true
          · rw [if_pos hdue, if_pos (hread.mpr hdue)]
          · rw [if_neg hdue, if_neg (mt hread.mp hdue)]

/-- Whatever the registry and the network are, a tick goes on with the history: by the positions of the
reads that it makes. -/
theorem next (hhistory : History bindings visits poller) (registry : Registry) (network : Network) :
    ∃ reads registry' network',
      (poller.tick registry).run network =
        (((poller.stamped network.reading, registry'), reads.filterMap Read.publication?), network') ∧
      Made reads registry network.read registry' network' ∧
      (∀ read ∈ reads, bindings[read.task.position]? = some read.task.binding) ∧
      History bindings (⟨network.reading, reads.map (·.task.position)⟩ :: visits)
        (poller.stamped network.reading) := by
  obtain ⟨reads, registry', network', hrecorded, htick⟩ := exists_recordedTick poller registry network
  have hmade := made_recordedTick poller registry network
  rw [hrecorded] at hmade
  refine ⟨reads, registry', network', htick, hmade, ?_, .tick hhistory hrecorded htick⟩
  intro read hread
  obtain ⟨-, htasks, -⟩ := of_recordedTick hrecorded
  have htask : read.task ∈ regrouped (poller.tasks network.reading) :=
    htasks ▸ List.mem_map_of_mem hread
  obtain ⟨slot, hslot, hbinding, -⟩ := mem_regrouped_iff.mp htask
  rw [hhistory.slots_eq, Option.map_eq_some_iff] at hslot
  obtain ⟨binding, hfound, rfl⟩ := hslot
  rw [hfound, ← hbinding]

theorem tick_of_positions (hhistory : History bindings visits poller) (registry : Registry)
    (network : Network) {positions : List Nat}
    (hpositions : (regrouped (poller.tasks network.reading)).map (·.position) = positions) :
    History bindings (⟨network.reading, positions⟩ :: visits) (poller.stamped network.reading) := by
  obtain ⟨reads, registry', network', hrecorded, htick⟩ := exists_recordedTick poller registry network
  obtain ⟨-, -, hreads⟩ := of_recordedTick hrecorded
  rw [← hpositions, ← hreads]
  exact .tick hhistory hrecorded htick

theorem previous (hhistory : History bindings (visit :: visits) poller) :
    ∃ poller', History bindings visits poller' := by
  cases hhistory with
  | tick hhistory => exact ⟨_, hhistory⟩

theorem of_append (hhistory : History bindings (later ++ visits) poller) :
    ∃ poller', History bindings visits poller' := by
  induction later generalizing poller with
  | nil => exact ⟨poller, hhistory⟩
  | cons visit later ih =>
      obtain ⟨poller', hhistory⟩ := hhistory.previous
      exact ih hhistory

theorem nodup_positions (hhistory : History bindings (visit :: earlier) poller) :
    visit.positions.Nodup := by
  cases hhistory with
  | tick _ hrecorded _ =>
      obtain ⟨-, -, hpositions⟩ := of_recordedTick hrecorded
      rw [hpositions]
      exact nodup_positions_regrouped

theorem mem_positions_iff (hhistory : History bindings (visit :: earlier) poller)
    (hbinding : bindings[position]? = some binding) :
    position ∈ visit.positions ↔
      ∀ last ∈ lastVisit position earlier, last + binding.refresh ≤ visit.time := by
  cases hhistory with
  | tick hhistory hrecorded _ =>
      obtain ⟨-, -, hpositions⟩ := of_recordedTick hrecorded
      have hslot := hhistory.slots_eq position
      rw [hbinding] at hslot
      rw [hpositions, mem_positions_regrouped_iff hslot, isDue_iff]

theorem count_positions (hhistory : History bindings (visit :: earlier) poller)
    (hbinding : bindings[position]? = some binding) :
    visit.positions.count position =
      if ∀ last ∈ lastVisit position earlier, last + binding.refresh ≤ visit.time then 1 else 0 := by
  split
  · rename_i hdue
    exact List.count_eq_one_of_mem hhistory.nodup_positions
      ((hhistory.mem_positions_iff hbinding).mpr hdue)
  · rename_i hdue
    exact List.count_eq_zero.mpr (mt (hhistory.mem_positions_iff hbinding).mp hdue)

/-- At equal distances the last visit lies as many ticks back as the number of the tick exceeds a
multiple of the stride. -/
theorem lastVisit_spaced (hhistory : History bindings (visit :: earlier) poller)
    (hbinding : bindings[position]? = some binding) (hspacing : 1 ≤ spacing)
    (hspaced : Spaced spacing (visit :: earlier)) :
    (position ∈ visit.positions ↔ stride binding.refresh spacing ∣ earlier.length) ∧
      lastVisit position (visit :: earlier) =
        some (visit.time - (earlier.length % stride binding.refresh spacing : Nat) * spacing) := by
  have hpos : 0 < stride binding.refresh spacing := stride_pos
  induction earlier generalizing visit poller with
  | nil =>
      have hmem : position ∈ visit.positions := by
        rw [hhistory.mem_positions_iff hbinding]
        intro last hlast
        cases hlast
      refine ⟨iff_of_true hmem (dvd_zero _), ?_⟩
      rw [lastVisit_cons, if_pos hmem, List.length_nil, Nat.zero_mod, Nat.cast_zero, zero_mul, sub_zero]
  | cons previous earlier ih =>
      obtain ⟨poller', hprevious⟩ := hhistory.previous
      obtain ⟨htime, hspaced⟩ := List.isChain_cons_cons.mp hspaced
      obtain ⟨-, hlast⟩ := ih hprevious hspaced
      -- one tick later the last visit lies one spacing further back
      have hfurther : ((earlier.length % stride binding.refresh spacing + 1 : Nat) : Int) * spacing =
          (earlier.length % stride binding.refresh spacing : Nat) * spacing + spacing := by
        push_cast
        ring
      have hmem : position ∈ visit.positions ↔
          stride binding.refresh spacing ∣ (previous :: earlier).length := by
        rw [List.length_cons, ← le_mod_add_one_iff hpos,
          stride_le_iff hspacing (Nat.le_add_left 1 _), hhistory.mem_positions_iff hbinding, hlast,
          htime, hfurther]
        simp only [Option.mem_some_iff, forall_eq']
        omega
      refine ⟨hmem, ?_⟩
      rw [lastVisit_cons, hlast]
      by_cases hdvd : stride binding.refresh spacing ∣ (previous :: earlier).length
      · rw [if_pos (hmem.mpr hdvd), Nat.mod_eq_zero_of_dvd hdvd, Nat.cast_zero, zero_mul, sub_zero]
      · rw [if_neg (mt hmem.mp hdvd), List.length_cons, mod_of_not_dvd hpos hdvd, htime, hfurther,
          add_sub_add_right_eq_sub]

theorem countP_spaced (hhistory : History bindings visits poller)
    (hbinding : bindings[position]? = some binding) (hspacing : 1 ≤ spacing)
    (hspaced : Spaced spacing visits) :
    visits.countP (position ∈ ·.positions) =
      visits.length ⌈/⌉ stride binding.refresh spacing := by
  induction visits generalizing poller with
  | nil => rw [List.countP_nil, List.length_nil, zero_ceilDiv]
  | cons visit visits ih =>
      obtain ⟨poller', hrest⟩ := hhistory.previous
      obtain ⟨hmem, -⟩ := hhistory.lastVisit_spaced hbinding hspacing hspaced
      rw [List.countP_cons, ih hrest hspaced.tail, List.length_cons, ceilDiv_succ stride_pos]
      simp only [hmem, decide_eq_true_eq]

/-- The ticks of the polling loop go on with a history; there are as many as it was to make, unless it
cannot wait. -/
theorem run {state : Run} (hhistory : History bindings visits state.poller) (granularity : Int)
    (ticks : Nat) (network : Network) :
    ∃ later, History bindings (later ++ visits)
        ((Poller.run granularity ticks state).run network).1.poller ∧
      (∀ wait, seconds granularity = .ok wait → later.length = ticks) := by
  induction ticks generalizing state visits network with
  | zero => exact ⟨[], hhistory, fun _ _ => rfl⟩
  | succ ticks ih =>
      obtain ⟨reads, registry, network', htick, -, -, hvisited⟩ :=
        hhistory.next state.registry network
      generalize Visit.mk network.reading (reads.map (·.task.position)) = visit at hvisited
      rw [Poller.run, Online.run_bind, htick]
      cases hseconds : seconds granularity with
      | error fault => exact ⟨[visit], hvisited, fun _ hwait => nomatch hwait⟩
      | ok wait =>
          let next : Run :=
            ⟨state.poller.stamped network.reading, registry,
              state.published ++ reads.filterMap Read.publication?, state.waits ++ [wait], state.fault⟩
          have hnext : History bindings (visit :: visits) next.poller := hvisited
          obtain ⟨later, hlater, hlength⟩ := ih hnext ((Online.wait (waitMillis wait)).run network').2
          refine ⟨later ++ [visit], ?_, ?_⟩
          · rw [List.append_assoc]
            exact hlater
          · intro _ _
            rw [List.length_append, hlength wait hseconds, List.length_singleton]

end History

/-- A tick makes the reads that the history lists. A position is read at the first tick, and after that
exactly when its interval has passed since it was read last, once at a time. With the same time between
the ticks it is read at every so many of them, counted from the first. -/
theorem read_on_schedule (hhistory : History bindings visits poller)
    (hbinding : bindings[position]? = some binding) :
    (∀ registry network, ∃ reads registry' network',
      (poller.tick registry).run network =
        (((poller.stamped network.reading, registry'), reads.filterMap Read.publication?), network') ∧
      Made reads registry network.read registry' network' ∧
      (∀ read ∈ reads, bindings[read.task.position]? = some read.task.binding) ∧
      History bindings (⟨network.reading, reads.map (·.task.position)⟩ :: visits)
        (poller.stamped network.reading)) ∧
    (∀ later visit earlier, visits = later ++ visit :: earlier →
      visit.positions.count position =
        if ∀ last ∈ lastVisit position earlier, last + binding.refresh ≤ visit.time then 1
        else 0) ∧
    ∀ spacing, 1 ≤ spacing → Spaced spacing visits →
      (∀ later visit earlier, visits = later ++ visit :: earlier →
        (position ∈ visit.positions ↔ stride binding.refresh spacing ∣ earlier.length)) ∧
      visits.countP (position ∈ ·.positions) =
        visits.length ⌈/⌉ stride binding.refresh spacing := by
  refine ⟨hhistory.next, ?_, ?_⟩
  · rintro later visit earlier rfl
    obtain ⟨poller', hhistory⟩ := hhistory.of_append
    exact hhistory.count_positions hbinding
  · intro spacing hspacing hspaced
    refine ⟨?_, hhistory.countP_spaced hbinding hspacing hspaced⟩
    rintro later visit earlier rfl
    obtain ⟨poller', hhistory⟩ := hhistory.of_append
    exact (hhistory.lastVisit_spaced hbinding hspacing hspaced.right_of_append).1

section Meters

/-- Two bindings of one name, the second of a server that has no such value. Its interval is a little
longer than two spacings. -/
def namesakes : List Binding :=
  [⟨"Temp", "east", "power", .text, 5000⟩, ⟨"Temp", "west", "gone", .text, 10001⟩]

def networkAt (time : Int) : Network :=
  { promptNetwork with now := time }

def namesakeVisits : List Visit :=
  [⟨20000, [0]⟩, ⟨15000, [0, 1]⟩, ⟨10000, [0]⟩, ⟨5000, [0]⟩, ⟨0, [0, 1]⟩]

theorem history_namesakes : ∃ poller, History namesakes namesakeVisits poller := by
  have hfirst : History namesakes [⟨0, [0, 1]⟩] _ :=
    History.start.tick_of_positions meters (networkAt 0) (by decide +kernel)
  have hsecond : History namesakes (⟨5000, [0]⟩ :: _) _ :=
    hfirst.tick_of_positions meters (networkAt 5000) (by decide +kernel)
  have hthird : History namesakes (⟨10000, [0]⟩ :: _) _ :=
    hsecond.tick_of_positions ⟨[], false, []⟩ (networkAt 10000) (by decide +kernel)
  have hfourth : History namesakes (⟨15000, [0, 1]⟩ :: _) _ :=
    hthird.tick_of_positions meters (networkAt 15000) (by decide +kernel)
  exact ⟨_, hfourth.tick_of_positions meters (networkAt 20000) (by decide +kernel)⟩

theorem schedule_namesakes :
    (∃ poller, History namesakes namesakeVisits poller) ∧ Spaced 5000 namesakeVisits ∧
      namesakeVisits.countP (0 ∈ ·.positions) = 5 ⌈/⌉ 1 ∧
      namesakeVisits.countP (1 ∈ ·.positions) = 5 ⌈/⌉ 3 ∧
      ∀ later visit earlier, namesakeVisits = later ++ visit :: earlier →
        visit.positions.count 1 =
          if ∀ last ∈ lastVisit 1 earlier, last + 10001 ≤ visit.time then 1 else 0 := by
  obtain ⟨poller, hhistory⟩ := history_namesakes
  have hspaced : Spaced 5000 namesakeVisits := by
    unfold Spaced
    decide
  have hshort : namesakes[0]? = some ⟨"Temp", "east", "power", .text, 5000⟩ := rfl
  have hlong : namesakes[1]? = some ⟨"Temp", "west", "gone", .text, 10001⟩ := rfl
  obtain ⟨-, -, hshorts⟩ := read_on_schedule hhistory hshort
  obtain ⟨-, hdue, hlongs⟩ := read_on_schedule hhistory hlong
  have hone : stride 5000 5000 = 1 := by decide +kernel
  have hthree : stride 10001 5000 = 3 := by decide +kernel
  refine ⟨⟨poller, hhistory⟩, hspaced, ?_, ?_, hdue⟩
  · rw [← hone]
    exact (hshorts 5000 (by decide) hspaced).2
  · rw [← hthree]
    exact (hlongs 5000 (by decide) hspaced).2

end Meters

end Telemetry.Poller
