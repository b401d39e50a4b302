import Telemetry.Proofs.CodeTable.Resolution
import Telemetry.Proofs.Network

/-!
Runs of calls of `resolve` on one code table, each call in a network of its own: the clock, the pages
and the failures may be different ones for every call.

A table that always decodes in the same direction keeps the lines of the page that was fetched last,
but it remembers the line that was found last even when a newer page has been fetched since. So what
it answers without a request is what the last page says, unless the answer is `Outdated`.
-/

namespace Telemetry.CodeTable

/-- What one call of `resolve` was asked, met and gave. -/
structure Event where
  input : String
  source : String
  target : String
  /-- The page that was fetched for the call, if one was. -/
  page : Option String
  output : Option String
deriving DecidableEq, Repr

/-- A call of `resolve` as it is seen from outside. -/
def event (table : CodeTable) (input source target : String) (network : Network) : Event :=
  let ((_, output), after) := (table.resolve input source target).run network
  { input, source, target, page := network.firstPage after, output }

/-- The runs of calls from a table on, with what happened, the latest first. -/
inductive Run (start : CodeTable) : List Event → CodeTable → Prop
  | start : Run start [] start
  | call {events : List Event} {table : CodeTable} (input source target : String)
      (network : Network) (hrun : Run start events table) :
      Run start (table.event input source target network :: events)
        ((table.resolve input source target).run network).1.1

/-- Has no table been fetched yet? -/
def IsNew (table : CodeTable) : Prop :=
  table.lastFetch = 0 ∧ table.lastLine = none ∧ table.lines = none

/-- The page that was fetched last. -/
def latestPage (events : List Event) : Option String :=
  events.findSome? (·.page)

/-- Nothing but the input has been found in these calls, and it in no page fetched by them. -/
def NothingElseFound (input : String) (event : Event) : Prop :=
  event.output.isSome → event.input = input ∧ event.page = none

/-- The input was answered, and nothing else has been found since. -/
def Held (events : List Event) (input output : String) : Prop :=
  ∃ later hit earlier, events = later ++ hit :: earlier ∧ hit.input = input ∧
    hit.output = some output ∧ ∀ event ∈ later, NothingElseFound input event

/-- The input was answered, and nothing else has been found since although a page has been fetched. -/
def Outdated (events : List Event) (input output : String) : Prop :=
  ∃ later hit earlier, events = later ++ hit :: earlier ∧ hit.input = input ∧
    hit.output = some output ∧ (∀ event ∈ later, NothingElseFound input event) ∧
    ∃ event ∈ later, event.page.isSome

theorem held_cons_iff {event : Event} {events : List Event} {input output : String} :
    Held (event :: events) input output ↔
      (event.input = input ∧ event.output = some output) ∨
        (NothingElseFound input event ∧ Held events input output) := by
  constructor
  · rintro ⟨later, hit, earlier, hevents, hinput, houtput, hlater⟩
    cases later with
    | nil =>
        obtain ⟨rfl, rfl⟩ := List.cons.inj hevents
        exact .inl ⟨hinput, houtput⟩
    | cons first later =>
        obtain ⟨rfl, rfl⟩ := List.cons.inj hevents
        exact .inr ⟨hlater event (by simp),
          later, hit, earlier, rfl, hinput, houtput, fun e he => hlater e (by simp [he])⟩
  · rintro (⟨hinput, houtput⟩ | ⟨hevent, later, hit, earlier, rfl, hinput, houtput, hlater⟩)
    · exact ⟨[], event, events, rfl, hinput, houtput, by simp⟩
    · refine ⟨event :: later, hit, earlier, rfl, hinput, houtput, ?_⟩
      rintro e (_ | ⟨_, he⟩)
      · exact hevent
      · exact hlater e he

theorem outdated_cons_iff {event : Event} {events : List Event} {input output : String} :
    Outdated (event :: events) input output ↔
      NothingElseFound input event ∧
        (Outdated events input output ∨ event.page.isSome ∧ Held events input output) := by
  constructor
  · rintro ⟨later, hit, earlier, hevents, hinput, houtput, hlater, fetch, hfetch, hpage⟩
    cases later with
    | nil => simp at hfetch
    | cons first later =>
        obtain ⟨rfl, rfl⟩ := List.cons.inj hevents
        have hrest : ∀ e ∈ later, NothingElseFound input e := fun e he => hlater e (by simp [he])
        refine ⟨hlater event (by simp), ?_⟩
        rcases List.mem_cons.mp hfetch with rfl | hfetch
        · exact .inr ⟨hpage, later, hit, earlier, rfl, hinput, houtput, hrest⟩
        · exact .inl ⟨later, hit, earlier, rfl, hinput, houtput, hrest, fetch, hfetch, hpage⟩
  · rintro ⟨hevent, ⟨later, hit, earlier, rfl, hinput, houtput, hlater, fetch, hfetch, hpage⟩ |
      ⟨hpage, later, hit, earlier, rfl, hinput, houtput, hlater⟩⟩
    · refine ⟨event :: later, hit, earlier, rfl, hinput, houtput, ?_, fetch, by simp [hfetch], hpage⟩
      rintro e (_ | ⟨_, he⟩)
      · exact hevent
      · exact hlater e he
    · refine ⟨event :: later, hit, earlier, rfl, hinput, houtput, ?_, event, by simp, hpage⟩
      rintro e (_ | ⟨_, he⟩)
      · exact hevent
      · exact hlater e he

theorem Outdated.held {events : List Event} {input output : String}
    (houtdated : Outdated events input output) : Held events input output := by
  obtain ⟨later, hit, earlier, hevents, hinput, houtput, hlater, -⟩ := houtdated
  exact ⟨later, hit, earlier, hevents, hinput, houtput, hlater⟩

/-- What a run of calls in one direction keeps up. -/
structure Coherent (start : CodeTable) (way : Direction) (events : List Event) (table : CodeTable) :
    Prop where
  cleared : table.cleared = start.cleared
  lines : table.lines = (latestPage events).map way.matching
  fetched : table.lastFetch ≠ 0 → (latestPage events).isSome
  last : ∀ input output, table.lastLine.bind way.pair? = some (input, output) ↔
    Held events input output
  current : ∀ input output, Held events input output → Outdated events input output ∨
    ∃ page, latestPage events = some page ∧ (way.listing page).lookup input = some output

theorem not_held_nil (input output : String) : ¬Held [] input output := by
  rintro ⟨later, hit, earlier, hevents, -⟩
  simp at hevents

theorem coherent_start {start : CodeTable} (hnew : start.IsNew) (way : Direction) :
    Coherent start way [] start where
  cleared := rfl
  lines := hnew.2.2
  fetched hfetch := absurd hnew.1 hfetch
  last input output := by simp [hnew.2.1, not_held_nil]
  current input output hheld := absurd hheld (not_held_nil input output)

theorem Coherent.idle {start table : CodeTable} {way : Direction} {events : List Event}
    {event : Event} (hcoherent : Coherent start way events table) (hpage : event.page = none)
    (houtput : event.output = none) : Coherent start way (event :: events) table := by
  have hnothing : ∀ input, NothingElseFound input event := by
    intro input hsome
    simp [houtput] at hsome
  have hlatest : latestPage (event :: events) = latestPage events := by
    simp [latestPage, hpage]
  refine ⟨hcoherent.cleared, ?_, ?_, ?_, ?_⟩
  · rw [hlatest, hcoherent.lines]
  · rw [hlatest]
    exact hcoherent.fetched
  · intro input output
    rw [held_cons_iff, hcoherent.last]
    simp [houtput, hnothing]
  · intro input output hheld
    rw [held_cons_iff] at hheld
    simp only [houtput, reduceCtorEq, and_false, false_or] at hheld
    rw [hlatest, outdated_cons_iff]
    rcases hcoherent.current input output hheld.2 with houtdated | hcurrent
    · exact .inl ⟨hnothing input, .inl houtdated⟩
    · exact .inr hcurrent

theorem Coherent.remembered {start table : CodeTable} {way : Direction} {events : List Event}
    {event : Event} {output : String} (hcoherent : Coherent start way events table)
    (hpage : event.page = none) (houtput : event.output = some output)
    (hlast : table.lastLine.bind way.pair? = some (event.input, output)) :
    Coherent start way (event :: events) table := by
  have hheld : Held events event.input output := (hcoherent.last _ _).mp hlast
  have hlatest : latestPage (event :: events) = latestPage events := by
    simp [latestPage, hpage]
  have hcons : ∀ input output, Held (event :: events) input output ↔ Held events input output := by
    intro input other
    rw [held_cons_iff, ← hcoherent.last, hlast]
    constructor
    · rintro (⟨rfl, hother⟩ | ⟨-, hother⟩)
      · rw [Option.some.inj (houtput.symm.trans hother)]
      · exact hother
    · intro hother
      obtain ⟨rfl, rfl⟩ := Prod.mk.inj (Option.some.inj hother)
      exact .inl ⟨rfl, houtput⟩
  refine ⟨hcoherent.cleared, ?_, ?_, ?_, ?_⟩
  · rw [hlatest, hcoherent.lines]
  · rw [hlatest]
    exact hcoherent.fetched
  · intro input other
    rw [hcons, hcoherent.last]
  · intro input other hother
    rw [hcons, ← hcoherent.last, hlast] at hother
    obtain ⟨rfl, rfl⟩ := Prod.mk.inj (Option.some.inj hother)
    rw [hlatest, outdated_cons_iff]
    rcases hcoherent.current _ _ hheld with houtdated | hcurrent
    · exact .inl ⟨fun _ => ⟨rfl, hpage⟩, .inl houtdated⟩
    · exact .inr hcurrent

theorem Coherent.found {start table after : CodeTable} {way : Direction} {events : List Event}
    {event : Event} {line output page : String} (hcoherent : Coherent start way events table)
    (hcleared : after.cleared = table.cleared) (houtput : event.output = some output)
    (hpage : latestPage (event :: events) = some page)
    (hlines : after.lines = some (way.matching page)) (hlast : after.lastLine = some line)
    (hpair : way.pair? line = some (event.input, output))
    (hlisted : (way.listing page).lookup event.input = some output)
    (hreplaced : ∀ input other, NothingElseFound input event → ¬Held events input other) :
    Coherent start way (event :: events) after := by
  have hcons : ∀ input other, Held (event :: events) input other ↔
      event.input = input ∧ output = other := by
    intro input other
    rw [held_cons_iff, houtput]
    constructor
    · rintro (⟨hinput, hother⟩ | ⟨hnothing, hheld⟩)
      · exact ⟨hinput, Option.some.inj hother⟩
      · exact absurd hheld (hreplaced input other hnothing)
    · rintro ⟨hinput, hother⟩
      exact .inl ⟨hinput, by rw [hother]⟩
  refine ⟨hcleared.trans hcoherent.cleared, by rw [hpage, hlines]; rfl, fun _ => by simp [hpage], ?_,
    ?_⟩
  · intro input other
    rw [hcons, hlast, Option.bind_some, hpair, Option.some.injEq, Prod.mk.injEq]
  · intro input other hother
    obtain ⟨rfl, rfl⟩ := (hcons input other).mp hother
    exact .inr ⟨page, hpage, hlisted⟩

theorem Coherent.replaced {start table after : CodeTable} {way : Direction} {events : List Event}
    {event : Event} {page : String} (hcoherent : Coherent start way events table)
    (hcleared : after.cleared = table.cleared) (houtput : event.output = none)
    (hpage : event.page = some page) (hlines : after.lines = some (way.matching page))
    (hlast : after.lastLine = table.lastLine) : Coherent start way (event :: events) after := by
  have hnothing : ∀ input, NothingElseFound input event := by
    intro input hsome
    simp [houtput] at hsome
  have hlatest : latestPage (event :: events) = some page := by
    simp [latestPage, hpage]
  have hcons : ∀ input output, Held (event :: events) input output ↔ Held events input output := by
    intro input output
    simp [held_cons_iff, houtput, hnothing]
  refine ⟨hcleared.trans hcoherent.cleared, by rw [hlatest, hlines]; rfl, fun _ => by simp [hlatest],
    ?_, ?_⟩
  · intro input output
    rw [hcons, hlast, hcoherent.last]
  · intro input output hheld
    rw [hcons] at hheld
    exact .inl (outdated_cons_iff.mpr ⟨hnothing input, .inr ⟨by simp [hpage], hheld⟩⟩)

theorem Coherent.loaded {start table : CodeTable} {way : Direction} {events : List Event}
    {event : Event} {page : String} {now : Int} (hcoherent : Coherent start way events table)
    (hcached : start.cached = true) (hpage : event.page = some page)
    (houtput : event.output = (table.load way event.input page now).2) :
    Coherent start way (event :: events) (table.load way event.input page now).1 := by
  have hkept : table.cached = true := (cached_eq_of_cleared_eq hcoherent.cleared).trans hcached
  have hlines : (table.load way event.input page now).1.lines = some (way.matching page) := by
    simp [load_eq, hkept]
  cases hfind : way.find? event.input (pageLines page) with
  | none =>
      have hnone : event.output = none := by simpa [load_eq, hfind] using houtput
      exact hcoherent.replaced rfl hnone hpage hlines (by simp [load_eq, hfind])
  | some hit =>
      obtain ⟨line, output⟩ := hit
      have hsome : event.output = some output := by simpa [load_eq, hfind] using houtput
      have hlisted : (way.listing page).lookup event.input = some output := by
        rw [Direction.listing, ← Direction.find?_map_snd, hfind]
        rfl
      refine hcoherent.found rfl hsome (by simp [latestPage, hpage]) hlines
        (by simp [load_eq, hfind]) (Direction.pair?_of_find? hfind) hlisted ?_
      -- a call with a hit in a new page ends what was held before
      intro input other hnothing
      have hnopage := (hnothing (by simp [hsome])).2
      simp [hpage] at hnopage

theorem Coherent.find?_lines {start table : CodeTable} {way : Direction} {events : List Event}
    (hcoherent : Coherent start way events table) (input : String) :
    (way.find? input (table.lines.getD [])).map Prod.snd =
      (latestPage events).bind fun page => (way.listing page).lookup input := by
  rw [hcoherent.lines]
  cases latestPage events with
  | none => rfl
  | some page => exact Direction.find?_matching way input page

theorem Coherent.step {start table after : CodeTable} {way : Direction} {events : List Event}
    {input source target : String} {network network' : Network} {output : Option String}
    (hcoherent : Coherent start way events table) (hcached : start.cached = true)
    (hway : start.direction source target = .ok way)
    (hresolved : Resolved table input source target network after output network') :
    Coherent start way (⟨input, source, target, network.firstPage network', output⟩ :: events)
      after := by
  have hdirection : table.direction source target = .ok way := by
    rw [direction_eq_of_cleared_eq hcoherent.cleared, hway]
  cases hresolved with
  | undirected hfault => simp [hdirection] at hfault
  | unlocated => exact hcoherent.idle (Network.firstPage_reported ..) rfl
  | unanswered _ _ _ hpage =>
      rw [Network.answerFor_readIf] at hpage
      exact hcoherent.idle ((Network.firstPage_asked rfl).trans hpage) rfl
  | loaded hway' _ _ hpage =>
      obtain rfl := Except.ok.inj (hdirection.symm.trans hway')
      rw [Network.answerFor_readIf] at hpage
      exact hcoherent.loaded hcached ((Network.firstPage_asked rfl).trans hpage) rfl
  | remembered hway' _ hlast hhit =>
      obtain rfl := Except.ok.inj (hdirection.symm.trans hway')
      refine hcoherent.remembered (Network.firstPage_reported ..) rfl ?_
      rw [hlast]
      exact Direction.output?_eq_some_iff.mp hhit
  | found hway' hfresh hmiss hfind =>
      rename_i line output journal
      obtain rfl := Except.ok.inj (hdirection.symm.trans hway')
      have hlisted := hcoherent.find?_lines input
      rw [hfind] at hlisted
      obtain ⟨page, hpage, hlookup⟩ := Option.bind_eq_some_iff.mp hlisted.symm
      have hnopage : network.firstPage ((network.readIf table.cached).reported journal) = none :=
        Network.firstPage_reported ..
      refine hcoherent.found rfl rfl (by simpa [latestPage, hnopage] using hpage)
        (by simp [hcoherent.lines, hpage]) rfl (Direction.pair?_of_find? hfind) hlookup ?_
      -- the remembered line was looked at first, so it is not about this input
      intro other value hnothing hheld
      obtain ⟨rfl, -⟩ := hnothing rfl
      obtain ⟨last, hlast, hpair⟩ := Option.bind_eq_some_iff.mp ((hcoherent.last _ _).mpr hheld)
      have hnone := hmiss last hlast
      rw [Direction.output?_eq_some_iff.mpr hpair] at hnone
      simp at hnone
  | absent => exact hcoherent.idle (Network.firstPage_reported ..) rfl

theorem Run.coherent {start table : CodeTable} {way : Direction} {events : List Event}
    {source target : String} (hrun : Run start events table) (hnew : start.IsNew)
    (hcached : start.cached = true) (hway : start.direction source target = .ok way)
    (hsame : ∀ event ∈ events, event.source = source ∧ event.target = target) :
    Coherent start way events table := by
  induction hrun with
  | start => exact coherent_start hnew way
  | call input source' target' network hrun ih =>
      obtain ⟨rfl, rfl⟩ := hsame _ List.mem_cons_self
      have hcoherent := ih fun event hevent => hsame event (by simp [hevent])
      exact hcoherent.step hcached hway (resolved_resolve _ input _ _ network)

theorem Coherent.output_of_held {start table after : CodeTable} {way : Direction}
    {events : List Event} {input source target output : String} {network network' : Network}
    {answer : Option String} (hcoherent : Coherent start way events table)
    (hway : start.direction source target = .ok way)
    (hfresh : table.isStale network.reading = false) (hheld : Held events input output)
    (hresolved : Resolved table input source target network after answer network') :
    answer = some output := by
  have hdirection : table.direction source target = .ok way := by
    rw [direction_eq_of_cleared_eq hcoherent.cleared, hway]
  obtain ⟨line, hline, hpair⟩ := Option.bind_eq_some_iff.mp ((hcoherent.last _ _).mpr hheld)
  have hhit := Direction.output?_eq_some_iff.mpr hpair
  cases hresolved with
  | undirected hfault => simp [hdirection] at hfault
  | unlocated _ hstale | unanswered _ hstale | loaded _ hstale => simp [hfresh] at hstale
  | remembered hway' _ hlast hhit' =>
      obtain rfl := Except.ok.inj (hdirection.symm.trans hway')
      obtain rfl := Option.some.inj (hline.symm.trans hlast)
      rw [← hhit', hhit]
  | found hway' _ hmiss | absent hway' _ hmiss =>
      obtain rfl := Except.ok.inj (hdirection.symm.trans hway')
      simp [hmiss line hline] at hhit

/-- An answer without a request that is not held is what the page fetched last says. -/
theorem Coherent.output_of_not_held {start table after : CodeTable} {way : Direction}
    {events : List Event} {input source target : String} {network network' : Network}
    {answer : Option String} (hcoherent : Coherent start way events table)
    (hway : start.direction source target = .ok way)
    (hfresh : table.isStale network.reading = false)
    (hnone : ∀ output, ¬Held events input output)
    (hresolved : Resolved table input source target network after answer network') :
    answer = (latestPage events).bind fun page => (way.listing page).lookup input := by
  have hdirection : table.direction source target = .ok way := by
    rw [direction_eq_of_cleared_eq hcoherent.cleared, hway]
  cases hresolved with
  | undirected hfault => simp [hdirection] at hfault
  | unlocated _ hstale | unanswered _ hstale | loaded _ hstale => simp [hfresh] at hstale
  | remembered hway' _ hlast hhit =>
      obtain rfl := Except.ok.inj (hdirection.symm.trans hway')
      have hlooked := (hcoherent.last input _).mp (by
        rw [hlast]
        exact Direction.output?_eq_some_iff.mp hhit)
      exact absurd hlooked (hnone _)
  | found hway' _ _ hfind | absent hway' _ _ hfind =>
      obtain rfl := Except.ok.inj (hdirection.symm.trans hway')
      rw [← hcoherent.find?_lines, hfind]
      rfl

theorem Resolved.requests_of_fresh {table after : CodeTable} {input source target : String}
    {network network' : Network} {answer : Option String}
    (hresolved : Resolved table input source target network after answer network')
    (hfresh : table.isStale network.reading = false) : network'.requests = network.requests := by
  cases hresolved with
  | undirected => rfl
  | unlocated _ hstale | unanswered _ hstale | loaded _ hstale => simp [hfresh] at hstale
  | remembered | found | absent => simp

theorem lastFetch_ne_zero_of_fresh {table : CodeTable} {now : Int}
    (hfresh : table.isStale now = false) : table.lastFetch ≠ 0 := by
  intro hzero
  simp [isStale, Refresh.isStale, hzero] at hfresh

/-- In a run in one direction, a call that makes no request answers what the page fetched last says,
unless the answer is outdated: then the input is answered as it was before that page was fetched. -/
theorem resolve_eq_lookup_iff_not_outdated {start table : CodeTable} {way : Direction}
    {events : List Event} {source target : String} (hnew : start.IsNew)
    (hcached : start.cached = true) (hway : start.direction source target = .ok way)
    (hrun : Run start events table)
    (hsame : ∀ event ∈ events, event.source = source ∧ event.target = target)
    (input : String) (network : Network) (hfresh : table.isStale network.reading = false) :
    ((table.resolve input source target).run network).2.requests = network.requests ∧
      ∃ page, latestPage events = some page ∧
        (((table.resolve input source target).run network).1.2 = (way.listing page).lookup input ↔
          ¬∃ output, Outdated events input output ∧
            (way.listing page).lookup input ≠ some output) ∧
        ∀ output, Outdated events input output →
          ((table.resolve input source target).run network).1.2 = some output := by
  have hcoherent := hrun.coherent hnew hcached hway hsame
  have hresolved := resolved_resolve table input source target network
  refine ⟨hresolved.requests_of_fresh hfresh, ?_⟩
  obtain ⟨page, hpage⟩ := Option.isSome_iff_exists.mp
    (hcoherent.fetched (lastFetch_ne_zero_of_fresh hfresh))
  have houtdated : ∀ output, Outdated events input output →
      ((table.resolve input source target).run network).1.2 = some output := fun output hout =>
    hcoherent.output_of_held hway hfresh hout.held hresolved
  refine ⟨page, hpage, ⟨?_, ?_⟩, houtdated⟩
  · rintro hanswer ⟨output, hout, hne⟩
    exact hne (hanswer.symm.trans (houtdated output hout))
  · intro hnone
    by_cases hheld : ∃ output, Held events input output
    · obtain ⟨output, hheld⟩ := hheld
      rw [hcoherent.output_of_held hway hfresh hheld hresolved]
      rcases hcoherent.current input output hheld with hout | ⟨latest, hlatest, hlookup⟩
      · exact Decidable.byContradiction fun hne => hnone ⟨output, hout, Ne.symm hne⟩
      · obtain rfl := Option.some.inj (hpage.symm.trans hlatest)
        exact hlookup.symm
    · have hanswer := hcoherent.output_of_not_held hway hfresh
        (fun output hout => hheld ⟨output, hout⟩) hresolved
      rw [hanswer, hpage, Option.bind_some]

/-- A table of statuses. A line has a code of one character, a comma and a word. -/
def statuses : CodeTable where
  name := "statuses"
  url := some "http://host/statuses"
  pattern := some {
    source := "(.),(.*)"
    expr := .seq (.group 1 (.one .anyButNewline))
      (.seq (.one (.only .exact 44)) (.group 2 (.loop 0 none .greedy (.one .anyButNewline))))
    groups := 2 }
  relations := ["code", "word"]
  refresh := 1000
  cached := true
  timeout := 3000

/-- A network in which every request meets the same page at once. -/
def serving (now : Int) (page : String) : Network where
  now
  answer _ _ := ⟨some page, 0⟩
  reaches _ _ := true

/-- A status is looked up, and later, after the page has changed, one that is not on it. -/
def changedRun : List Event :=
  let first := serving 1 "3,Running"
  let after := ((statuses.resolve "3" "code" "word").run first).1.1
  [after.event "9" "code" "word" (serving 2000 "3,Stopped"), statuses.event "3" "code" "word" first]

def changedTable : CodeTable :=
  ((((statuses.resolve "3" "code" "word").run (serving 1 "3,Running")).1.1.resolve "9" "code" "word").run
    (serving 2000 "3,Stopped")).1.1

theorem run_changedRun : Run statuses changedRun changedTable :=
  .call "9" "code" "word" (serving 2000 "3,Stopped")
    (.call "3" "code" "word" (serving 1 "3,Running") .start)

theorem changedRun_eq : changedRun =
    [⟨"9", "code", "word", some "3,Stopped", none⟩,
      ⟨"3", "code", "word", some "3,Running", some "Running"⟩] := by
  decide +kernel

theorem outdated_changedRun : Outdated changedRun "3" "Running" := by
  rw [changedRun_eq]
  refine ⟨[_], _, [], rfl, rfl, rfl, ?_, _, List.mem_singleton.mpr rfl, rfl⟩
  rintro event hevent hsome
  obtain rfl := List.mem_singleton.mp hevent
  simp at hsome

theorem resolve_changedTable_outdated :
    ∃ way, statuses.direction "code" "word" = .ok way ∧
      changedTable.isStale (serving 2001 "3,Stopped").reading = false ∧
      Outdated changedRun "3" "Running" ∧ (way.listing "3,Stopped").lookup "3" = some "Stopped" ∧
      ((changedTable.resolve "3" "code" "word").run (serving 2001 "3,Stopped")).1.2 =
        some "Running" := by
  have hnew : statuses.IsNew := ⟨rfl, rfl, rfl⟩
  have hsame : ∀ event ∈ changedRun, event.source = "code" ∧ event.target = "word" := by
    simp [changedRun_eq]
  refine ⟨_, rfl, by decide +kernel, outdated_changedRun, by decide +kernel, ?_⟩
  obtain ⟨-, page, -, -, houtdated⟩ := resolve_eq_lookup_iff_not_outdated hnew rfl rfl run_changedRun
    hsame "3" (serving 2001 "3,Stopped") (by decide +kernel)
  exact houtdated "Running" outdated_changedRun

/-- What a call answers without a request need not be what the page fetched last says. -/
theorem not_forall_resolve_eq_lookup :
    ¬∀ (start table : CodeTable) (way : Direction) (events : List Event)
      (source target page input : String) (network : Network),
      start.IsNew → start.cached = true → start.direction source target = .ok way →
      Run start events table →
      (∀ event ∈ events, event.source = source ∧ event.target = target) →
      table.isStale network.reading = false → latestPage events = some page →
      ((table.resolve input source target).run network).1.2 = (way.listing page).lookup input := by
  intro hall
  have hanswer := hall statuses changedTable _ changedRun "code" "word" "3,Stopped" "3"
    (serving 2001 "3,Stopped") ⟨rfl, rfl, rfl⟩ rfl rfl run_changedRun (by simp [changedRun_eq])
    (by decide +kernel) (by rw [changedRun_eq]; rfl)
  revert hanswer
  decide +kernel

end Telemetry.CodeTable
