import Mathlib.Data.List.Basic
import Telemetry.Proofs.CodeTable.History
import Telemetry.Proofs.Keyed

/-!
Calls of `resolve` in several directions while one page is kept. The lines that are kept, and the one
that is remembered, were chosen for the direction of the call that has fetched the page or found the
line. In another direction a kept page can miss lines that have both an input and an output there, and
the remembered line can have an input that an earlier line of the page has as well.
-/

namespace Telemetry.CodeTable

/-- The inputs and outputs on the lines that are kept for another direction. -/
def Direction.keptListing (fetched way : Direction) (page : String) : List (String × String) :=
  (fetched.matching page).filterMap way.pair?

theorem Direction.keptListing_eq_listing {fetched way : Direction} {page : String}
    (hlines : ∀ line ∈ pageLines page, (way.pair? line).isSome → (fetched.pair? line).isSome) :
    fetched.keptListing way page = way.listing page := by
  rw [keptListing, matching, listing, List.filterMap_filter]
  refine List.filterMap_congr fun line hline => ?_
  cases hpair : way.pair? line with
  | none => simp
  | some pair =>
      have hkept := hlines line hline (by rw [hpair]; rfl)
      rw [if_pos hkept]

/-- The remembered line has the input, but not the output that the page has for it first. -/
def Misleads (table : CodeTable) (way : Direction) (page input : String) : Prop :=
  ∃ line output, table.lastLine = some line ∧ way.pair? line = some (input, output) ∧
    (way.listing page).lookup input ≠ some output

/-- The remembered line does not have the input, and among the kept lines the first one that has it is
not the one that comes first on the page. -/
def Overlooks (table : CodeTable) (fetched way : Direction) (page input : String) : Prop :=
  (∀ line output, table.lastLine = some line → way.pair? line ≠ some (input, output)) ∧
    (fetched.keptListing way page).lookup input ≠ (way.listing page).lookup input

/-- Is a line the one that the last answer was found on? There is none as long as nothing was
answered. -/
def IsLastAnswered (start : CodeTable) (page : String) (events : List Event) : Option String → Prop
  | none => ∀ event ∈ events, event.output = none
  | some line => line ∈ pageLines page ∧
    ∃ later hit earlier way output, events = later ++ hit :: earlier ∧
      (∀ event ∈ later, event.output = none) ∧
      start.direction hit.source hit.target = .ok way ∧ hit.output = some output ∧
      way.pair? line = some (hit.input, output)

section

variable {start : CodeTable} {page : String} {events : List Event} {event : Event}

theorem IsLastAnswered.unanswered {last : Option String}
    (hlast : IsLastAnswered start page events last) (houtput : event.output = none) :
    IsLastAnswered start page (event :: events) last := by
  cases last with
  | none =>
      rintro other (_ | ⟨_, hother⟩)
      · exact houtput
      · exact hlast other hother
  | some line =>
      obtain ⟨hline, later, hit, earlier, way, output, rfl, hlater, hhit⟩ := hlast
      refine ⟨hline, event :: later, hit, earlier, way, output, rfl, ?_, hhit⟩
      rintro other (_ | ⟨_, hother⟩)
      · exact houtput
      · exact hlater other hother

theorem isLastAnswered_cons {way : Direction} {line output : String} (hline : line ∈ pageLines page)
    (hway : start.direction event.source event.target = .ok way)
    (houtput : event.output = some output) (hpair : way.pair? line = some (event.input, output)) :
    IsLastAnswered start page (event :: events) (some line) :=
  ⟨hline, [], event, events, way, output, rfl, by simp, hway, houtput, hpair⟩

end

theorem Direction.mem_of_find? {way : Direction} {input line output : String} {lines : List String}
    (hfind : way.find? input lines = some (line, output)) : line ∈ lines := by
  obtain ⟨before, found, after, rfl, hfound, -⟩ := List.findSome?_eq_some_iff.mp hfind
  obtain ⟨value, -, heq⟩ := Option.map_eq_some_iff.mp hfound
  cases heq
  simp

/-- What a run keeps up once a page has been fetched, as long as no other one is. -/
structure Keeps (start : CodeTable) (fetched : Direction) (page : String) (events : List Event)
    (table : CodeTable) : Prop where
  cleared : table.cleared = start.cleared
  lines : table.lines = some (fetched.matching page)
  last : IsLastAnswered start page events table.lastLine

section

variable {start table after : CodeTable} {input source target page : String} {events : List Event}
  {network network' : Network} {output : Option String} {fetched : Direction}

theorem Resolved.eq_of_stale
    (hresolved : Resolved table input source target network after output network')
    (hstale : table.isStale network.reading = true) (hpage : network.firstPage network' = none) :
    after = table ∧ output = none := by
  cases hresolved with
  | undirected | unlocated | unanswered => exact ⟨rfl, rfl⟩
  | loaded _ _ _ hfetched =>
      have hnone := (Network.firstPage_asked rfl).symm.trans hpage
      rw [Network.answerFor_readIf, hnone] at hfetched
      contradiction
  | remembered _ hfresh | found _ hfresh | absent _ hfresh => simp [hfresh] at hstale

theorem Keeps.step (hkeeps : Keeps start fetched page events table)
    (hresolved : Resolved table input source target network after output network')
    (hpage : network.firstPage network' = none) :
    Keeps start fetched page
      (⟨input, source, target, network.firstPage network', output⟩ :: events) after := by
  have hdirection := direction_eq_of_cleared_eq hkeeps.cleared
  have hcleared := hresolved.cleared_eq.trans hkeeps.cleared
  cases hresolved with
  | undirected | unlocated | unanswered | absent =>
      exact ⟨hcleared, hkeeps.lines, hkeeps.last.unanswered rfl⟩
  | loaded _ _ _ hfetched =>
      have hnone := (Network.firstPage_asked rfl).symm.trans hpage
      rw [Network.answerFor_readIf, hnone] at hfetched
      contradiction
  | @remembered way line output _ hway _ hlast hhit =>
      rw [hdirection] at hway
      refine ⟨hcleared, hkeeps.lines, ?_⟩
      have hline := hkeeps.last
      rw [hlast] at hline ⊢
      exact isLastAnswered_cons hline.1 hway rfl (Direction.output?_eq_some_iff.mp hhit)
  | @found way line output _ hway _ _ hfind =>
      rw [hdirection] at hway
      refine ⟨hcleared, hkeeps.lines, ?_⟩
      have hline := Direction.mem_of_find? hfind
      rw [hkeeps.lines, Option.getD_some, Direction.matching, List.mem_filter] at hline
      exact isLastAnswered_cons hline.1 hway rfl (Direction.pair?_of_find? hfind)

end

theorem Run.eq_start {start table : CodeTable} {events : List Event} (hrun : Run start events table)
    (hnew : start.IsNew) (hpages : ∀ event ∈ events, event.page = none) :
    table = start ∧ ∀ event ∈ events, event.output = none := by
  induction hrun with
  | start => exact ⟨rfl, by simp⟩
  | @call events table input source target network hrun ih =>
      obtain ⟨htable, houtputs⟩ := ih fun event hevent => hpages event (by simp [hevent])
      have hresolved := table.resolved_resolve input source target network
      have hstale : table.isStale network.reading = true := by
        simp [isStale, Refresh.isStale, htable, hnew.1]
      obtain ⟨hafter, houtput⟩ := hresolved.eq_of_stale hstale (hpages _ List.mem_cons_self)
      refine ⟨hafter.trans htable, ?_⟩
      rintro event (_ | ⟨_, hevent⟩)
      · exact houtput
      · exact houtputs event hevent

theorem Resolved.keeps {start after : CodeTable} {input source target page : String}
    {events : List Event} {network network' : Network} {output : Option String}
    (hresolved : Resolved start input source target network after output network')
    (hnew : start.IsNew) (hcached : start.cached = true)
    (hpage : network.firstPage network' = some page)
    (houtputs : ∀ event ∈ events, event.output = none) :
    ∃ fetched, start.direction source target = .ok fetched ∧
      Keeps start fetched page
        (⟨input, source, target, network.firstPage network', output⟩ :: events) after := by
  have hcleared := hresolved.cleared_eq
  have hstale : start.isStale network.reading = true := by
    simp [isStale, Refresh.isStale, hnew.1]
  cases hresolved with
  | undirected => simp [Network.firstPage] at hpage
  | unlocated =>
      rw [Network.firstPage_reported] at hpage
      contradiction
  | remembered _ hfresh | found _ hfresh | absent _ hfresh => simp [hfresh] at hstale
  | unanswered _ _ _ hfetched =>
      have hsome := (Network.firstPage_asked rfl).symm.trans hpage
      rw [Network.answerFor_readIf, hsome] at hfetched
      contradiction
  | @loaded way url page' _ hway _ _ hfetched =>
      have hsome := (Network.firstPage_asked rfl).symm.trans hpage
      rw [Network.answerFor_readIf, hsome] at hfetched
      obtain rfl := Option.some.inj hfetched
      refine ⟨way, hway, hcleared, by simp [load_eq, hcached], ?_⟩
      cases hfind : way.find? input (pageLines page) with
      | none =>
          simp only [load_eq, hfind, Option.map_none, Option.none_or, hnew.2.1]
          rintro event (_ | ⟨_, hevent⟩)
          · rfl
          · exact houtputs event hevent
      | some hit =>
          obtain ⟨line, found⟩ := hit
          simp only [load_eq, hfind, Option.map_some, Option.some_or]
          exact isLastAnswered_cons (Direction.mem_of_find? hfind) hway rfl
            (Direction.pair?_of_find? hfind)

theorem Run.keeps {start table : CodeTable} {later earlier : List Event} {fetch : Event}
    {page : String} (hrun : Run start (later ++ fetch :: earlier) table) (hnew : start.IsNew)
    (hcached : start.cached = true) (hpage : fetch.page = some page)
    (hlater : ∀ event ∈ later, event.page = none) (hearlier : ∀ event ∈ earlier, event.page = none) :
    ∃ fetched, start.direction fetch.source fetch.target = .ok fetched ∧
      Keeps start fetched page (later ++ fetch :: earlier) table := by
  generalize hevents : later ++ fetch :: earlier = events at hrun
  induction hrun generalizing later with
  | start => simp at hevents
  | @call events table input source target network hrun ih =>
      have hresolved := table.resolved_resolve input source target network
      cases later with
      | nil =>
          obtain ⟨rfl, rfl⟩ := List.cons.inj hevents
          obtain ⟨htable, houtputs⟩ := hrun.eq_start hnew hearlier
          rw [htable] at hresolved hpage ⊢
          exact hresolved.keeps hnew hcached hpage houtputs
      | cons event later =>
          obtain ⟨rfl, rfl⟩ := List.cons.inj hevents
          obtain ⟨fetched, hfetched, hkeeps⟩ :=
            ih (fun other hother => hlater other (by simp [hother])) rfl
          exact ⟨fetched, hfetched, hkeeps.step hresolved (hlater _ List.mem_cons_self)⟩

theorem Keeps.output_eq {start table after : CodeTable} {fetched way : Direction}
    {input source target page : String} {events : List Event} {network network' : Network}
    {output : Option String} (hkeeps : Keeps start fetched page events table)
    (hway : start.direction source target = .ok way)
    (hfresh : table.isStale network.reading = false)
    (hresolved : Resolved table input source target network after output network') :
    output = (table.lastLine.bind (way.output? input)).or
      ((fetched.keptListing way page).lookup input) := by
  rw [← direction_eq_of_cleared_eq hkeeps.cleared] at hway
  have hkept : (way.find? input (table.lines.getD [])).map Prod.snd =
      (fetched.keptListing way page).lookup input := by
    rw [hkeeps.lines, Option.getD_some, Direction.find?_map_snd]
    rfl
  cases hresolved with
  | undirected hfault => simp [hway] at hfault
  | unlocated _ hstale | unanswered _ hstale | loaded _ hstale => simp [hfresh] at hstale
  | remembered hway' _ hlast hhit =>
      obtain rfl := Except.ok.inj (hway.symm.trans hway')
      rw [hlast, Option.bind_some, hhit, Option.some_or]
  | found hway' _ hmiss hfind | absent hway' _ hmiss hfind =>
      obtain rfl := Except.ok.inj (hway.symm.trans hway')
      have hnone : table.lastLine.bind (way.output? input) = none := by
        rw [Option.bind_eq_none_iff]
        exact hmiss
      rw [hnone, Option.none_or, ← hkept, hfind]
      rfl

theorem recalled_eq_first_iff {table : CodeTable} {fetched way : Direction} {input page : String} :
    (table.lastLine.bind (way.output? input)).or ((fetched.keptListing way page).lookup input) =
        (way.listing page).lookup input ↔
      ¬Misleads table way page input ∧ ¬Overlooks table fetched way page input := by
  cases hlast : table.lastLine.bind (way.output? input) with
  | none =>
      have hmiss : ∀ line output, table.lastLine = some line →
          way.pair? line ≠ some (input, output) := by
        intro line output hline hpair
        rw [hline, Option.bind_some, Direction.output?_eq_some_iff.mpr hpair] at hlast
        contradiction
      rw [Option.none_or]
      constructor
      · intro hkept
        refine ⟨?_, fun hoverlooks => hoverlooks.2 hkept⟩
        rintro ⟨line, output, hline, hpair, -⟩
        exact hmiss line output hline hpair
      · rintro ⟨-, hoverlooks⟩
        exact Decidable.byContradiction fun hne => hoverlooks ⟨hmiss, hne⟩
  | some output =>
      obtain ⟨line, hline, hhit⟩ := Option.bind_eq_some_iff.mp hlast
      have hpair := Direction.output?_eq_some_iff.mp hhit
      rw [Option.some_or]
      constructor
      · intro hfirst
        refine ⟨?_, fun hoverlooks => hoverlooks.1 line output hline hpair⟩
        rintro ⟨other, found, hother, hpair', hne⟩
        obtain rfl := Option.some.inj (hline.symm.trans hother)
        rw [hpair] at hpair'
        cases hpair'
        exact hne hfirst.symm
      · rintro ⟨hmisleads, -⟩
        exact Decidable.byContradiction fun hne =>
          hmisleads ⟨line, output, hline, hpair, fun hfirst => hne hfirst.symm⟩

theorem run_resolve_of_isNew {start : CodeTable} {way : Direction} {source target page url : String}
    (hnew : start.IsNew) (hway : start.direction source target = .ok way)
    (hurl : start.url = some url) (input : String) {world : Network}
    (hpage : (world.answerFor url).page = some page) :
    ((start.resolve input source target).run world).1.2 = (way.listing page).lookup input := by
  have hstale : start.isStale world.reading = true := by
    simp [isStale, Refresh.isStale, hnew.1]
  have hresolved := start.resolved_resolve input source target world
  generalize (start.resolve input source target).run world = outcome at *
  obtain ⟨⟨after, output⟩, network'⟩ := outcome
  dsimp only at hresolved ⊢
  cases hresolved with
  | undirected hfault => simp [hway] at hfault
  | unlocated _ _ hnone => simp [hurl] at hnone
  | unanswered _ _ hurl' hnone =>
      obtain rfl := Option.some.inj (hurl.symm.trans hurl')
      rw [Network.answerFor_readIf, hpage] at hnone
      contradiction
  | loaded hway' _ hurl' hfetched =>
      obtain rfl := Except.ok.inj (hway.symm.trans hway')
      obtain rfl := Option.some.inj (hurl.symm.trans hurl')
      rw [Network.answerFor_readIf, hpage] at hfetched
      obtain rfl := Option.some.inj hfetched
      rw [load_eq]
      exact Direction.find?_map_snd way input (pageLines page)
  | remembered _ hfresh | found _ hfresh | absent _ hfresh => simp [hfresh] at hstale

/-- While the one page that was fetched is fresh, a call answers as it would as the first one on the
table, unless the remembered line misleads it or the kept lines overlook its line. Neither happens
where all lines match in all directions and no input occurs twice. -/
theorem resolve_eq_first_call_iff {start table : CodeTable} {way : Direction}
    {later earlier : List Event} {fetch : Event} {page source target : String} (hnew : start.IsNew)
    (hcached : start.cached = true) (hrun : Run start (later ++ fetch :: earlier) table)
    (hpage : fetch.page = some page) (hlater : ∀ event ∈ later, event.page = none)
    (hearlier : ∀ event ∈ earlier, event.page = none)
    (hway : start.direction source target = .ok way) (input : String) (network : Network)
    (hfresh : table.isStale network.reading = false) :
    (∀ world url, start.url = some url → (world.answerFor url).page = some page →
      ((start.resolve input source target).run world).1.2 = (way.listing page).lookup input) ∧
    ((table.resolve input source target).run network).2.requests = network.requests ∧
    IsLastAnswered start page (later ++ fetch :: earlier) table.lastLine ∧
    ∃ fetched, start.direction fetch.source fetch.target = .ok fetched ∧
      (((table.resolve input source target).run network).1.2 = (way.listing page).lookup input ↔
        ¬Misleads table way page input ∧ ¬Overlooks table fetched way page input) ∧
      ((∀ line ∈ pageLines page, (way.pair? line).isSome → (fetched.pair? line).isSome) →
        (Keyed.keys (way.listing page)).Nodup →
          ¬Misleads table way page input ∧ ¬Overlooks table fetched way page input) := by
  obtain ⟨fetched, hfetched, hkeeps⟩ := hrun.keeps hnew hcached hpage hlater hearlier
  have hresolved := table.resolved_resolve input source target network
  refine ⟨?_, hresolved.requests_of_fresh hfresh, hkeeps.last, fetched, hfetched, ?_, ?_⟩
  · intro world url hurl hworld
    exact run_resolve_of_isNew hnew hway hurl input hworld
  · rw [hkeeps.output_eq hway hfresh hresolved]
    exact recalled_eq_first_iff
  · intro hlines hkeys
    constructor
    · rintro ⟨line, output, hline, hpair, hne⟩
      have hlast := hkeeps.last
      rw [hline] at hlast
      have hmem : (input, output) ∈ way.listing page :=
        List.mem_filterMap.mpr ⟨line, hlast.1, hpair⟩
      exact hne (Keyed.lookup_of_mem hkeys hmem)
    · rintro ⟨-, hne⟩
      rw [Direction.keptListing_eq_listing hlines] at hne
      exact hne rfl

/-- A legend of codes, of what they mean and, for some of them, of a third letter. -/
def legend : CodeTable where
  name := "legend"
  url := some "http://host/legend"
  pattern := some {
    source := "(.);(.)(?:;(.))?"
    expr := .seq (.group 1 (.one .anyButNewline))
      (.seq (.one (.within false .exact [.range 59 59]))
        (.seq (.group 2 (.one .anyButNewline))
          (.loop 0 (some 1) .greedy
            (.seq (.one (.within false .exact [.range 59 59])) (.group 3 (.one .anyButNewline))))))
    groups := 3 }
  relations := ["code", "word", "mark"]
  refresh := 1000
  cached := true
  timeout := 3000

def legendPage : String :=
  "1;a\n2;b;x"

/-- The page is fetched to look a mark up, so the line without a mark is not kept. -/
def markedTable : CodeTable :=
  ((legend.resolve "2" "code" "mark").run (serving 1 legendPage)).1.1

theorem run_markedTable :
    Run legend ([] ++ ⟨"2", "code", "mark", some legendPage, some "x"⟩ :: []) markedTable := by
  have hevent : legend.event "2" "code" "mark" (serving 1 legendPage) =
      ⟨"2", "code", "mark", some legendPage, some "x"⟩ := by
    decide +kernel
  rw [List.nil_append, ← hevent]
  exact .call "2" "code" "mark" (serving 1 legendPage) .start

theorem resolve_markedTable_overlooks :
    ∃ way fetched, legend.direction "code" "word" = .ok way ∧
      legend.direction "code" "mark" = .ok fetched ∧
      (way.listing legendPage).lookup "1" = some "a" ∧
      ((markedTable.resolve "1" "code" "word").run (serving 2 legendPage)).1.2 = none ∧
      ¬(¬Misleads markedTable way legendPage "1" ∧
        ¬Overlooks markedTable fetched way legendPage "1") := by
  have hfresh : markedTable.isStale (serving 2 legendPage).reading = false := by decide +kernel
  have hfirst : ((legend.resolve "1" "code" "word").run (serving 1 legendPage)).1.2 = some "a" := by
    decide +kernel
  have hsecond : ((markedTable.resolve "1" "code" "word").run (serving 2 legendPage)).1.2 = none := by
    decide +kernel
  obtain ⟨way, hway⟩ : ∃ way, legend.direction "code" "word" = .ok way := ⟨_, rfl⟩
  obtain ⟨hanswer, -, -, fetched, hfetched, hiff, -⟩ := resolve_eq_first_call_iff ⟨rfl, rfl, rfl⟩ rfl
    run_markedTable rfl (by simp) (by simp) hway "1" (serving 2 legendPage) hfresh
  rw [hanswer (serving 1 legendPage) "http://host/legend" rfl rfl] at hfirst
  refine ⟨way, fetched, hway, hfetched, hfirst, hsecond, fun hneither => ?_⟩
  have hsame := hiff.mpr hneither
  rw [hsecond, hfirst] at hsame
  contradiction

/-- What a call answers without a request need not be what it would answer as the first one. -/
theorem not_forall_resolve_eq_first_call :
    ¬∀ (start table : CodeTable) (way : Direction) (later earlier : List Event) (fetch : Event)
      (page url source target input : String) (network world : Network),
      start.IsNew → start.cached = true → Run start (later ++ fetch :: earlier) table →
      fetch.page = some page → (∀ event ∈ later, event.page = none) →
      (∀ event ∈ earlier, event.page = none) → start.direction source target = .ok way →
      table.isStale network.reading = false → start.url = some url →
      (world.answerFor url).page = some page →
      ((table.resolve input source target).run network).1.2 =
        ((start.resolve input source target).run world).1.2 := by
  intro hall
  obtain ⟨way, hway⟩ : ∃ way, legend.direction "code" "word" = .ok way := ⟨_, rfl⟩
  have hsame := hall legend markedTable way _ _ _ legendPage "http://host/legend" _ _ "1"
    (serving 2 legendPage) (serving 1 legendPage) ⟨rfl, rfl, rfl⟩ rfl run_markedTable rfl (by simp)
    (by simp) hway (by decide +kernel) rfl rfl
  revert hsame
  decide +kernel

end Telemetry.CodeTable
