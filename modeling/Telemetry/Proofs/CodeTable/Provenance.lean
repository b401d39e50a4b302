import Telemetry.Proofs.CodeTable.Directions

namespace Telemetry.CodeTable

/-- Is this the output on the first line that has the input, or nothing because no line has it? -/
def Direction.Finds (way : Direction) (input : String) (lines : List String) : Option String → Prop
  | some output => ∃ before line after, lines = before ++ line :: after ∧
      way.pair? line = some (input, output) ∧
      ∀ earlier ∈ before, ∀ other, way.pair? earlier ≠ some (input, other)
  | none => ∀ line ∈ lines, ∀ output, way.pair? line ≠ some (input, output)

/-- Is the line one of those that are looked at on a page that was fetched in these calls? -/
def IsFetched (events : List Event) (line : String) : Prop :=
  ∃ event ∈ events, ∃ page, event.page = some page ∧ line ∈ pageLines page

theorem Direction.output?_eq_none_iff {way : Direction} {input line : String} :
    way.output? input line = none ↔ ∀ output, way.pair? line ≠ some (input, output) := by
  rw [Option.eq_none_iff_forall_ne_some]
  exact forall_congr' fun output => not_congr output?_eq_some_iff

theorem Direction.finds_find? (way : Direction) (input : String) (lines : List String) :
    way.Finds input lines ((way.find? input lines).map Prod.snd) := by
  cases hfind : way.find? input lines with
  | none =>
      intro line hline
      rw [find?, List.findSome?_eq_none_iff] at hfind
      exact output?_eq_none_iff.mp (Option.map_eq_none_iff.mp (hfind line hline))
  | some hit =>
      obtain ⟨line, output⟩ := hit
      obtain ⟨before, found, after, hlines, hfound, hbefore⟩ := List.findSome?_eq_some_iff.mp hfind
      obtain ⟨value, hvalue, heq⟩ := Option.map_eq_some_iff.mp hfound
      cases heq
      refine ⟨before, line, after, hlines, output?_eq_some_iff.mp hvalue, ?_⟩
      intro earlier hearlier
      exact output?_eq_none_iff.mp (Option.map_eq_none_iff.mp (hbefore earlier hearlier))

theorem IsFetched.cons {events : List Event} {line : String} (hfetched : IsFetched events line)
    (event : Event) : IsFetched (event :: events) line := by
  obtain ⟨fetch, hfetch, page, hpage, hline⟩ := hfetched
  exact ⟨fetch, List.mem_cons_of_mem event hfetch, page, hpage, hline⟩

theorem cached_of_fresh {table : CodeTable} {now : Int} (hfresh : table.isStale now = false) :
    table.cached = true := by
  simp only [isStale, Bool.or_eq_false_iff, Bool.not_eq_false'] at hfresh
  exact hfresh.1

/-- What a run keeps up in any directions: all lines that the table has come from fetched pages. -/
structure Stems (start : CodeTable) (events : List Event) (table : CodeTable) : Prop where
  cleared : table.cleared = start.cleared
  last : ∀ line, table.lastLine = some line → IsFetched events line
  lines : ∀ line ∈ table.lines.getD [], IsFetched events line

theorem stems_start {start : CodeTable} (hnew : start.IsNew) : Stems start [] start where
  cleared := rfl
  last line hline := by simp [hnew.2.1] at hline
  lines line hline := by simp [hnew.2.2] at hline

theorem Stems.loaded {start table : CodeTable} {events : List Event} (hstems : Stems start events table)
    {event : Event} {page : String} (hpage : event.page = some page) (way : Direction)
    (input : String) (now : Int) :
    Stems start (event :: events) (table.load way input page now).1 := by
  have hfetched : ∀ line ∈ pageLines page, IsFetched (event :: events) line :=
    fun line hline => ⟨event, List.mem_cons_self, page, hpage, hline⟩
  refine ⟨hstems.cleared, ?_, ?_⟩
  · intro line hline
    cases hfind : way.find? input (pageLines page) with
    | none =>
        have hlast : table.lastLine = some line := by simpa [load_eq, hfind] using hline
        exact (hstems.last line hlast).cons event
    | some hit =>
        have hhit : hit.1 = line := by simpa [load_eq, hfind] using hline
        exact hfetched line (hhit ▸ Direction.mem_of_find? hfind)
  · intro line hline
    simp only [load_eq] at hline
    split at hline
    · exact hfetched line (List.mem_filter.mp hline).1
    · simp at hline

theorem Stems.step {start table after : CodeTable} {events : List Event}
    (hstems : Stems start events table) {input source target : String} {network network' : Network}
    {output : Option String}
    (hresolved : Resolved table input source target network after output network') :
    Stems start (⟨input, source, target, network.firstPage network', output⟩ :: events) after := by
  have hlast := fun line hline => (hstems.last line hline).cons
  have hlines := fun line hline => (hstems.lines line hline).cons
  cases hresolved with
  | undirected | unlocated | unanswered | remembered | absent =>
      exact ⟨hstems.cleared, fun line hline => hlast line hline _, fun line hline => hlines line hline _⟩
  | loaded _ _ _ hpage =>
      rw [Network.answerFor_readIf] at hpage
      exact hstems.loaded ((Network.firstPage_asked rfl).trans hpage) _ _ _
  | found _ _ _ hfind =>
      refine ⟨hstems.cleared, fun line hline => ?_, fun line hline => hlines line hline _⟩
      obtain rfl := Option.some.inj hline
      exact hlines _ (Direction.mem_of_find? hfind) _

theorem Run.stems {start table : CodeTable} {events : List Event} (hrun : Run start events table)
    (hnew : start.IsNew) : Stems start events table := by
  induction hrun with
  | start => exact stems_start hnew
  | call input source target network hrun ih => exact ih.step (resolved_resolve _ input _ _ network)

section

variable {table after : CodeTable} {input source target : String} {network network' : Network}
  {output : Option String} {way : Direction}

theorem Resolved.exists_line {text : String}
    (hresolved : Resolved table input source target network after (some text) network')
    (hway : table.direction source target = .ok way)
    (hrequests : network'.requests = network.requests) :
    ∃ line, (table.lastLine = some line ∨ line ∈ table.lines.getD []) ∧
      way.pair? line = some (input, text) := by
  generalize houtput : some text = output at hresolved
  cases hresolved with
  | undirected | unlocated | unanswered | absent => contradiction
  | loaded => simp [Network.read, Network.reported] at hrequests
  | remembered hway' _ hlast hhit =>
      obtain rfl := Except.ok.inj (hway.symm.trans hway')
      obtain rfl := Option.some.inj houtput
      exact ⟨_, .inl hlast, Direction.output?_eq_some_iff.mp hhit⟩
  | found hway' _ _ hfind =>
      obtain rfl := Except.ok.inj (hway.symm.trans hway')
      obtain rfl := Option.some.inj houtput
      exact ⟨_, .inr (Direction.mem_of_find? hfind), Direction.pair?_of_find? hfind⟩

theorem Resolved.of_page {url page : String}
    (hresolved : Resolved table input source target network after output network')
    (hway : table.direction source target = .ok way) (hstale : table.isStale network.reading = true)
    (hurl : table.url = some url) (hpage : (network.answerFor url).page = some page) :
    network'.requests = network.requests ++ [⟨url, table.timeout⟩] ∧
      output = (way.find? input (pageLines page)).map Prod.snd ∧
      (table.cached = true → after.lines = some (way.matching page)) := by
  cases hresolved with
  | undirected hfault => simp [hway] at hfault
  | unlocated _ _ hurl' => simp [hurl] at hurl'
  | unanswered _ _ hurl' hnone =>
      obtain rfl := Option.some.inj (hurl.symm.trans hurl')
      rw [Network.answerFor_readIf, hpage] at hnone
      contradiction
  | loaded hway' _ hurl' hpage' =>
      obtain rfl := Except.ok.inj (hway.symm.trans hway')
      obtain rfl := Option.some.inj (hurl.symm.trans hurl')
      rw [Network.answerFor_readIf, hpage] at hpage'
      obtain rfl := Option.some.inj hpage'
      refine ⟨?_, by rw [load_eq], fun hcached => ?_⟩
      · rw [Network.requests_reported, Network.read, Network.requests_asked,
          Network.requests_readIf]
      · simp [load_eq, hcached]
  | remembered _ hfresh | found _ hfresh | absent _ hfresh => simp [hfresh] at hstale

theorem Resolved.of_failure {url : String}
    (hresolved : Resolved table input source target network after output network')
    (hstale : table.isStale network.reading = true) (hurl : table.url = some url)
    (hpage : (network.answerFor url).page = none) : after = table ∧ output = none := by
  cases hresolved with
  | undirected | unlocated | unanswered => exact ⟨rfl, rfl⟩
  | loaded _ _ hurl' hpage' =>
      obtain rfl := Option.some.inj (hurl.symm.trans hurl')
      rw [Network.answerFor_readIf, hpage] at hpage'
      contradiction
  | remembered _ hfresh | found _ hfresh | absent _ hfresh => simp [hfresh] at hstale

/-- In a run in one direction, nothing is answered without a request only where no line of the page that
was fetched last has the input. -/
theorem Coherent.pair?_ne_of_none {start : CodeTable} {events : List Event}
    (hcoherent : Coherent start way events table) (hway : start.direction source target = .ok way)
    (hfresh : table.isStale network.reading = false)
    (hresolved : Resolved table input source target network after none network') :
    ∃ page, latestPage events = some page ∧
      ∀ line ∈ pageLines page, ∀ output, way.pair? line ≠ some (input, output) := by
  have hnone : ∀ output, ¬Held events input output := by
    intro output hheld
    have hsome := hcoherent.output_of_held hway hfresh hheld hresolved
    contradiction
  have hlisted := hcoherent.output_of_not_held hway hfresh hnone hresolved
  obtain ⟨page, hpage⟩ := Option.isSome_iff_exists.mp
    (hcoherent.fetched (lastFetch_ne_zero_of_fresh hfresh))
  refine ⟨page, hpage, fun line hline output hpair => ?_⟩
  rw [hpage, Option.bind_some, eq_comm, List.lookup_eq_none_iff] at hlisted
  have hdiffers := hlisted (input, output) (List.mem_filterMap.mpr ⟨line, hline, hpair⟩)
  simp at hdiffers

end

/-- A call that fetches a page answers by the first line that has the input, whether the table keeps
lines or not, and a table that does keeps the lines with an input and an output, in their order. A
request that fails changes nothing. In any run from a new table on, a text that is given without a
request is the output on a line, with the input, of a page fetched before; and if all calls went in one
direction, nothing is answered from what is kept only where the page fetched last does not have the
input. -/
theorem resolve_answers_from_fetched_pages {table : CodeTable} {way : Direction}
    {source target : String} (hway : table.direction source target = .ok way) (input : String)
    (network : Network) :
    let outcome := (table.resolve input source target).run network
    (∀ url, table.isStale network.reading = true → table.url = some url →
      (∀ page, (network.answerFor url).page = some page →
        outcome.2.requests = network.requests ++ [⟨url, table.timeout⟩] ∧
          way.Finds input (pageLines page) outcome.1.2 ∧
          (∀ cached, { table with cached }.isStale network.reading = true →
            (({ table with cached }.resolve input source target).run network).1.2 = outcome.1.2) ∧
          (table.cached = true →
            outcome.1.1.lines =
              some ((pageLines page).filter fun line => (way.pair? line).isSome))) ∧
      ((network.answerFor url).page = none → outcome.1 = (table, none))) ∧
    ∀ start events, start.IsNew → Run start events table →
      (∀ text, outcome.2.requests = network.requests → outcome.1.2 = some text →
        ∃ event ∈ events, ∃ page, event.page = some page ∧
          ∃ line ∈ pageLines page, way.pair? line = some (input, text)) ∧
      ((∀ event ∈ events, event.source = source ∧ event.target = target) →
        table.isStale network.reading = false → outcome.1.2 = none →
        ∃ page, latestPage events = some page ∧
          ∀ line ∈ pageLines page, ∀ output, way.pair? line ≠ some (input, output)) := by
  intro outcome
  have hresolved : Resolved table input source target network outcome.1.1 outcome.1.2 outcome.2 :=
    resolved_resolve table input source target network
  refine ⟨fun url hstale hurl => ⟨fun page hpage => ?_, fun hpage => ?_⟩,
    fun start events hnew hrun => ⟨fun text hrequests htext => ?_, fun hsame hfresh hnone => ?_⟩⟩
  · obtain ⟨hrequests, houtput, hlines⟩ := hresolved.of_page hway hstale hurl hpage
    refine ⟨hrequests, ?_, fun cached hstale' => ?_, hlines⟩
    · rw [houtput]
      exact way.finds_find? input (pageLines page)
    · have hresolved' := resolved_resolve { table with cached } input source target network
      rw [houtput]
      exact (hresolved'.of_page hway hstale' hurl hpage).2.1
  · obtain ⟨htable, houtput⟩ := hresolved.of_failure hstale hurl hpage
    exact Prod.ext htable houtput
  · rw [htext] at hresolved
    have hstems := hrun.stems hnew
    obtain ⟨line, hline, hpair⟩ := hresolved.exists_line hway hrequests
    obtain ⟨event, hevent, page, hpage, hmem⟩ := hline.elim (hstems.last line) (hstems.lines line)
    exact ⟨event, hevent, page, hpage, line, hmem, hpair⟩
  · rw [hnone] at hresolved
    have hdirection := direction_eq_of_cleared_eq (hrun.stems hnew).cleared
    have hcached : start.cached = true := by
      rw [← cached_eq_of_cleared_eq (hrun.stems hnew).cleared]
      exact cached_of_fresh hfresh
    rw [hdirection] at hway
    have hcoherent := hrun.coherent hnew hcached hway hsame
    exact hcoherent.pair?_ne_of_none hway hfresh hresolved

theorem resolve_markedTable_from_page :
    ∃ way, markedTable.direction "code" "word" = .ok way ∧ legend.IsNew ∧
      Run legend [⟨"2", "code", "mark", some legendPage, some "x"⟩] markedTable ∧
      ((markedTable.resolve "2" "code" "word").run (serving 2 legendPage)).2.requests = [] ∧
      ((markedTable.resolve "2" "code" "word").run (serving 2 legendPage)).1.2 = some "b" ∧
      ∃ line ∈ pageLines legendPage, way.pair? line = some ("2", "b") := by
  obtain ⟨way, hway⟩ : ∃ way, markedTable.direction "code" "word" = .ok way := ⟨_, rfl⟩
  have hnew : legend.IsNew := ⟨rfl, rfl, rfl⟩
  have hrequests : ((markedTable.resolve "2" "code" "word").run (serving 2 legendPage)).2.requests =
      [] := by
    decide +kernel
  have htext : ((markedTable.resolve "2" "code" "word").run (serving 2 legendPage)).1.2 =
      some "b" := by
    decide +kernel
  refine ⟨way, hway, hnew, run_markedTable, hrequests, htext, ?_⟩
  obtain ⟨-, hrun⟩ := resolve_answers_from_fetched_pages hway "2" (serving 2 legendPage)
  obtain ⟨event, hevent, page, hpage, hline⟩ :=
    (hrun legend _ hnew run_markedTable).1 "b" hrequests htext
  obtain rfl := List.mem_singleton.mp hevent
  obtain rfl := Option.some.inj hpage
  exact hline

end Telemetry.CodeTable
