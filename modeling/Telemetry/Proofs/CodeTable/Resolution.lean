import Telemetry.CodeTable

/-!
What one call of `resolve` can do to a code table. The seven outcomes of `Resolved` say for each way
through a call what becomes of the table, what the answer is, and what has happened to the network;
`resolved_resolve` says that there is no other. Everything about runs of calls is derived from them.
-/

namespace Telemetry.CodeTable

/-- The inputs and outputs of the lines of a page, as far as its lines are looked at. -/
def Direction.listing (way : Direction) (page : String) : List (String × String) :=
  (pageLines page).filterMap way.pair?

/-- The lines of a page that match with an input and an output. -/
def Direction.matching (way : Direction) (page : String) : List String :=
  (pageLines page).filter fun line => (way.pair? line).isSome

namespace Direction

theorem output?_eq_some_iff {way : Direction} {input line output : String} :
    way.output? input line = some output ↔ way.pair? line = some (input, output) := by
  cases hpair : way.pair? line with
  | none => simp [output?, hpair]
  | some pair =>
      obtain ⟨found, value⟩ := pair
      by_cases hfound : found = input
      · simp [output?, hpair, hfound]
      · simp [output?, hpair, hfound]

theorem output?_eq_none_of_ne {way : Direction} {input found line output : String}
    (hpair : way.pair? line = some (found, output)) (hne : found ≠ input) :
    way.output? input line = none := by
  simp [output?, hpair, hne]

theorem pair?_of_find? {way : Direction} {input line output : String} {lines : List String}
    (hfind : way.find? input lines = some (line, output)) :
    way.pair? line = some (input, output) := by
  obtain ⟨before, found, after, -, hfound, -⟩ := List.findSome?_eq_some_iff.mp hfind
  obtain ⟨value, hvalue, heq⟩ := Option.map_eq_some_iff.mp hfound
  cases heq
  exact output?_eq_some_iff.mp hvalue

theorem find?_map_snd (way : Direction) (input : String) (lines : List String) :
    (way.find? input lines).map Prod.snd = (lines.filterMap way.pair?).lookup input := by
  induction lines with
  | nil => rfl
  | cons line lines ih =>
      cases hpair : way.pair? line with
      | none =>
          have hnone : way.output? input line = none := by simp [output?, hpair]
          rw [List.filterMap_cons_none hpair, ← ih]
          simp [find?, hnone]
      | some pair =>
          obtain ⟨found, value⟩ := pair
          rw [List.filterMap_cons_some hpair, List.lookup_cons]
          by_cases hfound : found = input
          · have hsome : way.output? input line = some value :=
              output?_eq_some_iff.mpr (hfound ▸ hpair)
            simp [find?, hsome, hfound]
          · have hnone := output?_eq_none_of_ne hpair hfound
            have hbeq : (input == found) = false := by simpa using Ne.symm hfound
            rw [hbeq, ← ih]
            simp [find?, hnone]

theorem filterMap_matching (way : Direction) (page : String) :
    (way.matching page).filterMap way.pair? = way.listing page := by
  rw [matching, listing, List.filterMap_filter]
  congr 1
  funext line
  cases hpair : way.pair? line with
  | none => rfl
  | some pair => simp

/-- The lines that do not match need not be kept: the scan finds the same without them. -/
theorem find?_matching (way : Direction) (input page : String) :
    (way.find? input (way.matching page)).map Prod.snd = (way.listing page).lookup input := by
  rw [find?_map_snd, filterMap_matching]

end Direction

theorem Direction.find?_cons_of_none {way : Direction} {input line : String} (lines : List String)
    (hnone : way.output? input line = none) :
    way.find? input (line :: lines) = way.find? input lines := by
  rw [find?, List.findSome?_cons, hnone]
  rfl

theorem Direction.find?_cons_of_some {way : Direction} {input line output : String}
    (lines : List String) (hsome : way.output? input line = some output) :
    way.find? input (line :: lines) = some (line, output) := by
  rw [find?, List.findSome?_cons, hsome]
  rfl

namespace Scan

variable {way : Direction} {input line output : String} {scan : Scan} {cached : Bool}

theorem output_keep (scan : Scan) (cached : Bool) (line : String) :
    (scan.keep cached line).output = scan.output := by
  cases cached <;> rfl

theorem lastLine_keep (scan : Scan) (cached : Bool) (line : String) :
    (scan.keep cached line).lastLine = scan.lastLine := by
  cases cached <;> rfl

theorem run_cons_of_hit (lines : List String) (hpair : way.pair? line = some (input, output))
    (hnone : scan.output = none) :
    run way input cached scan (line :: lines) =
      if cached then run way input cached ((scan.keep cached line).found line output) lines
      else (scan.keep cached line).found line output := by
  simp [run, hpair, output_keep, hnone]

theorem run_cons_of_miss (lines : List String) {pair : String × String}
    (hpair : way.pair? line = some pair) (hmiss : scan.output ≠ none ∨ pair.1 ≠ input) :
    run way input cached scan (line :: lines) = run way input cached (scan.keep cached line) lines := by
  simp only [run, hpair, output_keep, Option.isNone_iff_eq_none]
  rw [if_neg (Decidable.not_and_iff_not_or_not.mpr hmiss)]

theorem run_of_output (houtput : scan.output = some output) (lines : List String) :
    run way input true scan lines =
      { scan with kept := scan.kept ++ lines.filter fun line => (way.pair? line).isSome } := by
  induction lines generalizing scan with
  | nil => simp [run]
  | cons line lines ih =>
      cases hpair : way.pair? line with
      | none => simp [run, hpair, ih houtput]
      | some pair =>
          rw [run_cons_of_miss lines hpair (.inl (by simp [houtput])),
            ih ((output_keep scan true line).trans houtput)]
          simp [keep, hpair]

theorem run_of_no_output (way : Direction) (input : String) (hnone : scan.output = none) (cached : Bool)
    (lines : List String) :
    (run way input cached scan lines).output = (way.find? input lines).map Prod.snd ∧
      (run way input cached scan lines).lastLine =
        ((way.find? input lines).map Prod.fst).or scan.lastLine ∧
      (cached = true → (run way input cached scan lines).kept =
        scan.kept ++ lines.filter fun line => (way.pair? line).isSome) := by
  induction lines generalizing scan with
  | nil => simp [run, Direction.find?, hnone]
  | cons line lines ih =>
      cases hpair : way.pair? line with
      | none =>
          have hmiss : way.output? input line = none := by simp [Direction.output?, hpair]
          simpa [run, hpair, Direction.find?_cons_of_none lines hmiss] using ih hnone
      | some pair =>
          obtain ⟨found, output⟩ := pair
          by_cases hfound : found = input
          · subst hfound
            rw [run_cons_of_hit lines hpair hnone,
              Direction.find?_cons_of_some lines (Direction.output?_eq_some_iff.mpr hpair)]
            -- without caching the scan ends here
            cases cached with
            | false => exact ⟨rfl, rfl, nofun⟩
            | true =>
                rw [if_pos rfl, run_of_output rfl]
                exact ⟨rfl, rfl, fun _ => by simp [Scan.found, keep, hpair]⟩
          · obtain ⟨houtput, hlast, hkept⟩ := ih ((output_keep scan cached line).trans hnone)
            rw [run_cons_of_miss lines hpair (.inr hfound), houtput, hlast, lastLine_keep,
              Direction.find?_cons_of_none lines (Direction.output?_eq_none_of_ne hpair hfound)]
            refine ⟨rfl, rfl, ?_⟩
            rintro rfl
            rw [hkept rfl]
            simp [keep, hpair]

end Scan

/-- What the scan of a page comes to: the first hit, whether pages are cached or not, and all lines that
match where they are. -/
theorem load_eq (table : CodeTable) (way : Direction) (input page : String) (now : Int) :
    table.load way input page now =
      ({ table with
          lines := if table.cached then some (way.matching page) else none
          lastLine := ((way.find? input (pageLines page)).map Prod.fst).or table.lastLine
          lastFetch := now },
        (way.find? input (pageLines page)).map Prod.snd) := by
  have hstart : ({ lastLine := table.lastLine } : Scan).output = none := rfl
  obtain ⟨houtput, hlast, hkept⟩ :=
    Scan.run_of_no_output way input hstart table.cached (pageLines page)
  have hlines : (if table.cached then
        some (Scan.run way input table.cached { lastLine := table.lastLine } (pageLines page)).kept
      else none) = if table.cached then some (way.matching page) else none := by
    cases hcached : table.cached with
    | false => rfl
    | true =>
        rw [hcached] at hkept
        rw [if_pos rfl, if_pos rfl, hkept rfl]
        rfl
  simp only [load, houtput, hlast, hlines]

/-- The ways through a call of `resolve`. -/
inductive Resolved (table : CodeTable) (input source target : String) (network : Network) :
    CodeTable → Option String → Network → Prop
  | undirected {fault : Fault} {journal : Log.Journal}
      (hfault : table.direction source target = .error fault) :
      Resolved table input source target network table none (network.reported journal)
  | unlocated {way : Direction} {journal : Log.Journal}
      (hway : table.direction source target = .ok way)
      (hstale : table.isStale network.reading = true) (hurl : table.url = none) :
      Resolved table input source target network table none
        ((network.readIf table.cached).reported journal)
  | unanswered {way : Direction} {url : String} {journal : Log.Journal}
      (hway : table.direction source target = .ok way)
      (hstale : table.isStale network.reading = true) (hurl : table.url = some url)
      (hpage : ((network.readIf table.cached).answerFor url).page = none) :
      Resolved table input source target network table none
        (((network.readIf table.cached).asked url table.timeout).reported journal)
  | loaded {way : Direction} {url page : String} {journal : Log.Journal}
      (hway : table.direction source target = .ok way)
      (hstale : table.isStale network.reading = true) (hurl : table.url = some url)
      (hpage : ((network.readIf table.cached).answerFor url).page = some page) :
      Resolved table input source target network
        (table.load way input page
          ((network.readIf table.cached).asked url table.timeout).reading).1
        (table.load way input page
          ((network.readIf table.cached).asked url table.timeout).reading).2
        (((network.readIf table.cached).asked url table.timeout).read.reported journal)
  | remembered {way : Direction} {line output : String} {journal : Log.Journal}
      (hway : table.direction source target = .ok way)
      (hfresh : table.isStale network.reading = false) (hlast : table.lastLine = some line)
      (hhit : way.output? input line = some output) :
      Resolved table input source target network table (some output)
        ((network.readIf table.cached).reported journal)
  | found {way : Direction} {line output : String} {journal : Log.Journal}
      (hway : table.direction source target = .ok way)
      (hfresh : table.isStale network.reading = false)
      (hmiss : ∀ last, table.lastLine = some last → way.output? input last = none)
      (hfind : way.find? input (table.lines.getD []) = some (line, output)) :
      Resolved table input source target network { table with lastLine := some line } (some output)
        ((network.readIf table.cached).reported journal)
  | absent {way : Direction} {journal : Log.Journal}
      (hway : table.direction source target = .ok way)
      (hfresh : table.isStale network.reading = false)
      (hmiss : ∀ last, table.lastLine = some last → way.output? input last = none)
      (hfind : way.find? input (table.lines.getD []) = none) :
      Resolved table input source target network table none
        ((network.readIf table.cached).reported journal)

section

variable {table : CodeTable} {input source target : String} {network : Network} {way : Direction}

theorem resolved_resolveFetched (hway : table.direction source target = .ok way)
    (hstale : table.isStale network.reading = true) :
    Resolved table input source target network
      ((table.resolveFetched way input).run (network.readIf table.cached)).1.1
      ((table.resolveFetched way input).run (network.readIf table.cached)).1.2
      ((table.resolveFetched way input).run (network.readIf table.cached)).2 := by
  unfold resolveFetched
  cases hurl : table.url with
  | none => exact .unlocated hway hstale hurl
  | some url =>
      simp only [Online.run_bind, Online.run_fetch]
      cases hpage : ((network.readIf table.cached).answerFor url).page with
      | none => exact .unanswered hway hstale hurl hpage
      | some page =>
          simp only [Online.run_bind, Online.run_now]
          by_cases hmiss :
              (table.load way input page
                ((network.readIf table.cached).asked url table.timeout).reading).2.isNone
          · rw [if_pos hmiss]
            exact .loaded hway hstale hurl hpage
          · rw [if_neg hmiss]
            exact .loaded hway hstale hurl hpage

theorem resolved_resolveCached (hway : table.direction source target = .ok way)
    (hfresh : table.isStale network.reading = false)
    (hmiss : ∀ last, table.lastLine = some last → way.output? input last = none)
    (journal : Log.Journal) :
    Resolved table input source target network
      ((table.resolveCached way input).run journal).1.1
      ((table.resolveCached way input).run journal).1.2
      ((network.readIf table.cached).reported ((table.resolveCached way input).run journal).2) := by
  unfold resolveCached
  cases hfind : way.find? input (table.lines.getD []) with
  | none => exact .absent hway hfresh hmiss hfind
  | some hit => exact .found hway hfresh hmiss hfind

theorem resolved_resolveFresh (hway : table.direction source target = .ok way)
    (hfresh : table.isStale network.reading = false) (journal : Log.Journal) :
    Resolved table input source target network
      ((table.resolveFresh way source target input).run journal).1.1
      ((table.resolveFresh way source target input).run journal).1.2
      ((network.readIf table.cached).reported
        ((table.resolveFresh way source target input).run journal).2) := by
  unfold resolveFresh
  cases hlast : table.lastLine with
  | none => exact resolved_resolveCached hway hfresh (by simp [hlast]) journal
  | some line =>
      cases hhit : way.output? input line with
      | some output => simpa [hhit] using .remembered hway hfresh hlast hhit
      | none =>
          simp only [hhit]
          exact resolved_resolveCached hway hfresh (by simpa [hlast] using hhit) _

end

/-- The table without anything that was fetched or remembered. -/
def cleared (table : CodeTable) : CodeTable :=
  { table with lastFetch := 0, lastLine := none, lines := none }

@[simp] theorem direction_cleared (table : CodeTable) : table.cleared.direction = table.direction :=
  rfl

@[simp] theorem cached_cleared (table : CodeTable) : table.cleared.cached = table.cached :=
  rfl

theorem direction_eq_of_cleared_eq {table other : CodeTable} (hcleared : table.cleared = other.cleared) :
    table.direction = other.direction := by
  rw [← direction_cleared table, hcleared, direction_cleared]

theorem cached_eq_of_cleared_eq {table other : CodeTable} (hcleared : table.cleared = other.cleared) :
    table.cached = other.cached := by
  rw [← cached_cleared table, hcleared, cached_cleared]

theorem Resolved.cleared_eq {table after : CodeTable} {input source target : String}
    {network network' : Network} {output : Option String}
    (hresolved : Resolved table input source target network after output network') :
    after.cleared = table.cleared := by
  cases hresolved <;> rfl

theorem resolved_resolve (table : CodeTable) (input source target : String) (network : Network) :
    Resolved table input source target network
      ((table.resolve input source target).run network).1.1
      ((table.resolve input source target).run network).1.2
      ((table.resolve input source target).run network).2 := by
  unfold resolve
  cases hway : table.direction source target with
  | error fault => exact .undirected hway
  | ok way =>
      simp only [Online.run_bind, run_isStaleNow]
      by_cases hstale : table.isStale network.reading = true
      · rw [if_pos hstale]
        exact resolved_resolveFetched hway hstale
      · rw [if_neg hstale]
        exact resolved_resolveFresh hway (by simpa using hstale) _

end Telemetry.CodeTable
