import Telemetry.Proofs.Cache.Window
import Telemetry.Proofs.Device.History

/-!
What the calls on a device do to its caches, in the order in which it happens. While a group takes
the fields of a line in, the tables that decode its channels are asked in their turn, so what happens
to them stands between the request of the group and its stamp.

A trace says for every request which cache has made it, and holds every time that the clock has shown;
`Accounts` checks both against the network.
-/

namespace Telemetry

open Cache (Event Window Obeys Step lastStamp obeys_of_other lastStamp_of_other)

namespace Network

/-- What the clock shows, if it has to be read. -/
def shown (network : Network) (needed : Bool) : Option Int :=
  if needed then some network.reading else none

/-- The request that was made first after a state of the network. -/
def nextRequest (before after : Network) : Option Request :=
  after.requests[before.requests.length]?

@[simp] theorem requests_read (network : Network) : network.read.requests = network.requests :=
  rfl

end Network

namespace Cache

/-- Are the events all that was done to the network, in requests and in readings of the clock? -/
structure Accounts (network : Network) (events : List Event) (network' : Network) : Prop where
  requests : network'.requests = network.requests ++ Cache.requests events
  readings : network'.readings = network.readings + (times events).length

namespace Accounts

variable {network between network' : Network} {events later : List Event}

theorem refl (network : Network) : Accounts network [] network :=
  ⟨(List.append_nil _).symm, rfl⟩

theorem trans (hfirst : Accounts network events between) (hsecond : Accounts between later network') :
    Accounts network (events ++ later) network' := by
  constructor
  · rw [hsecond.requests, hfirst.requests, requests_append, List.append_assoc]
  · rw [hsecond.readings, hfirst.readings, times_append, List.length_append, Nat.add_assoc]

end Accounts

end Cache

open Cache (Accounts)

namespace CodeTable

/-- The window of the table, if it is cached. -/
def window? (table : CodeTable) : Option Window :=
  if table.cached then some ⟨table.refresh, table.lastFetch⟩ else none

/-- What a call of `resolve` does to a table of that name. -/
def trace (table : CodeTable) (id input source target : String) (network : Network) :
    List Cache.Event :=
  match table.direction source target with
  | .error _ => []
  | .ok _ =>
    let outcome := (table.resolve input source target).run network
    .asked (.table id) (network.shown table.cached) (network.nextRequest outcome.2) ::
      if (network.firstPage outcome.2).isSome then [.stored (.table id) outcome.1.1.lastFetch]
      else []

/-- What a call can do to the cache, by the page that it fetches or not. -/
inductive Traced (table : CodeTable) (id : String) (network : Network) :
    List Cache.Event → CodeTable → Network → Prop
  | undirected {journal : Log.Journal} :
      Traced table id network [] table (network.reported journal)
  | kept {after : CodeTable} {journal : Log.Journal} (hafter : after.window? = table.window?) :
      Traced table id network [.asked (.table id) (network.shown table.cached) none] after
        ((network.readIf table.cached).reported journal)
  | unanswered {url : String} {journal : Log.Journal}
      (hstale : table.isStale network.reading = true) :
      Traced table id network
        [.asked (.table id) (network.shown table.cached) (some ⟨url, table.timeout⟩)] table
        (((network.readIf table.cached).asked url table.timeout).reported journal)
  | loaded {after : CodeTable} {url : String} {journal : Log.Journal} {time : Int}
      (hstale : table.isStale network.reading = true)
      (hafter : after.window? = table.window?.map fun window => { window with stamp := time }) :
      Traced table id network
        [.asked (.table id) (network.shown table.cached) (some ⟨url, table.timeout⟩),
          .stored (.table id) time] after
        (((network.readIf table.cached).asked url table.timeout).read.reported journal)

theorem traced_trace (table : CodeTable) (id input source target : String) (network : Network) :
    Traced table id network (table.trace id input source target network)
      ((table.resolve input source target).run network).1.1
      ((table.resolve input source target).run network).2 := by
  have hresolved := table.resolved_resolve input source target network
  unfold trace
  generalize (table.resolve input source target).run network = outcome at *
  obtain ⟨⟨after, output⟩, network'⟩ := outcome
  dsimp only at hresolved ⊢
  cases hresolved with
  | undirected hfault =>
      simp only [hfault]
      exact .undirected
  | unlocated hway | remembered hway | found hway | absent hway =>
      simp only [hway, Network.firstPage_reported]
      simpa [Network.nextRequest] using .kept rfl
  | @unanswered _ url journal hway hstale _ hpage =>
      rw [Network.answerFor_readIf] at hpage
      have hnone : network.firstPage
          (((network.readIf table.cached).asked url table.timeout).reported journal) = none :=
        (Network.firstPage_asked rfl).trans hpage
      simp only [hway, hnone]
      simpa [Network.nextRequest] using .unanswered hstale
  | @loaded way url page journal hway hstale _ hpage =>
      rw [Network.answerFor_readIf] at hpage
      have hsome : network.firstPage
          (((network.readIf table.cached).asked url table.timeout).read.reported journal) =
            some page :=
        (Network.firstPage_asked rfl).trans hpage
      have hwindow : ∀ time, (table.load way input page time).1.window? =
          table.window?.map fun window => { window with stamp := time } := by
        intro time
        cases hcached : table.cached <;> simp [window?, load_eq, hcached]
      simp only [hway, hsome]
      simpa [Network.nextRequest] using .loaded hstale (hwindow _)

namespace Traced

variable {table after : CodeTable} {id : String} {network network' : Network}
  {events : List Cache.Event}

theorem cache_eq (htraced : Traced table id network events after network') :
    ∀ event ∈ events, event.cache = .table id := by
  cases htraced <;> simp [Cache.Event.cache]

theorem accounts (htraced : Traced table id network events after network') :
    Accounts network events network' := by
  cases htraced with
  | undirected => exact ⟨(List.append_nil _).symm, rfl⟩
  | kept | unanswered | loaded =>
      constructor
      · simp [Cache.requests, Cache.Event.request?]
      · cases table.cached <;> rfl

theorem obeys (htraced : Traced table id network events after network') {window : Window}
    (hwindow : table.window? = some window) :
    Obeys (.table id) window.interval window.stamp none events ∧
      after.window? = some { window with stamp := lastStamp (.table id) window.stamp events } := by
  unfold window? at hwindow
  split at hwindow
  · rename_i hcached
    obtain rfl := Option.some.inj hwindow
    have hshown : network.shown table.cached = some network.reading := by
      rw [hcached]
      rfl
    have hwindow' : table.window? = some ⟨table.refresh, table.lastFetch⟩ := by
      rw [window?, hcached]
      rfl
    have hstale_eq : table.isStale network.reading =
        Refresh.isStale table.lastFetch table.refresh network.reading := by
      rw [isStale, hcached]
      rfl
    cases htraced with
    | undirected => exact ⟨trivial, hwindow'⟩
    | kept hafter =>
        refine ⟨?_, hafter.trans hwindow'⟩
        simp [Obeys, hshown]
    | unanswered hstale =>
        rw [hstale_eq] at hstale
        refine ⟨?_, hwindow'⟩
        simp [Obeys, hshown, hstale]
    | loaded hstale hafter =>
        rw [hstale_eq] at hstale
        refine ⟨?_, ?_⟩
        · simp [Obeys, hshown, hstale]
        · rw [hafter, hwindow']
          simp [lastStamp, Cache.stamps, Cache.Event.stamp?]
  · contradiction

end Traced

end CodeTable

theorem CodeTable.lookup_put_cleared {tables : CodeTables} {id : String} {table after : CodeTable}
    (htable : tables.lookup id = some table) (hcleared : after.cleared = table.cleared)
    (other : String) :
    ((tables.put id after).lookup other).map cleared = (tables.lookup other).map cleared := by
  rw [Keyed.lookup_put]
  split
  · rename_i hother
    rw [eq_of_beq hother, htable, Option.map_some, Option.map_some, hcleared]
  · rfl

/-- The windows of the cached tables. -/
def tableWindows (tables : CodeTables) : Cache → Option Window
  | .table id => (tables.lookup id).bind CodeTable.window?
  | .group _ => none

theorem CodeTable.Traced.step {tables : CodeTables} {id : String} {table after : CodeTable}
    {network network' : Network} {events : List Cache.Event}
    (htraced : table.Traced id network events after network')
    (htable : tables.lookup id = some table) :
    Step (tableWindows tables) events (tableWindows (tables.put id after)) := by
  rintro (other | other) window hwindow
  · contradiction
  · by_cases hother : other = id
    · subst hother
      simp only [tableWindows, htable, Option.bind_some] at hwindow
      simp only [tableWindows, Keyed.lookup_put_self, Option.bind_some]
      exact htraced.obeys hwindow
    · have hevents : ∀ event ∈ events, event.cache ≠ .table other := by
        intro event hevent
        rw [htraced.cache_eq event hevent]
        simpa using Ne.symm hother
      refine ⟨obeys_of_other hevents, ?_⟩
      rw [lastStamp_of_other hevents]
      simpa [tableWindows, Keyed.lookup_put, hother] using hwindow

/-- What happens to tables while something else is done. -/
structure TablesTraced (tables : CodeTables) (network : Network) (events : List Event)
    (tables' : CodeTables) (network' : Network) : Prop where
  isTable : ∀ event ∈ events, ∃ id, event.cache = .table id
  step : Step (tableWindows tables) events (tableWindows tables')
  cleared : ∀ id, (tables'.lookup id).map CodeTable.cleared = (tables.lookup id).map CodeTable.cleared
  accounts : Accounts network events network'

namespace TablesTraced

variable {tables between tables' : CodeTables} {network network₁ network' : Network}
  {events later : List Event}

theorem refl (tables : CodeTables) (network : Network) :
    TablesTraced tables network [] tables network :=
  ⟨by simp, .refl _, fun _ => rfl, .refl network⟩

theorem trans (hfirst : TablesTraced tables network events between network₁)
    (hsecond : TablesTraced between network₁ later tables' network') :
    TablesTraced tables network (events ++ later) tables' network' := by
  refine ⟨?_, hfirst.step.trans hsecond.step, fun id => (hsecond.cleared id).trans (hfirst.cleared id),
    hfirst.accounts.trans hsecond.accounts⟩
  intro event hevent
  rcases List.mem_append.mp hevent with hevent | hevent
  · exact hfirst.isTable event hevent
  · exact hsecond.isTable event hevent

theorem of_reported (journal : Log.Journal)
    (htraced : TablesTraced tables (network.reported journal) events tables' network') :
    TablesTraced tables network events tables' network' :=
  ⟨htraced.isTable, htraced.step, htraced.cleared, htraced.accounts.requests,
    htraced.accounts.readings⟩

end TablesTraced

/-- What taking a text in does to the table that decodes the channel. -/
def Channel.trace (channel : Channel) (tables : CodeTables) (raw : Option String)
    (network : Network) : List Event :=
  match raw, channel.decoding with
  | some raw, some decoding =>
    match tables.lookup decoding.table with
    | some table =>
      table.trace decoding.table (scaledText channel.factor raw) decoding.source decoding.target
        (network.reported ((channel.scale raw).run network.journal).2)
    | none => []
  | _, _ => []

theorem Channel.traced_update (channel : Channel) (tables : CodeTables) (raw : Option String)
    (network : Network) :
    TablesTraced tables network (channel.trace tables raw network)
      ((channel.update tables raw).run network).1.1 ((channel.update tables raw).run network).2 := by
  cases raw with
  | none => exact .refl tables network
  | some raw =>
      simp only [update, Online.run_bind, Online.run_liftM, run_scale_fst, Online.run_pure]
      refine TablesTraced.of_reported ((channel.scale raw).run network.journal).2 ?_
      cases hdecoding : channel.decoding with
      | none =>
          simp only [trace, decode, hdecoding, Online.run_pure]
          exact .refl tables _
      | some decoding =>
          cases htable : tables.lookup decoding.table with
          | none =>
              simp only [trace, decode, hdecoding, htable, Online.run_pure]
              exact .refl tables _
          | some table =>
              simp only [trace, decode, hdecoding, htable, Online.run_bind, Online.run_pure]
              have htraced := table.traced_trace decoding.table (scaledText channel.factor raw)
                decoding.source decoding.target
                (network.reported ((channel.scale raw).run network.journal).2)
              have hcleared := (table.resolved_resolve (scaledText channel.factor raw)
                decoding.source decoding.target
                (network.reported ((channel.scale raw).run network.journal).2)).cleared_eq
              refine ⟨fun event hevent => ?_, htraced.step htable, fun id => ?_, htraced.accounts⟩
              · exact ⟨_, htraced.cache_eq event hevent⟩
              · exact CodeTable.lookup_put_cleared htable hcleared id

namespace Group

/-- The window of the group, if it is cached. -/
def window? (group : Group) : Option Window :=
  if group.cached then some ⟨group.refresh, group.lastFetch⟩ else none

/-- What taking the fields of a line in does to the tables. -/
def takeInTrace : List (String × Option String) → CodeTables → Group → Network → List Event
  | [], _, _, _ => []
  | (name, field) :: fields, tables, group, network =>
    match group.channel? name with
    | none => takeInTrace fields tables group network
    | some channel =>
      let outcome := (channel.update tables field).run network
      channel.trace tables field network ++
        takeInTrace fields outcome.1.1 (group.withChannel outcome.1.2) outcome.2

theorem traced_takeIn (fields : List (String × Option String)) (tables : CodeTables) (group : Group)
    (network : Network) :
    TablesTraced tables network (takeInTrace fields tables group network)
      ((takeIn fields tables group).run network).1.1
      ((takeIn fields tables group).run network).2 := by
  induction fields generalizing tables group network with
  | nil => exact .refl tables network
  | cons field fields ih =>
      obtain ⟨name, field⟩ := field
      cases hchannel : group.channel? name with
      | none =>
          simp only [takeInTrace, takeIn, hchannel]
          exact ih tables group network
      | some channel =>
          simp only [takeInTrace, takeIn, hchannel, Online.run_bind]
          exact (channel.traced_update tables field network).trans (ih _ _ _)

/-- The fields that a round takes in if it gets that far. -/
def incoming (group : Group) (network : Network) : List (String × Option String) :=
  let fields? : Option (List (Option String)) := do
    let layout ← group.layout?
    let page ← (network.answerFor (← group.url)).page
    extract layout group.names.length page
  group.names.zip (fields?.getD [])

/-- What a round does to a group of that name, and to the tables. -/
def trace (group : Group) (id : String) (tables : CodeTables) (network : Network) : List Event :=
  let outcome := (group.round tables).run network
  let request := network.nextRequest outcome.2
  .asked (.group id) (network.shown group.cached) request ::
    if outcome.1.2 then
      takeInTrace (group.incoming network) tables group
          ((network.readIf group.cached).asked (group.url.getD "") group.timeout) ++
        [.stored (.group id) outcome.1.1.2.lastFetch]
    else []

/-- What a round can do to the caches. -/
inductive Traced (group : Group) (id : String) (tables : CodeTables) (network : Network) :
    List Event → CodeTables → Group → Network → Prop
  | kept {journal : Log.Journal} :
      Traced group id tables network [.asked (.group id) (network.shown group.cached) none] tables
        group ((network.readIf group.cached).reported journal)
  | failed {url : String} {journal : Log.Journal}
      (hstale : group.isStale network.reading = true) :
      Traced group id tables network
        [.asked (.group id) (network.shown group.cached) (some ⟨url, group.timeout⟩)] tables group
        (((network.readIf group.cached).asked url group.timeout).reported journal)
  | taken {url : String} {events : List Event} {tables' : CodeTables} {group' : Group}
      {between : Network} (hstale : group.isStale network.reading = true)
      (hname : group'.name = group.name)
      (hwindow : group'.window? =
        group.window?.map fun window => { window with stamp := between.reading })
      (htables : TablesTraced tables ((network.readIf group.cached).asked url group.timeout) events
        tables' between) :
      Traced group id tables network
        (.asked (.group id) (network.shown group.cached) (some ⟨url, group.timeout⟩) ::
          (events ++ [.stored (.group id) between.reading])) tables' group' between.read

theorem run_round_of_extract {group : Group} {layout : Layout} {url page : String}
    {fields : List (Option String)} {network : Network} (tables : CodeTables)
    (hstale : group.isStale network.reading = true) (hlayout : group.layout? = some layout)
    (hurl : group.url = some url) (hpage : (network.answerFor url).page = some page)
    (hfields : extract layout group.names.length page = some fields) :
    (group.round tables).run network =
      let outcome := (takeIn (group.names.zip fields) tables group).run
        ((network.readIf group.cached).asked url group.timeout)
      (((outcome.1.1, { outcome.1.2 with lastFetch := outcome.2.reading }), true), outcome.2.read) := by
  simp only [round, Online.run_bind, run_isStaleNow, hstale, Bool.not_true, Bool.false_eq_true,
    if_false, hlayout, hurl, fetchPage, Online.run_fetch, Network.answerFor_readIf, hpage, takePage,
    hfields, Online.run_now, Online.run_pure]

theorem traced_trace (group : Group) (id : String) (tables : CodeTables) (network : Network) :
    Traced group id tables network (group.trace id tables network)
      ((group.round tables).run network).1.1.1 ((group.round tables).run network).1.1.2
      ((group.round tables).run network).2 := by
  have hrounded := group.rounded_round tables network
  unfold trace
  cases hchanged : ((group.round tables).run network).1.2 with
  | false =>
      rw [hchanged] at hrounded
      generalize (group.round tables).run network = outcome at *
      obtain ⟨⟨⟨tables', group'⟩, changed⟩, network'⟩ := outcome
      dsimp only at hrounded hchanged ⊢
      subst hchanged
      cases hrounded with
      | fresh | unlaid | unlocated => simpa [Network.nextRequest] using .kept
      | unanswered hstale | unmatched hstale => simpa [Network.nextRequest] using .failed hstale
  | true =>
      obtain ⟨hstale, layout, url, page, hlayout, hurl, hpage, hextract⟩ :=
        hrounded.succeeded_iff.mp hchanged
      obtain ⟨fields, hfields⟩ := Option.isSome_iff_exists.mp hextract
      have hincoming : group.incoming network = group.names.zip fields := by
        simp [incoming, hlayout, hurl, hpage, hfields]
      have htables := traced_takeIn (group.names.zip fields) tables group
        ((network.readIf group.cached).asked url group.timeout)
      have htaken := takenIn_takeIn (group.names.zip fields) tables group
        ((network.readIf group.cached).asked url group.timeout)
      rw [run_round_of_extract tables hstale hlayout hurl hpage hfields, hincoming, hurl]
      generalize (takeIn (group.names.zip fields) tables group).run
        ((network.readIf group.cached).asked url group.timeout) = outcome at *
      have hrequest : network.nextRequest outcome.2.read = some ⟨url, group.timeout⟩ := by
        simp [Network.nextRequest, htables.accounts.requests]
      have hkept := htaken.eq_with_channels
      simp only [hrequest, if_true]
      refine .taken hstale ?_ ?_ htables
      · rw [hkept]
      · rw [hkept]
        cases hcached : group.cached <;> simp [window?, hcached]

namespace Traced

variable {group group' : Group} {id : String} {tables tables' : CodeTables}
  {network network' : Network} {events : List Event}

theorem name_eq (htraced : Traced group id tables network events tables' group' network') :
    group'.name = group.name := by
  cases htraced with
  | kept | failed => rfl
  | taken _ hname => exact hname

theorem accounts (htraced : Traced group id tables network events tables' group' network') :
    Accounts network events network' := by
  have hasked : ∀ url, Accounts network
      [.asked (.group id) (network.shown group.cached) (some ⟨url, group.timeout⟩)]
      ((network.readIf group.cached).asked url group.timeout) := by
    intro url
    constructor
    · simp [Cache.requests, Event.request?]
    · cases group.cached <;> rfl
  cases htraced with
  | kept =>
      constructor
      · simp [Cache.requests, Event.request?]
      · cases group.cached <;> rfl
  | failed => exact ⟨(hasked _).requests, (hasked _).readings⟩
  | @taken _ _ _ _ between _ _ _ htables =>
      have hstored : Accounts between [.stored (.group id) between.reading] between.read :=
        ⟨(List.append_nil _).symm, rfl⟩
      exact (hasked _).trans (htables.accounts.trans hstored)

theorem eq_of_stamps_eq_nil
    (htraced : Traced group id tables network events tables' group' network')
    (hstamps : Cache.stamps (.group id) events = []) : group' = group := by
  cases htraced with
  | kept | failed => rfl
  | taken => simp [Cache.stamps, Event.stamp?] at hstamps

theorem of_other (htraced : Traced group id tables network events tables' group' network')
    {other : String} (hother : other ≠ id) : ∀ event ∈ events, event.cache ≠ .group other := by
  have hid : Cache.group id ≠ .group other := by simpa using Ne.symm hother
  cases htraced with
  | kept | failed => simpa [Event.cache] using hid
  | taken _ _ _ htables =>
      intro event hevent
      rcases List.mem_cons.mp hevent with rfl | hevent
      · exact hid
      · rcases List.mem_append.mp hevent with hevent | hevent
        · obtain ⟨table, htable⟩ := htables.isTable event hevent
          simp [htable]
        · rw [List.mem_singleton.mp hevent]
          exact hid

end Traced

end Group

end Telemetry
