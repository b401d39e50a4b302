import Telemetry.Proofs.Device.Build
import Telemetry.Proofs.Matching.Use

namespace Telemetry

/-- The text is a pattern, or is told to be malformed. -/
def Pattern.IsJudged (source : String) : Prop :=
  ∀ fault, compile source = .error fault → fault = .malformed

/-- The text can be taken apart as a url, unless there are placeholders left in it. -/
def Url.IsJudged (text : String) : Prop :=
  Template.hasHole text = false → ∃ url, read text = .ok url

def Properties.expanded (properties : Properties) (host : Option String) (template : String) :
    String :=
  Template.expanded (Template.resolved (properties.family "vars") host) (Text.strip template)

/-- Every text that building a device takes apart can be judged. -/
structure Device.Buildable (properties : Properties) (host : Option String) : Prop where
  probe : ∀ expr, properties.lookup "test.expr" = some expr → expr ≠ "" →
    Pattern.IsJudged (unquote expr)
  tableUrl : ∀ key value id, (key, value) ∈ properties →
    PropertyKey.ofText key = .table id .url → Url.IsJudged (properties.expanded host value)
  tableExpr : ∀ key value id source names, (key, value) ∈ properties →
    PropertyKey.ofText key = .table id .expr → takeExpr value = some (source, names) →
    Pattern.IsJudged source
  groupUrl : ∀ key value id, (key, value) ∈ properties → PropertyKey.ofText key = .group id .url →
    (namesOf properties id).isSome → Url.IsJudged (properties.expanded host value)
  groupPattern : ∀ key value id field, (key, value) ∈ properties →
    PropertyKey.ofText key = .group id field → field = .split ∨ field = .expr →
    (namesOf properties id).isSome → Pattern.IsJudged (unquote value)

/-- Every text that probing a host takes apart can be judged. -/
structure Probe.Answerable (properties : Properties) (host : String) (timeout : Int) : Prop where
  pattern : ∀ expr, properties.lookup "test.expr" = some expr → expr ≠ "" →
    Pattern.IsJudged (unquote expr)
  port : ∀ template, properties.lookup "test.url" = some template → template ≠ "" →
    (properties.lookup "test.port").bind Text.readInt = none →
    Url.IsJudged (properties.expanded (some host) template)
  timeout : ∀ template, properties.lookup "test.url" = some template → template ≠ "" →
    Template.hasHole (properties.expanded (some host) template) = false →
    ∃ limit, seconds timeout = .ok limit

namespace Building

variable {α β : Type}

/-- The fault of an outcome, or else of what is done with its value. -/
def firstFault (outcome : Except Fault α) (rest? : α → Option Fault) : Option Fault :=
  match outcome with
  | .ok value => rest? value
  | .error fault => some fault

theorem firstFault_eq_none_iff {outcome : Except Fault α} {rest? : α → Option Fault} :
    firstFault outcome rest? = none ↔ ∃ value, outcome = .ok value ∧ rest? value = none := by
  cases outcome with
  | ok value => simp [firstFault]
  | error fault => simp [firstFault]

theorem faultOf_eq_none_iff {outcome : Except Fault α} :
    faultOf outcome = none ↔ ∃ value, outcome = .ok value := by
  cases outcome with
  | ok value => exact ⟨fun _ => ⟨value, rfl⟩, fun _ => rfl⟩
  | error fault => exact ⟨nofun, nofun⟩

@[simp] theorem faultOf_map (f : α → β) (outcome : Except Fault α) :
    faultOf (f <$> outcome) = faultOf outcome := by
  cases outcome <;> rfl

@[simp] theorem faultOf_outcome (fault? : Option Fault) (value : α) :
    faultOf (outcome fault? value) = fault? := by
  cases fault? <;> rfl

theorem faultOf_compiled_eq_none_iff {source : String} :
    faultOf (compiled source) = none ↔ Pattern.IsJudged source := by
  unfold compiled Pattern.IsJudged
  cases Pattern.compile source with
  | ok pattern => exact ⟨fun _ => nofun, fun _ => rfl⟩
  | error fault => cases fault <;> simp [faultOf]

end Building

open Building

theorem Probe.faultOf_read_eq_none_iff {properties : Properties} :
    faultOf (read properties) = none ↔
      ∀ expr, properties.lookup "test.expr" = some expr → expr ≠ "" →
        Pattern.IsJudged (unquote expr) := by
  rw [read, faultOf_map]
  cases properties.lookup "test.expr" with
  | none => exact ⟨fun _ => nofun, fun _ => rfl⟩
  | some expr =>
      simp only [patternIn, Option.some.injEq, forall_eq']
      by_cases hempty : expr = ""
      · simp [hempty, faultOf]
      · simp only [hempty, if_false, faultOf_compiled_eq_none_iff, not_false_eq_true, true_imp_iff,
          ne_eq]

namespace Device

theorem Setting.faultOf_url_eq_none_iff {setting : Setting} {template : String} :
    faultOf (setting.url template) = none ↔
      Url.IsJudged (setting.expanded (Text.strip template)) := by
  unfold Setting.url Url.IsJudged
  dsimp only
  cases Template.hasHole (setting.expanded (Text.strip template)) with
  | true => simp [faultOf]
  | false =>
      rw [if_neg Bool.false_ne_true]
      cases Url.read (setting.expanded (Text.strip template)) <;> simp [faultOf]

theorem faultOf_exprEdit?_eq_none_iff {value : String} :
    faultOf (Setting.exprEdit? value) = none ↔
      ∀ source names, takeExpr value = some (source, names) → Pattern.IsJudged source := by
  unfold Setting.exprEdit?
  cases takeExpr value with
  | none => exact ⟨fun _ => nofun, fun _ => rfl⟩
  | some found =>
      obtain ⟨source, names⟩ := found
      simp [faultOf_compiled_eq_none_iff]

variable {properties : Properties} {host : Option String}

theorem faultOf_tableEditOf_eq_none_iff {key value : String} :
    faultOf ((settingOf properties host).tableEditOf (key, value)) = none ↔
      (∀ id, PropertyKey.ofText key = .table id .url →
        Url.IsJudged (properties.expanded host value)) ∧
      (∀ id, PropertyKey.ofText key = .table id .expr → ∀ source names,
        takeExpr value = some (source, names) → Pattern.IsJudged source) := by
  have hurl : faultOf ((settingOf properties host).url value) = none ↔
      Url.IsJudged (properties.expanded host value) := Setting.faultOf_url_eq_none_iff
  rw [Setting.tableEditOf]
  cases PropertyKey.ofText key with
  | table id field =>
      rw [faultOf_map]
      cases field with
      | url => simp [Setting.tableEdit?, hurl]
      | expr => simp [Setting.tableEdit?, faultOf_exprEdit?_eq_none_iff]
      | _ => simp [Setting.tableEdit?, faultOf]
  | _ => simp [faultOf]

theorem faultOf_groupEditOf_eq_none_iff {key value : String} :
    faultOf ((settingOf properties host).groupEditOf (key, value)) = none ↔
      (∀ id, PropertyKey.ofText key = .group id .url → (namesOf properties id).isSome →
        Url.IsJudged (properties.expanded host value)) ∧
      (∀ id field, PropertyKey.ofText key = .group id field → field = .split ∨ field = .expr →
        (namesOf properties id).isSome → Pattern.IsJudged (unquote value)) := by
  have hurl : faultOf ((settingOf properties host).url value) = none ↔
      Url.IsJudged (properties.expanded host value) := Setting.faultOf_url_eq_none_iff
  rw [Setting.groupEditOf]
  cases PropertyKey.ofText key with
  | group id field =>
      dsimp only
      have hgroup : (settingOf properties host).hasGroup id = (namesOf properties id).isSome := rfl
      rw [hgroup]
      cases hdeclared : (namesOf properties id).isSome with
      | false =>
          -- a property of a group that is not declared is passed over before anything is taken apart
          have hnot : ∀ id' field', PropertyKey.group id field = .group id' field' →
              ¬ (namesOf properties id').isSome := by
            intro id' field' hid
            obtain ⟨rfl, -⟩ := PropertyKey.group.inj hid
            rw [hdeclared]
            exact Bool.false_ne_true
          refine ⟨fun _ => ⟨fun id' hid hsome => ?_, fun id' field' hid _ hsome => ?_⟩, fun _ => rfl⟩
          · exact absurd hsome (hnot id' .url hid)
          · exact absurd hsome (hnot id' field' hid)
      | true =>
          rw [if_pos rfl, faultOf_map]
          cases field with
          | url => simp [Setting.groupEdit?, hurl, hdeclared]
          | split => simp [Setting.groupEdit?, faultOf_compiled_eq_none_iff, hdeclared]
          | expr => simp [Setting.groupEdit?, faultOf_compiled_eq_none_iff, hdeclared]
          | _ => simp [Setting.groupEdit?, faultOf]
  | binding id channel =>
      dsimp only
      split
      · rw [faultOf_map]
        simp [faultOf]
      · simp [faultOf]
  | _ => simp [faultOf]

theorem exists_built_iff_faults {timeout : Int} :
    (∃ device, built properties host timeout = .ok device) ↔
      faultOf (Probe.read properties) = none ∧ ∀ property ∈ properties,
        faultOf ((settingOf properties host).tableEditOf property) = none ∧
          faultOf ((settingOf properties host).groupEditOf property) = none := by
  rw [← faultOf_eq_none_iff, built]
  cases hprobe : Probe.read properties with
  | error fault =>
      constructor
      · intro hbuilt
        contradiction
      · intro hfaults
        have hfault := hfaults.1
        contradiction
  | ok probe =>
      have hbuilt : faultOf ((Except.ok probe : Except Fault Probe) >>= fun probe =>
          outcome (editFault? (settingOf properties host) properties)
            (assembled properties host timeout probe)) =
          editFault? (settingOf properties host) properties :=
        faultOf_outcome _ _
      rw [hbuilt, editFault?, Option.or_eq_none_iff, List.findSome?_eq_none_iff,
        List.findSome?_eq_none_iff]
      constructor
      · exact fun hedits =>
          ⟨rfl, fun property hmem => ⟨hedits.1 property hmem, hedits.2 property hmem⟩⟩
      · exact fun hedits => ⟨fun property hmem => (hedits.2 property hmem).1,
          fun property hmem => (hedits.2 property hmem).2⟩

/-- A device comes out just if every url and every pattern can be judged. -/
theorem exists_built_iff (timeout : Int) :
    (∃ device, built properties host timeout = .ok device) ↔ Buildable properties host := by
  rw [exists_built_iff_faults, Probe.faultOf_read_eq_none_iff]
  constructor
  · rintro ⟨hprobe, hedits⟩
    have htable := fun key value hmem =>
      faultOf_tableEditOf_eq_none_iff.mp (hedits (key, value) hmem).1
    have hgroup := fun key value hmem =>
      faultOf_groupEditOf_eq_none_iff.mp (hedits (key, value) hmem).2
    exact {
      probe := hprobe
      tableUrl := fun key value id hmem hkey => (htable key value hmem).1 id hkey
      tableExpr := fun key value id source names hmem hkey =>
        (htable key value hmem).2 id hkey source names
      groupUrl := fun key value id hmem hkey => (hgroup key value hmem).1 id hkey
      groupPattern := fun key value id field hmem hkey => (hgroup key value hmem).2 id field hkey }
  · intro hbuildable
    refine ⟨hbuildable.probe, fun ⟨key, value⟩ hmem => ⟨?_, ?_⟩⟩
    · rw [faultOf_tableEditOf_eq_none_iff]
      exact ⟨fun id => hbuildable.tableUrl key value id hmem,
        fun id hkey source names => hbuildable.tableExpr key value id source names hmem hkey⟩
    · rw [faultOf_groupEditOf_eq_none_iff]
      exact ⟨fun id => hbuildable.groupUrl key value id hmem,
        fun id field => hbuildable.groupPattern key value id field hmem⟩

end Device

namespace Attempt

variable {α β : Type} {act : Attempt α} {next : α → Attempt β} {fault? : Option Fault}

/-- The fault that ends the computation in every network. -/
def Ends (act : Attempt α) (fault? : Option Fault) : Prop :=
  ∀ network, faultOf (act.run.run network).1 = fault?

theorem ends_pure (value : α) : Ends (pure value) none :=
  fun _ => rfl

theorem ends_liftM (act : Online α) : Ends (liftM act) none :=
  fun _ => rfl

/-- What the computation comes to in every network. -/
def Gives (act : Attempt α) (outcome : Except Fault α) : Prop :=
  ∀ network, (act.run.run network).1 = outcome

theorem gives_building {act : Building α} {outcome : Except Fault α} (hact : act.Gives outcome) :
    Gives (building act) outcome :=
  fun network => hact network.journal

theorem gives_noting {act : Log.Noting α} {value : α} (hact : Log.Gives act value) :
    Gives (liftM act) (.ok value) :=
  fun network => Building.gives_liftM hact network.journal

theorem gives_outcome (outcome : Except Fault α) : Gives (liftM outcome) outcome :=
  fun _ => rfl

theorem faultOf_run_bind (act : Attempt α) (next : α → Attempt β) (network : Network) :
    faultOf ((act >>= next).run.run network).1 =
      firstFault (act.run.run network).1 fun value =>
        faultOf ((next value).run.run (act.run.run network).2).1 := by
  rw [run_run_bind]
  obtain ⟨result, network'⟩ := act.run.run network
  cases result with
  | ok value => rfl
  | error fault => rfl

theorem Gives.ends_bind {outcome : Except Fault α} (hact : Gives act outcome)
    {rest? : α → Option Fault} (hnext : ∀ value, Ends (next value) (rest? value)) :
    Ends (act >>= next) (firstFault outcome rest?) := by
  intro network
  rw [faultOf_run_bind, hact network]
  cases outcome with
  | ok value => exact hnext value _
  | error fault => rfl

theorem Gives.ends_bind_ok {value : α} (hact : Gives act (.ok value))
    (hnext : Ends (next value) fault?) : Ends (act >>= next) fault? := by
  intro network
  rw [faultOf_run_bind, hact network]
  exact hnext _

theorem Ends.bind (hact : Ends act none) (hnext : ∀ value, Ends (next value) fault?) :
    Ends (act >>= next) fault? := by
  intro network
  obtain ⟨value, hvalue⟩ := faultOf_eq_none_iff.mp (hact network)
  rw [faultOf_run_bind, hvalue]
  exact hnext value _

end Attempt

open Attempt

def Probe.urlFault? (probe : Probe) (url : String) (timeout : Int) : Option Fault :=
  if Template.hasHole url then none
  else firstFault (Profile.portFor probe url) fun _ => firstFault (seconds timeout) fun _ => none

def Probe.fault? (properties : Properties) (host : String) (timeout : Int) : Option Fault :=
  firstFault (read properties) fun probe => probe.url.bind fun template => probe.urlFault?
    (Template.expanded (Template.resolved (properties.family "vars") (some host)) template) timeout

theorem Profile.ends_strength (profile : Profile) (host : String) (fully : Bool) (timeout : Int) :
    Ends (profile.strength host fully timeout) (Probe.fault? profile.properties host timeout) := by
  unfold strength Probe.fault? Probe.urlFault?
  refine (gives_building (Probe.gives_ofProperties _ _)).ends_bind fun probe => ?_
  cases probe.url with
  | none => exact (ends_liftM _).bind fun _ => ends_pure _
  | some template =>
      -- the expanded url has to be known, so these two steps are followed by their values
      refine (gives_noting (Template.gives_resolve _ _)).ends_bind_ok ?_
      refine (gives_noting (Template.gives_expand _ _ _)).ends_bind_ok ?_
      rw [Option.bind_some]
      split
      · exact (ends_liftM _).bind fun _ => ends_pure _
      · refine (gives_outcome _).ends_bind fun port => (gives_outcome _).ends_bind fun limit => ?_
        refine (ends_liftM _).bind fun reached => ?_
        split
        · exact ends_pure _
        · split
          · exact ends_pure _
          · exact (ends_liftM _).bind fun _ => ends_pure _

theorem Probe.read_url {properties : Properties} {probe : Probe}
    (hread : read properties = .ok probe) :
    probe.url = ((properties.lookup "test.url").filter (· ≠ "")).map Text.strip ∧
      probe.port = (properties.lookup "test.port").bind Text.readInt := by
  rw [read] at hread
  cases hpattern : patternIn (properties.lookup "test.expr") with
  | error fault =>
      rw [hpattern] at hread
      contradiction
  | ok pattern =>
      rw [hpattern] at hread
      obtain rfl := Except.ok.inj hread
      exact ⟨rfl, rfl⟩

theorem Profile.portFor_ok_iff {probe : Probe} {url : String} :
    (∃ port, portFor probe url = .ok port) ↔
      (probe.port = none → ∃ parts, Url.read url = .ok parts) := by
  rw [portFor, Probe.portFor]
  cases probe.port with
  | some port => exact ⟨fun _ => nofun, fun _ => ⟨port, rfl⟩⟩
  | none =>
      cases Url.read url with
      | ok parts => exact ⟨fun _ _ => ⟨parts, rfl⟩, fun _ => ⟨_, rfl⟩⟩
      | error fault => exact ⟨nofun, fun hread => nomatch hread rfl⟩

theorem Probe.urlFault?_eq_none_iff {probe : Probe} {url : String} {timeout : Int} :
    probe.urlFault? url timeout = none ↔
      (probe.port = none → Url.IsJudged url) ∧
        (Template.hasHole url = false → ∃ limit, seconds timeout = .ok limit) := by
  unfold urlFault? Url.IsJudged
  cases Template.hasHole url with
  | true => simp
  | false =>
      rw [if_neg Bool.false_ne_true, firstFault_eq_none_iff]
      simp only [firstFault_eq_none_iff, and_true, true_imp_iff, exists_and_right,
        Profile.portFor_ok_iff]

/-- A host can be probed just if the pattern, the url and the timeout can be judged. -/
theorem Probe.fault?_eq_none_iff {properties : Properties} {host : String} {timeout : Int} :
    fault? properties host timeout = none ↔ Answerable properties host timeout := by
  have hurls : ∀ probe, read properties = .ok probe →
      ((probe.url.bind fun template => probe.urlFault?
        (Template.expanded (Template.resolved (properties.family "vars") (some host)) template)
        timeout) = none ↔
      ∀ template, properties.lookup "test.url" = some template → template ≠ "" →
        (probe.port = none → Url.IsJudged (properties.expanded (some host) template)) ∧
          (Template.hasHole (properties.expanded (some host) template) = false →
            ∃ limit, seconds timeout = .ok limit)) := by
    intro probe hread
    rw [(read_url hread).1]
    cases properties.lookup "test.url" with
    | none => exact ⟨fun _ => nofun, fun _ => rfl⟩
    | some template =>
        by_cases hempty : template = ""
        · simp [hempty]
        · simp only [Option.filter_some, hempty, ne_eq, not_false_eq_true, decide_true, if_true,
            Option.map_some, Option.bind_some, urlFault?_eq_none_iff, Option.some.injEq, forall_eq',
            true_imp_iff]
          rfl
  rw [fault?, firstFault_eq_none_iff]
  constructor
  · rintro ⟨probe, hread, hrest⟩
    have hurl := (hurls probe hread).mp hrest
    have hport := (read_url hread).2
    exact {
      pattern := faultOf_read_eq_none_iff.mp (faultOf_eq_none_iff.mpr ⟨probe, hread⟩)
      port := fun template htemplate hne hnone =>
        (hurl template htemplate hne).1 (hport.trans hnone)
      timeout := fun template htemplate hne => (hurl template htemplate hne).2 }
  · intro hanswerable
    obtain ⟨probe, hread⟩ := faultOf_eq_none_iff.mp (faultOf_read_eq_none_iff.mpr hanswerable.pattern)
    refine ⟨probe, hread, (hurls probe hread).mpr fun template htemplate hne => ⟨fun hnone => ?_, ?_⟩⟩
    · exact hanswerable.port template htemplate hne ((read_url hread).2.symm.trans hnone)
    · exact hanswerable.timeout template htemplate hne

theorem Matching.ends_discoverFrom {host : String} {preferStrong : Bool} {timeout : Int}
    {profiles : List Profile}
    (hanswerable : ∀ profile ∈ profiles, Probe.Answerable profile.properties host timeout)
    (kept : Option Profile) :
    Ends (discoverFrom host preferStrong timeout kept profiles) none := by
  induction profiles generalizing kept with
  | nil => exact ends_liftM _
  | cons profile profiles ih =>
      have hstrength := profile.ends_strength host true timeout
      rw [Probe.fault?_eq_none_iff.mpr (hanswerable profile List.mem_cons_self)] at hstrength
      have hrest := ih fun other hother => hanswerable other (List.mem_cons_of_mem _ hother)
      unfold discoverFrom
      refine hstrength.bind fun strength => ?_
      split
      · exact hrest kept
      · exact hrest kept
      · split
        · exact (ends_liftM _).bind fun _ => ends_pure _
        · exact hrest _

namespace Profile

/-- Building a device and probing a host come to an end just if all that they have to take apart can
be judged. A library of such profiles can be searched to its end. -/
theorem build_and_strength_return_iff (profile : Profile) (host : String) (timeout : Int)
    (network : Network) :
    (∀ (bound : Option String) (journal : Log.Journal),
      (∃ device, ((Device.build profile.properties bound timeout).run.run journal).1 = .ok device) ↔
        Device.Buildable profile.properties bound) ∧
    (∀ fully : Bool,
      (∃ found, ((profile.strength host fully timeout).run.run network).1 = .ok found) ↔
        Probe.Answerable profile.properties host timeout) ∧
    (∀ (profiles : List Profile) (preferStrong : Bool),
      (∀ other ∈ profiles, Probe.Answerable other.properties host timeout) →
      ∃ found, ((Matching.discover profiles host preferStrong timeout).run.run network).1 =
        .ok found) := by
  refine ⟨fun bound journal => ?_, fun fully => ?_, ?_⟩
  · rw [Device.gives_build profile.properties bound timeout journal]
    exact Device.exists_built_iff timeout
  · rw [← faultOf_eq_none_iff, ends_strength, Probe.fault?_eq_none_iff]
  · intro profiles preferStrong hanswerable
    exact faultOf_eq_none_iff.mp (Matching.ends_discoverFrom hanswerable none network)

/-- Nothing about these properties is open. -/
def plainProfile : Properties := [
  ("properties.name", "p"), ("values.g.vars", "a"), ("values.g.url", "http://host/a"),
  ("values.g.split", ";"), ("test.url", "http://host/id"), ("test.expr", "p.*")]

theorem plainProfile_returns :
    Device.Buildable plainProfile (some "host") ∧ Probe.Answerable plainProfile "host" 3000 ∧
      ∀ network : Network, ∃ found, ((Matching.discover [⟨"p", "p.yaml", plainProfile⟩] "host" false
        3000).run.run network).1 = .ok found := by
  have hreturns := fun network =>
    build_and_strength_return_iff ⟨"p", "p.yaml", plainProfile⟩ "host" 3000 network
  have hbuilt : faultOf ((Device.build plainProfile (some "host") 3000).run.run []).1 = none := by
    decide +kernel
  have hprobed : faultOf ((strength ⟨"p", "p.yaml", plainProfile⟩ "host" true 3000).run.run
      (.ofWorld ⟨fun _ => none, fun _ _ => true⟩)).1 = none := by decide +kernel
  have hanswerable : Probe.Answerable plainProfile "host" 3000 :=
    ((hreturns _).2.1 true).mp (faultOf_eq_none_iff.mp hprobed)
  have hbuildable : Device.Buildable plainProfile (some "host") :=
    ((hreturns (.ofWorld ⟨fun _ => none, fun _ _ => true⟩)).1 (some "host") []).mp
      (faultOf_eq_none_iff.mp hbuilt)
  refine ⟨hbuildable, hanswerable, fun network => ?_⟩
  refine (hreturns network).2.2 _ false fun other hother => ?_
  obtain rfl := List.mem_singleton.mp hother
  exact hanswerable

/-- A bracket in a url that is not closed. -/
def openProfile : Properties := [
  ("properties.name", "p"), ("values.g.vars", "a"), ("values.g.url", "http://["),
  ("test.url", "http://[")]

theorem not_forall_build_returns :
    (¬ ∀ (properties : Properties) (host : String) (timeout : Int),
      ∃ device, ((Device.build properties (some host) timeout).run.run []).1 = .ok device) ∧
    (¬ ∀ (properties : Properties) (host : String) (timeout : Int) (network : Network),
      ∃ found, ((strength ⟨"p", "p.yaml", properties⟩ host true timeout).run.run network).1 =
        .ok found) := by
  constructor
  · intro hreturns
    obtain ⟨device, hdevice⟩ := hreturns openProfile "host" 3000
    have hfault : faultOf ((Device.build openProfile (some "host") 3000).run.run []).1 =
        some (.url .openBracket) := by decide +kernel
    rw [hdevice] at hfault
    contradiction
  · intro hreturns
    obtain ⟨found, hfound⟩ :=
      hreturns openProfile "host" 3000 (.ofWorld ⟨fun _ => none, fun _ _ => true⟩)
    have hfault : faultOf ((strength ⟨"p", "p.yaml", openProfile⟩ "host" true 3000).run.run
        (.ofWorld ⟨fun _ => none, fun _ _ => true⟩)).1 = some (.url .openBracket) := by decide +kernel
    rw [hfound] at hfault
    contradiction

end Profile

end Telemetry
