import Telemetry.Proofs.Matching.Use

namespace Telemetry

open Attempt

section Probes

variable (world : World) (host : String) (timeout : Int)

/-- A full probe of a host for a profile, in the plainest network of a world. -/
def Profile.probed (profile : Profile) : Except Fault (Option Strength) × Network :=
  (profile.strength host true timeout).run.run (.ofWorld world)

/-- How well a profile fits a host in a world, if it fits at all. -/
def Profile.fit? (profile : Profile) : Option Strength :=
  match (profile.probed world host timeout).1 with
  | .ok (some .strong) => some .strong
  | .ok (some .weak) => some .weak
  | _ => none

/-- What a probe may ask of the network: nothing; or to reach the host once, and only if it can be
reached a page, once too. -/
def Network.IsProbed (asked : Network) : Prop :=
  (asked.pings = [] ∧ asked.requests = []) ∨
    ∃ port limit, asked.pings = [⟨host, port, limit⟩] ∧
      if world.reaches host port then ∃ url, asked.requests = [⟨url, timeout⟩]
      else asked.requests = []

end Probes

variable {world : World} {host : String} {timeout : Int}

section Asking

variable {α β : Type} {network : Network}

/-- A network of a world that was asked nothing so far. -/
structure Network.Unasked (network : Network) (world : World) : Prop where
  pings : network.pings = []
  requests : network.requests = []
  reaches : network.reaches = world.reaches

theorem Attempt.isProbed_bind {act : Attempt α} {next : α → Attempt β}
    (hact : (act.run.run network).2.Unasked world)
    (hnext : ∀ value (after : Network), after.Unasked world →
      ((next value).run.run after).2.IsProbed world host timeout) :
    ((act >>= next).run.run network).2.IsProbed world host timeout := by
  rw [run_run_bind]
  generalize act.run.run network = reached at *
  obtain ⟨result, after⟩ := reached
  cases result with
  | ok value => exact hnext value after hact
  | error fault => exact .inl ⟨hact.pings, hact.requests⟩

theorem Profile.requests_pageStrength (profile : Profile) (probe : Probe) (url : String)
    (timeout : Int) (network : Network) :
    ((profile.pageStrength probe url timeout).run network).2.requests =
        network.requests ++ [⟨url, timeout⟩] ∧
      ((profile.pageStrength probe url timeout).run network).2.pings = network.pings := by
  unfold pageStrength
  rw [Online.run_bind, Online.run_fetch]
  cases (network.answerFor url).page with
  | none => exact ⟨rfl, rfl⟩
  | some page =>
      cases probe.pattern with
      | none => exact ⟨rfl, rfl⟩
      | some pattern => exact ⟨rfl, rfl⟩

theorem Profile.isProbed_strength (profile : Profile) (hnetwork : network.Unasked world) :
    ((profile.strength host true timeout).run.run network).2.IsProbed world host timeout := by
  unfold strength
  refine isProbed_bind ⟨hnetwork.1, hnetwork.2, hnetwork.3⟩ fun probe network hnetwork => ?_
  split
  · exact .inl ⟨hnetwork.pings, hnetwork.requests⟩
  · refine isProbed_bind ⟨hnetwork.1, hnetwork.2, hnetwork.3⟩
      fun definitions network hnetwork => ?_
    refine isProbed_bind ⟨hnetwork.1, hnetwork.2, hnetwork.3⟩ fun url network hnetwork => ?_
    split
    · exact .inl ⟨hnetwork.pings, hnetwork.requests⟩
    · refine isProbed_bind hnetwork fun port network hnetwork => ?_
      refine isProbed_bind hnetwork fun limit network hnetwork => ?_
      have hping : (liftM (Online.ping host port limit) : Attempt Bool).run.run network =
          (.ok (network.reaches host port),
            { network with pings := network.pings ++ [⟨host, port, limit⟩] }) := rfl
      rw [run_run_bind, hping, hnetwork.pings, hnetwork.requests, List.nil_append]
      refine .inr ⟨port, limit, ?_⟩
      rw [← hnetwork.reaches]
      cases network.reaches host port with
      | false => exact ⟨rfl, rfl⟩
      | true =>
          obtain ⟨hrequests, hpings⟩ := profile.requests_pageStrength probe url timeout
            { network with pings := [⟨host, port, limit⟩], requests := [] }
          exact ⟨hpings, url, hrequests⟩

end Asking

theorem Profile.isProbed_probed (profile : Profile) :
    (profile.probed world host timeout).2.IsProbed world host timeout :=
  profile.isProbed_strength ⟨rfl, rfl, rfl⟩

namespace Matching

variable (world host timeout) in
/-- Does the profile end the search? -/
def decides (preferStrong : Bool) (profile : Profile) : Bool :=
  match profile.fit? world host timeout with
  | some .strong => true
  | some .weak => !preferStrong
  | _ => false

/-- The profiles up to the first one that ends the search, and that one. -/
def scanned (ends : Profile → Bool) (profiles : List Profile) : List Profile :=
  profiles.takeWhile (!ends ·) ++ (profiles.find? ends).toList

theorem scanned_cons_of_pos {ends : Profile → Bool} {profile : Profile} (hends : ends profile = true)
    (profiles : List Profile) : scanned ends (profile :: profiles) = [profile] := by
  simp [scanned, hends]

theorem scanned_cons_of_neg {ends : Profile → Bool} {profile : Profile} (hends : ends profile = false)
    (profiles : List Profile) :
    scanned ends (profile :: profiles) = profile :: scanned ends profiles := by
  simp [scanned, hends]

variable {preferStrong : Bool} {network : Network} {profiles : List Profile}

theorem mem_scanned_cons (ends : Profile → Bool) (profile : Profile) (profiles : List Profile) :
    profile ∈ scanned ends (profile :: profiles) := by
  cases hends : ends profile with
  | true => simp [scanned_cons_of_pos hends]
  | false => simp [scanned_cons_of_neg hends]

variable (world host timeout) in
/-- What the network was asked is what the probes of some profiles ask, one after another. -/
structure Asks (profiles : List Profile) (before after : Network) : Prop where
  requests : after.requests = before.requests ++
    profiles.flatMap fun profile => (profile.probed world host timeout).2.requests
  pings : after.pings = before.pings ++
    profiles.flatMap fun profile => (profile.probed world host timeout).2.pings

theorem Asks.of_eq {before after : Network} (hrequests : after.requests = before.requests)
    (hpings : after.pings = before.pings) : Asks world host timeout [] before after :=
  ⟨by rw [hrequests, List.flatMap_nil, List.append_nil],
    by rw [hpings, List.flatMap_nil, List.append_nil]⟩

theorem Asks.cons {profile : Profile} {before between after : Network}
    (hfirst : Asks world host timeout [profile] before between)
    (hrest : Asks world host timeout profiles between after) :
    Asks world host timeout (profile :: profiles) before after := by
  constructor
  · rw [hrest.requests, hfirst.requests, List.flatMap_singleton, List.append_assoc,
      List.flatMap_cons]
  · rw [hrest.pings, hfirst.pings, List.flatMap_singleton, List.append_assoc, List.flatMap_cons]

/-- A probe comes to the same in every network of a world, and asks the same. -/
theorem run_strength (hworld : network.Shows world) (profile : Profile) (timeout : Int) :
    ((profile.strength host true timeout).run.run network).1 =
        (profile.probed world host timeout).1 ∧
      ((profile.strength host true timeout).run.run network).2.Shows world ∧
      Asks world host timeout [profile] network
        ((profile.strength host true timeout).run.run network).2 := by
  have huses : Online.Uses false true (profile.strength host true timeout).run :=
    profile.uses_strength host true timeout
  obtain ⟨hresult, hrequests, hpings⟩ := huses.run_eq hworld
  refine ⟨hresult, huses.shows hworld, ?_, ?_⟩
  · rw [List.flatMap_singleton]
    exact hrequests
  · rw [List.flatMap_singleton]
    exact hpings

variable (world host timeout preferStrong) in
/-- The profile that the search ends with: one that decides it, else the one kept so far, else the
first that fits weakly. -/
def chosen (kept : Option Profile) (profiles : List Profile) : Option Profile :=
  (profiles.find? (decides world host timeout preferStrong)).or
    (kept.or (profiles.find? fun profile => profile.fit? world host timeout = some .weak))

theorem chosen_of_decides {profile : Profile}
    (hdecides : decides world host timeout preferStrong profile = true) (kept : Option Profile) :
    chosen world host timeout preferStrong kept (profile :: profiles) = some profile := by
  rw [chosen, List.find?_cons_of_pos hdecides, Option.some_or]

theorem chosen_of_none {profile : Profile} (hfit : profile.fit? world host timeout = none)
    (kept : Option Profile) :
    chosen world host timeout preferStrong kept (profile :: profiles) =
      chosen world host timeout preferStrong kept profiles := by
  have hgoes : ¬ decides world host timeout preferStrong profile = true := by simp [decides, hfit]
  rw [chosen, List.find?_cons_of_neg hgoes, List.find?_cons_of_neg (by simp [hfit]), chosen]

theorem chosen_of_weak {profile : Profile} (hfit : profile.fit? world host timeout = some .weak)
    (kept : Option Profile) :
    chosen world host timeout true kept (profile :: profiles) =
      chosen world host timeout true (kept.or (some profile)) profiles := by
  have hgoes : ¬ decides world host timeout true profile = true := by simp [decides, hfit]
  rw [chosen, List.find?_cons_of_neg hgoes, List.find?_cons_of_pos (by simp [hfit]), chosen,
    Option.or_assoc, Option.some_or]

theorem run_discoverFrom (hworld : network.Shows world) (kept : Option Profile)
    (hreturns : ∀ profile ∈ scanned (decides world host timeout preferStrong) profiles,
      ∃ strength, (profile.probed world host timeout).1 = .ok strength) :
    ((discoverFrom host preferStrong timeout kept profiles).run.run network).1 =
        .ok (chosen world host timeout preferStrong kept profiles) ∧
      Asks world host timeout (scanned (decides world host timeout preferStrong) profiles) network
        ((discoverFrom host preferStrong timeout kept profiles).run.run network).2 := by
  induction profiles generalizing kept network with
  | nil =>
      cases kept with
      | none => exact ⟨rfl, .of_eq rfl rfl⟩
      | some profile => exact ⟨rfl, .of_eq rfl rfl⟩
  | cons profile profiles ih =>
      obtain ⟨strength, hstrength⟩ := hreturns profile (mem_scanned_cons _ profile profiles)
      obtain ⟨hresult, hshows, hprobe⟩ := run_strength hworld profile timeout
      rw [hstrength] at hresult
      rw [discoverFrom, run_run_bind]
      generalize (profile.strength host true timeout).run.run network = reached at *
      obtain ⟨result, network'⟩ := reached
      obtain rfl : result = .ok strength := hresult
      -- a profile that does not end the search leaves the rest of the library to be scanned
      have hrest : decides world host timeout preferStrong profile = false → ∀ later,
          ((discoverFrom host preferStrong timeout later profiles).run.run network').1 =
              .ok (chosen world host timeout preferStrong later profiles) ∧
            Asks world host timeout
              (scanned (decides world host timeout preferStrong) (profile :: profiles)) network
              ((discoverFrom host preferStrong timeout later profiles).run.run network').2 := by
        intro hgoes later
        rw [scanned_cons_of_neg hgoes] at hreturns ⊢
        obtain ⟨hfound, hasks⟩ := ih hshows later fun other hother =>
          hreturns other (List.mem_cons_of_mem _ hother)
        exact ⟨hfound, hprobe.cons hasks⟩
      rcases strength with _ | _ | _ | _
      · have hfit : profile.fit? world host timeout = none := by rw [Profile.fit?, hstrength]
        rw [chosen_of_none hfit]
        exact hrest (by rw [decides, hfit]) kept
      · have hfit : profile.fit? world host timeout = none := by rw [Profile.fit?, hstrength]
        rw [chosen_of_none hfit]
        exact hrest (by rw [decides, hfit]) kept
      · have hfit : profile.fit? world host timeout = some .weak := by rw [Profile.fit?, hstrength]
        cases preferStrong with
        | false =>
            have hends : decides world host timeout false profile = true := by rw [decides, hfit]; rfl
            rw [chosen_of_decides hends, scanned_cons_of_pos hends]
            exact ⟨rfl, hprobe.requests, hprobe.pings⟩
        | true =>
            rw [chosen_of_weak hfit]
            exact hrest (by rw [decides, hfit]; rfl) (kept.or (some profile))
      · have hfit : profile.fit? world host timeout = some .strong := by rw [Profile.fit?, hstrength]
        have hends : decides world host timeout preferStrong profile = true := by rw [decides, hfit]
        rw [chosen_of_decides hends, scanned_cons_of_pos hends]
        exact ⟨rfl, hprobe.requests, hprobe.pings⟩

variable (world host timeout) in
/-- Does the profile fit, strongly or weakly? -/
def IsFit (profile : Profile) : Prop :=
  profile.fit? world host timeout = some .weak ∨ profile.fit? world host timeout = some .strong

instance (profile : Profile) : Decidable (IsFit world host timeout profile) :=
  inferInstanceAs (Decidable (_ ∨ _))

theorem decides_iff {profile : Profile} :
    decides world host timeout preferStrong profile = true ↔
      profile.fit? world host timeout = some .strong ∨
        profile.fit? world host timeout = some .weak ∧ preferStrong = false := by
  unfold decides
  split <;> simp_all

theorem decides_false_eq :
    decides world host timeout false = fun profile => decide (IsFit world host timeout profile) := by
  funext profile
  rw [Bool.eq_iff_iff, decides_iff, decide_eq_true_iff, IsFit]
  simp [or_comm]

theorem decides_true_eq :
    decides world host timeout true = fun profile =>
      decide (profile.fit? world host timeout = some .strong) := by
  funext profile
  rw [Bool.eq_iff_iff, decides_iff, decide_eq_true_iff]
  simp

/-- Without a preference the first fit is chosen, and with it the first strong one, if there is any. -/
theorem chosen_false_eq :
    chosen world host timeout false none profiles = profiles.find? (IsFit world host timeout ·) := by
  rw [chosen, decides_false_eq, Option.none_or]
  cases hfit : profiles.find? (IsFit world host timeout ·) with
  | some profile => rfl
  | none =>
      rw [Option.none_or, List.find?_eq_none]
      intro profile hprofile hweak
      have hnone := List.find?_eq_none.mp hfit profile hprofile
      exact hnone (decide_eq_true (.inl (of_decide_eq_true hweak)))

theorem chosen_true_eq :
    chosen world host timeout true none profiles =
      (profiles.find? (·.fit? world host timeout = some .strong)).or
        (profiles.find? (·.fit? world host timeout = some .weak)) := by
  rw [chosen, decides_true_eq, Option.none_or]

theorem chosen_eq_none_iff :
    chosen world host timeout preferStrong none profiles = none ↔
      ∀ profile ∈ profiles, ¬ IsFit world host timeout profile := by
  cases preferStrong with
  | false =>
      rw [chosen_false_eq, List.find?_eq_none]
      simp
  | true =>
      rw [chosen_true_eq, Option.or_eq_none_iff, List.find?_eq_none, List.find?_eq_none]
      constructor
      · rintro ⟨hstrong, hweak⟩ profile hprofile (hfit | hfit)
        · exact hweak profile hprofile (decide_eq_true hfit)
        · exact hstrong profile hprofile (decide_eq_true hfit)
      · intro hnone
        refine ⟨fun profile hprofile hfit => ?_, fun profile hprofile hfit => ?_⟩
        · exact hnone profile hprofile (.inr (of_decide_eq_true hfit))
        · exact hnone profile hprofile (.inl (of_decide_eq_true hfit))

/-- If no probe of the search is a fault, it finds the first profile that fits; or if strong fits are
preferred the first strong one, and the first weak one only if there is none. The network is asked what
the probes of the scanned profiles ask in their order: each tries the host once at most, and requests
its page just if the host was reached. -/
theorem discover_returns_chosen (hworld : network.Shows world)
    (hreturns : ∀ profile ∈ scanned (decides world host timeout preferStrong) profiles,
      ∃ strength, (profile.probed world host timeout).1 = .ok strength) :
    ∃ found,
      ((discover profiles host preferStrong timeout).run.run network).1 = .ok found ∧
      (preferStrong = false → found = profiles.find? (IsFit world host timeout ·)) ∧
      (preferStrong = true →
        found = (profiles.find? (·.fit? world host timeout = some .strong)).or
          (profiles.find? (·.fit? world host timeout = some .weak))) ∧
      (found = none ↔ ∀ profile ∈ profiles, ¬ IsFit world host timeout profile) ∧
      Asks world host timeout (scanned (decides world host timeout preferStrong) profiles) network
        ((discover profiles host preferStrong timeout).run.run network).2 ∧
      ∀ profile ∈ profiles, (profile.probed world host timeout).2.IsProbed world host timeout := by
  obtain ⟨hfound, hasks⟩ := run_discoverFrom hworld none hreturns
  refine ⟨_, hfound, ?_, ?_, chosen_eq_none_iff, hasks, fun profile _ => profile.isProbed_probed⟩
  · rintro rfl
    exact chosen_false_eq
  · rintro rfl
    exact chosen_true_eq

section Sources

/-- A profile without a probe. -/
def bareSource : Profile := ⟨"bare", "bare.yaml", []⟩

/-- A profile that any page fits. -/
def pageSource : Profile := ⟨"page", "page.yaml", [("test.url", "http://%\x7bhost\x7d/page")]⟩

/-- A profile that a line on its page must fit. -/
def lineSource (name port : String) : Profile :=
  ⟨name, name ++ ".yaml",
    [("test.url", "http://%\x7bhost\x7d:" ++ port ++ "/id"), ("test.expr", "meter.*")]⟩

/-- A profile whose probe is a fault. -/
def brokenSource : Profile := ⟨"broken", "broken.yaml", [("test.url", "http://[")]⟩

def sources : List Profile :=
  [bareSource, lineSource "closed" "9000", pageSource, lineSource "open" "8080", brokenSource]

/-- A world of a device that cannot be reached at one port and shows its name at another. -/
def deviceWorld : World where
  page url := if url = "http://east:8080/id" then some "meter 7" else some ""
  reaches _ port := port ≠ 9000

theorem discover_sources :
    (Network.ofWorld deviceWorld).Shows deviceWorld ∧
      (∀ profile ∈ scanned (decides deviceWorld "east" 3000 true) sources,
        ∃ strength, (profile.probed deviceWorld "east" 3000).1 = .ok strength) ∧
      ∃ found,
        ((discover sources "east" true 3000).run.run (.ofWorld deviceWorld)).1 = .ok found ∧
        found.map (·.name) = some "open" ∧
        (((discover sources "east" true 3000).run.run (.ofWorld deviceWorld)).2.pings.map (·.port) =
          [9000, 80, 8080]) ∧
        (((discover sources "east" true 3000).run.run (.ofWorld deviceWorld)).2.requests.map (·.url) =
          ["http://east/page", "http://east:8080/id"]) := by
  have hworld : (Network.ofWorld deviceWorld).Shows deviceWorld := Network.shows_ofWorld _
  have hprobes : ∀ profile ∈ scanned (decides deviceWorld "east" 3000 true) sources,
      (profile.probed deviceWorld "east" 3000).1.isOk = true := by decide +kernel
  have hreturns : ∀ profile ∈ scanned (decides deviceWorld "east" 3000 true) sources,
      ∃ strength, (profile.probed deviceWorld "east" 3000).1 = .ok strength := by
    intro profile hprofile
    have hok := hprobes profile hprofile
    cases hresult : (profile.probed deviceWorld "east" 3000).1 with
    | ok strength => exact ⟨strength, rfl⟩
    | error fault =>
        rw [hresult] at hok
        exact absurd hok Bool.false_ne_true
  have hname : ((sources.find? (·.fit? deviceWorld "east" 3000 = some .strong)).or
      (sources.find? (·.fit? deviceWorld "east" 3000 = some .weak))).map (·.name) = some "open" := by
    decide +kernel
  have hpings : ((Network.ofWorld deviceWorld).pings ++
      (scanned (decides deviceWorld "east" 3000 true) sources).flatMap fun profile =>
        (profile.probed deviceWorld "east" 3000).2.pings).map (·.port) = [9000, 80, 8080] := by
    decide +kernel
  have hrequests : ((Network.ofWorld deviceWorld).requests ++
      (scanned (decides deviceWorld "east" 3000 true) sources).flatMap fun profile =>
        (profile.probed deviceWorld "east" 3000).2.requests).map (·.url) =
      ["http://east/page", "http://east:8080/id"] := by
    decide +kernel
  obtain ⟨found, hfound, -, hstrong, -, hasks, -⟩ := discover_returns_chosen hworld hreturns
  refine ⟨hworld, hreturns, found, hfound, ?_, ?_, ?_⟩
  · rw [hstrong rfl, hname]
  · rw [hasks.pings, hpings]
  · rw [hasks.requests, hrequests]

end Sources

end Matching

end Telemetry
