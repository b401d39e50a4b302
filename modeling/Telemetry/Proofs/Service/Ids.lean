import Telemetry.Proofs.Config.Ids
import Telemetry.Proofs.Registry.Configuration
import Telemetry.Proofs.Text.Order
import Telemetry.Service

namespace Telemetry

namespace Scalar

variable {ids sorted : List Scalar} {texts : List String}

theorem sorted?_isSome_iff : (sorted? ids).isSome = true ↔
    ids.length ≤ 1 ∨ ∃ family, family ≠ .none ∧ ∀ id ∈ ids, id.family = family := by
  match ids with
  | [] => simp [sorted?]
  | [id] => simp [sorted?]
  | first :: second :: ids =>
      have hlength : ¬ (first :: second :: ids).length ≤ 1 := by simp
      have hcondition : (sorted? (first :: second :: ids)).isSome = true ↔
          first.family ≠ .none ∧ ∀ id ∈ first :: second :: ids, id.family = first.family := by
        rw [sorted?]
        · split
          · rename_i hfamily
            simpa using hfamily
          · rename_i hfamily
            simpa using hfamily
        · simp
      rw [hcondition, or_iff_right hlength]
      constructor
      · rintro ⟨hnone, hall⟩
        exact ⟨first.family, hnone, hall⟩
      · rintro ⟨family, hnone, hall⟩
        obtain rfl := hall first List.mem_cons_self
        exact ⟨hnone, hall⟩

theorem perm_of_sorted? (hsorted : sorted? ids = some sorted) : sorted.Perm ids := by
  unfold sorted? at hsorted
  split at hsorted
  · obtain rfl := Option.some.inj hsorted
    rfl
  · obtain rfl := Option.some.inj hsorted
    rfl
  · split at hsorted
    · obtain rfl := Option.some.inj hsorted
      exact List.mergeSort_perm _ _
    · contradiction

theorem sorted?_texts (texts : List String) :
    sorted? (texts.map .text) = some ((Text.sorted texts).map .text) := by
  match texts with
  | [] => simp [sorted?, Text.sorted]
  | [only] => simp [sorted?, Text.sorted]
  | first :: second :: texts =>
      have hfamily : (text first).family ≠ .none ∧
          (((first :: second :: texts).map text).all fun id => id.family = (text first).family) := by
        simp [family]
      have hsort : ((first :: second :: texts).map text).mergeSort le =
          (Text.sorted (first :: second :: texts)).map text := by
        rw [Text.sorted, List.map_mergeSort]
        exact fun _ _ _ _ => rfl
      rw [← hsort]
      exact if_pos hfamily

end Scalar

namespace Service

variable {ids : List Scalar} {texts : List String}

theorem mapM_idText?_eq_some_iff : ids.mapM idText? = some texts ↔ ids = texts.map .text := by
  induction ids generalizing texts with
  | nil => cases texts <;> simp
  | cons id ids ih =>
      rw [List.mapM_cons]
      cases id with
      | text text => cases texts <;> simp [idText?, Option.bind_eq_some_iff, ih, and_comm]
      | _ => cases texts <;> simp [idText?]

theorem exists_texts_iff : (∃ texts : List String, ids = texts.map .text) ↔
    ∀ id ∈ ids, ∃ text, id = .text text := by
  constructor
  · rintro ⟨texts, rfl⟩ id hid
    obtain ⟨text, -, rfl⟩ := List.mem_map.mp hid
    exact ⟨text, rfl⟩
  · intro hall
    induction ids with
    | nil => exact ⟨[], rfl⟩
    | cons id ids ih =>
        obtain ⟨⟨text, rfl⟩, hrest⟩ := List.forall_mem_cons.mp hall
        obtain ⟨texts, rfl⟩ := ih hrest
        exact ⟨text :: texts, rfl⟩

theorem intercalate_eq_empty_iff {separator : String} (hnonempty : ∀ text ∈ texts, text ≠ "") :
    separator.intercalate texts = "" ↔ texts = [] := by
  cases texts with
  | nil => simp
  | cons text texts =>
      obtain ⟨htext, -⟩ := List.forall_mem_cons.mp hnonempty
      cases texts with
      | nil => simpa using htext
      | cons other texts => simp [String.intercalate_cons_cons, htext]

theorem message?_unknownServer_texts (id : Scalar) {texts : List String}
    (hnonempty : ∀ text ∈ texts, text ≠ "") :
    (Refusal.unknownServer id (Scalar.sorted? (texts.map .text))).message? =
      some ("Server '" ++ id.toText ++ "' has no bound profile. Available: " ++
        if Text.sorted texts = [] then "<none>" else ", ".intercalate (Text.sorted texts)) := by
  have hsorted : ∀ text ∈ Text.sorted texts, text ≠ "" :=
    fun text htext => hnonempty text (Text.mem_sorted.mp htext)
  rw [Scalar.sorted?_texts, Refusal.message?, Option.bind_some, idsText?,
    mapM_idText?_eq_some_iff.mpr rfl]
  simp only [Option.map_some, intercalate_eq_empty_iff hsorted]

theorem message?_unknownServer_isSome_iff {id : Scalar} :
    (Refusal.unknownServer id (Scalar.sorted? ids)).message?.isSome = true ↔
      ∀ other ∈ ids, ∃ text, other = .text text := by
  rw [← exists_texts_iff]
  constructor
  · intro hmessage
    rw [Refusal.message?, Option.isSome_map] at hmessage
    obtain ⟨line, hline⟩ := Option.isSome_iff_exists.mp hmessage
    obtain ⟨sorted, hsorted, hline⟩ := Option.bind_eq_some_iff.mp hline
    rw [idsText?, Option.map_eq_some_iff] at hline
    obtain ⟨texts, htexts, -⟩ := hline
    obtain rfl := mapM_idText?_eq_some_iff.mp htexts
    rw [exists_texts_iff]
    intro other hother
    obtain ⟨text, -, rfl⟩ := List.mem_map.mp ((Scalar.perm_of_sorted? hsorted).mem_iff.mpr hother)
    exact ⟨text, rfl⟩
  · rintro ⟨texts, rfl⟩
    rw [Scalar.sorted?_texts, Refusal.message?, Option.bind_some, idsText?,
      mapM_idText?_eq_some_iff.mpr rfl]
    rfl

end Service

namespace Registry

variable {registry after : Registry} {network : Network} {timeout : Int} {servers : Servers}
  {devices all : Keyed Scalar Device}

/-- What holds of some devices, and goes on to hold when a server is given one, holds when all servers
have been gone through. -/
theorem devicesFor_induction {holds : Keyed Scalar Device → Prop} (hstart : holds devices)
    (hput : ∀ devices, holds devices → ∀ entry ∈ servers, ∀ device : Device,
      holds (devices.put entry.1 device))
    (hreturns : ((registry.devicesFor timeout devices servers).run.run network).1 = .ok all) :
    holds all := by
  induction servers generalizing devices network with
  | nil =>
      obtain rfl : devices = all := Except.ok.inj hreturns
      exact hstart
  | cons entry servers ih =>
      obtain ⟨id, server⟩ := entry
      have hrest : ∀ devices, holds devices → ∀ entry ∈ servers, ∀ device : Device,
          holds (devices.put entry.1 device) :=
        fun devices hdevices entry hentry => hput devices hdevices entry (List.mem_cons_of_mem _ hentry)
      rw [devicesFor, Attempt.run_run_bind] at hreturns
      generalize (registry.deviceFor id server timeout).run.run network = outcome at *
      obtain ⟨outcome, network'⟩ := outcome
      rcases outcome with fault | found | device
      · contradiction
      · exact ih hstart hrest hreturns
      · exact ih (hput devices hstart (id, server) List.mem_cons_self device) hrest hreturns

theorem keys_configure {config : Config}
    (hreturns : ((registry.configure config).run.run network).1 = .ok after) :
    Keyed.Distinct after.devices ∧ ∀ id ∈ after.devices.keys, id ∈ config.servers.keys := by
  rw [configure, Attempt.run_run_bind] at hreturns
  have hdevices : ∀ all, ((registry.devicesFor config.timeout [] config.servers).run.run network).1 =
      .ok all → Keyed.Distinct all ∧ ∀ id ∈ Keyed.keys all, id ∈ config.servers.keys := by
    intro all hall
    have hstart : Keyed.Distinct ([] : Keyed Scalar Device) ∧
        ∀ id ∈ Keyed.keys ([] : Keyed Scalar Device), id ∈ config.servers.keys :=
      ⟨List.Pairwise.nil, List.forall_mem_nil _⟩
    refine @devicesFor_induction _ _ _ _ _ _ (fun devices => Keyed.Distinct devices ∧
      ∀ id ∈ Keyed.keys devices, id ∈ config.servers.keys) hstart ?_ hall
    rintro devices ⟨hdistinct, hkeys⟩ entry hentry device
    refine ⟨hdistinct.put entry.1 device, fun id hid => ?_⟩
    rcases Keyed.mem_keys_of_put hid with hold | rfl
    · exact hkeys id hold
    · exact List.mem_map_of_mem hentry
  generalize (registry.devicesFor config.timeout [] config.servers).run.run network = outcome at *
  obtain ⟨outcome, network'⟩ := outcome
  cases outcome with
  | error fault => contradiction
  | ok devices =>
      obtain rfl := Except.ok.inj hreturns
      exact hdevices devices rfl

theorem device?_isSome_iff {id : Scalar} :
    (registry.device? id).isSome = true ↔ ∃ other ∈ registry.devices.keys, id == other := by
  rw [device?, List.lookup_isSome_iff]
  simp [Keyed.keys]

end Registry

namespace Service

/-- Is the value a text of one or more characters of ids? -/
def IsProperId (id : Scalar) : Prop :=
  ∃ text, id = .text text ∧ text ≠ "" ∧ ∀ c ∈ text.toList, Config.isIdChar c = true

variable {service after : Service} {network : Network} {document : Document} {config : Config}

theorem registry_configure (hreturns : ((service.configure config).run.run network).1 = .ok after) :
    ((service.registry.configure config).run.run network).1 = .ok after.registry := by
  rw [configure, Attempt.run_run_bind] at hreturns
  generalize (service.registry.configure config).run.run network = outcome at *
  obtain ⟨outcome, network'⟩ := outcome
  cases outcome with
  | error fault => contradiction
  | ok registry =>
      obtain rfl := Except.ok.inj hreturns
      rfl

theorem run_reading_unbound {id : Scalar} (hunbound : service.registry.device? id = none)
    (channel : String) (kind : Kind) (network : Network) :
    (service.reading id channel kind).run network =
      ((service, .error (.unknownServer id service.registry.serverIds?)), network) := by
  rw [reading, if_pos (by rw [hunbound]; rfl)]
  rfl

/-- Ids of a configuration that are texts are proper but for a line feed at their end, and each bound
server is found under its id; by a text, and that is how items name it, only if the id is that text.
The ids have an order just if at most one is bound or all are of one family, and whoever asks for a
server that is not bound is told the ids that are, in order, just if all of them are texts. -/
theorem ids_of_accepted (haccepted : Config.ofDocument document = .ok config)
    (hconfigured : ((service.configure config).run.run network).1 = .ok after) :
    (∀ text, Scalar.text text ∈ config.servers.keys →
      Pattern.IsRowOf (fun c => Config.isIdChar c = true) text) ∧
    (∀ binding ∈ config.bindings, Scalar.text binding.server ∈ config.servers.keys) ∧
    (∀ id ∈ after.registry.devices.keys,
      id ∈ config.servers.keys ∧ (after.registry.device? id).isSome) ∧
    (∀ text, (after.registry.device? (.text text)).isSome ↔
      Scalar.text text ∈ after.registry.devices.keys) ∧
    (after.registry.serverIds?.isSome ↔ after.registry.devices.keys.length ≤ 1 ∨
      ∃ family, family ≠ .none ∧ ∀ id ∈ after.registry.devices.keys, id.family = family) ∧
    ∀ id channel kind network', after.registry.device? id = none →
      (after.reading id channel kind).run network' =
        ((after, .error (.unknownServer id after.registry.serverIds?)), network') ∧
      ((Refusal.unknownServer id after.registry.serverIds?).message?.isSome ↔
        ∀ other ∈ after.registry.devices.keys, ∃ text, other = .text text) ∧
      ((∀ other ∈ after.registry.devices.keys, ∃ text, other = .text text) →
        ∃ texts, texts.Pairwise (· < ·) ∧
          (∀ text, text ∈ texts ↔ Scalar.text text ∈ after.registry.devices.keys) ∧
          (Refusal.unknownServer id after.registry.serverIds?).message? =
            some ("Server '" ++ id.toText ++ "' has no bound profile. Available: " ++
              if texts = [] then "<none>" else ", ".intercalate texts)) := by
  obtain ⟨hdistinct, hkeys⟩ := Registry.keys_configure (registry_configure hconfigured)
  have hrows : ∀ text, Scalar.text text ∈ config.servers.keys →
      Pattern.IsRowOf (fun c => Config.isIdChar c = true) text :=
    fun text => Config.isRowOf_of_accepted haccepted
  refine ⟨hrows, fun binding => Config.server_mem_of_accepted haccepted,
    fun id hid => ⟨hkeys id hid, ?_⟩, fun text => ?_, Scalar.sorted?_isSome_iff,
    fun id channel kind network' hunbound => ⟨run_reading_unbound hunbound channel kind network',
      message?_unknownServer_isSome_iff, fun hall => ?_⟩⟩
  · exact Registry.device?_isSome_iff.mpr ⟨id, hid, BEq.rfl⟩
  · rw [Registry.device?_isSome_iff]
    simp only [Scalar.text_beq_iff, exists_eq_right]
  · obtain ⟨texts, htexts⟩ := exists_texts_iff.mpr hall
    have hmem : ∀ text, text ∈ texts ↔ Scalar.text text ∈ after.registry.devices.keys := by
      intro text
      rw [htexts, List.mem_map]
      simp
    have hnonempty : ∀ text ∈ texts, text ≠ "" := by
      intro text htext
      exact (hrows text (hkeys _ ((hmem text).mp htext))).ne_empty
    have hnodup : texts.Nodup := by
      rw [Keyed.Distinct, htexts, List.pairwise_map] at hdistinct
      refine hdistinct.imp fun {text other} hdiffer hsame => ?_
      rw [hsame, BEq.rfl] at hdiffer
      contradiction
    refine ⟨Text.sorted texts, Text.pairwise_lt_sorted hnodup,
      fun text => Text.mem_sorted.trans (hmem text), ?_⟩
    rw [Registry.serverIds?, htexts]
    exact message?_unknownServer_texts id hnonempty

section Examples

/-- A service with a profile that asks nothing. -/
def plainService : Service :=
  ofLibrary { profiles := [("p", ⟨"p", "p.yaml", []⟩)] } false

/-- A server with that profile, under a text. -/
def plainDocument : Document := .mapping [(.text "servers", .mapping [(.text "a",
  .mapping [(.text "host", .scalar (.text "h")), (.text "profile", .scalar (.text "p"))])])]

def silentWorld : World where
  page _ := none
  reaches _ _ := false

theorem ids_of_plainDocument :
    ∃ config after, Config.ofDocument plainDocument = .ok config ∧
      ((plainService.configure config).run.run (.ofWorld silentWorld)).1 = .ok after ∧
      after.registry.device? (.text "b") = none ∧
      (after.reading (.text "b") "x" .text).run (.ofWorld silentWorld) =
        ((after, .error (.unknownServer (.text "b") after.registry.serverIds?)), .ofWorld silentWorld) ∧
      (Refusal.unknownServer (.text "b") after.registry.serverIds?).message? =
        some "Server 'b' has no bound profile. Available: a" := by
  have hbound : (Config.ofDocument plainDocument).toOption.bind (fun config =>
      ((plainService.configure config).run.run (.ofWorld silentWorld)).1.toOption.map fun after =>
        (after.registry.devices.keys.map Scalar.toText,
          (Refusal.unknownServer (.text "b") after.registry.serverIds?).message?)) =
      some (["a"], some "Server 'b' has no bound profile. Available: a") := by decide +kernel
  cases hconfig : Config.ofDocument plainDocument with
  | error fault =>
      rw [hconfig] at hbound
      contradiction
  | ok config =>
      rw [hconfig, Except.toOption, Option.bind_some] at hbound
      cases hafter : ((plainService.configure config).run.run (.ofWorld silentWorld)).1 with
      | error fault =>
          rw [hafter] at hbound
          contradiction
      | ok after =>
          rw [hafter, Except.toOption, Option.map_some, Option.some.injEq, Prod.mk.injEq] at hbound
          obtain ⟨hkeys, hmessage⟩ := hbound
          obtain ⟨-, -, -, hfound, -, hreading⟩ := ids_of_accepted hconfig hafter
          have hunbound : after.registry.device? (.text "b") = none := by
            rw [← Option.not_isSome_iff_eq_none, hfound]
            intro hid
            have htext : "b" ∈ after.registry.devices.keys.map Scalar.toText :=
              List.mem_map_of_mem hid
            rw [hkeys] at htext
            simp at htext
          exact ⟨config, after, rfl, hafter, hunbound,
            (hreading (.text "b") "x" .text (.ofWorld silentWorld) hunbound).1, hmessage⟩

theorem not_forall_ids_proper :
    ¬ ∀ document config, Config.ofDocument document = .ok config →
      ∀ id ∈ config.servers.keys, IsProperId id := by
  intro hproper
  obtain ⟨config, hconfig⟩ := (@Config.accepts_soleServer_iff (.integer 5)).mpr nofun
  have hid : Scalar.integer 5 ∈ config.servers.keys := by
    rw [(Config.describes_of_ofDocument hconfig).keys_eq]
    exact List.mem_singleton_self _
  obtain ⟨text, htext, -⟩ := hproper _ config hconfig _ hid
  contradiction

end Examples

end Service

end Telemetry
