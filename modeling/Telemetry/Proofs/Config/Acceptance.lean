import Mathlib.Data.List.Forall2
import Telemetry.Proofs.Config.Form
import Telemetry.Proofs.Keyed

namespace Telemetry

namespace Kind

/-- Does a text name a kind, the blanks around it and its case apart? A kind has its own name and the
type tags that are declared for it. -/
def IsNamed (name : String) (kind : Kind) : Prop :=
  Text.lower (Text.strip name) = kind.name ∨ (Text.lower (Text.strip name), kind) ∈ tags

theorem name_mem_tags (kind : Kind) : (kind.name, kind) ∈ tags := by
  cases kind <;> decide

theorem ofTag?_eq_some_iff {tag : String} {kind : Kind} : ofTag? tag = some kind ↔ IsNamed tag kind := by
  have hkeys : (Keyed.keys tags).Nodup := by decide
  rw [ofTag?, Keyed.lookup_eq_some_iff_mem hkeys, IsNamed]
  refine (or_iff_right_of_imp ?_).symm
  intro hname
  rw [hname]
  exact name_mem_tags kind

theorem parse_eq_ok_iff {name : String} {kind : Kind} : parse name = .ok kind ↔ IsNamed name kind := by
  rw [← ofTag?_eq_some_iff, parse]
  cases ofTag? name <;> simp

theorem parse_eq_error {name : String} (hnone : ∀ kind, ¬ IsNamed name kind) :
    parse name = .error ⟨name⟩ := by
  rw [parse]
  cases htag : ofTag? name with
  | none => rfl
  | some kind => exact absurd (ofTag?_eq_some_iff.mp htag) (hnone kind)

end Kind

namespace Config

/-- The entries of the mapping with the servers. -/
def serverEntries (document : Document) : List (Scalar × Document) :=
  ((document.entry? "servers").map (·.entries)).getD []

/-- The items in the order of their list. -/
def itemsOf (document : Document) : List Document :=
  ((document.entry? "items").map (·.items)).getD []

/-- Is a text the id of one of the servers? -/
def Declares (document : Document) (server : String) : Prop :=
  ∃ entry ∈ serverEntries document, entry.1 = .text server

/-- Is the server of an item declared, and has its kind, if it has one, the name of a kind? -/
structure IsResolved (document item : Document) : Prop where
  server : item.Has "server" fun value => ∃ id, value = .scalar (.text id) ∧ Declares document id
  kind : item.MayHave "kind" fun value => ∀ name, value = .scalar (.text name) →
    ∃ kind, Kind.IsNamed name kind

/-- Is a number what a value stands for, or a default where there is no value? -/
def IsGiven (value? : Option Document) (default n : Int) : Prop :=
  match value? with
  | some value => value.StandsFor n
  | none => n = default

structure DescribesServer (entry : Scalar × Document) (server : Scalar × Server) : Prop where
  id : server.1 = entry.1
  host : Document.entry? entry.2 "host" = some (.scalar (.text server.2.host))
  profile : Document.entry? entry.2 "profile" = server.2.profile.map fun profile => .scalar (.text profile)

/-- Does an item describe a binding? Without a name it is called for its server and its channel. -/
structure DescribesBinding (item : Document) (binding : Binding) : Prop where
  server : item.entry? "server" = some (.scalar (.text binding.server))
  channel : item.entry? "variable" = some (.scalar (.text binding.channel))
  name : item.entry? "name" = some (.scalar (.text binding.name)) ∨
    item.entry? "name" = none ∧ binding.name = binding.server ++ "." ++ binding.channel
  kind : (∃ name, item.entry? "kind" = some (.scalar (.text name)) ∧ Kind.IsNamed name binding.kind) ∨
    item.entry? "kind" = none ∧ binding.kind = .text
  refresh : IsGiven (item.entry? "refresh") 0 binding.refresh

/-- Does a document describe a configuration, one server for each entry and one binding for each item,
in order? -/
structure Describes (document : Document) (config : Config) : Prop where
  servers : List.Forall₂ DescribesServer (serverEntries document) config.servers
  bindings : List.Forall₂ DescribesBinding (itemsOf document) config.bindings
  timeout : IsGiven (document.entry? "timeout") 5000 config.timeout
  granularity : IsGiven (document.entry? "granularity") 10000 config.granularity

variable {document item : Document} {servers : Servers} {position : Nat}

section Parts

theorem isGiven_integer? {key : String} {least default : Int}
    (hcount : document.MayHave key (IsCount least)) :
    IsGiven (document.entry? key) default
      (((document.entry? key).bind (·.integer?)).getD default) := by
  cases hvalue : document.entry? key with
  | none => rfl
  | some value =>
      obtain ⟨n, hstands, -⟩ := hcount value hvalue
      rw [Option.bind_some, Document.integer?_of_standsFor hstands]
      exact hstands

theorem describesServer_serverOf {entry : Scalar × Document} (hserver : IsServer entry.2) :
    DescribesServer entry (entry.1, serverOf entry.2) := by
  obtain ⟨-, -, ⟨value, hhost, text, -, rfl⟩, hprofile⟩ := hserver
  refine ⟨rfl, ?_, ?_⟩
  · rw [serverOf, hhost]
    rfl
  · rw [serverOf]
    cases hvalue : Document.entry? entry.2 "profile" with
    | none => rfl
    | some value =>
        obtain ⟨text, -, rfl⟩ := hprofile value hvalue
        rfl

theorem exists_areServers_of_mem (hformed : IsFormed document) {entry : Scalar × Document}
    (hentry : entry ∈ serverEntries document) :
    ∃ value, AreServers value ∧ entry ∈ value.entries := by
  rw [serverEntries] at hentry
  cases hvalue : document.entry? "servers" with
  | none =>
      rw [hvalue] at hentry
      contradiction
  | some value =>
      rw [hvalue] at hentry
      exact ⟨value, hformed.servers value hvalue, hentry⟩

theorem isItem_of_mem (hformed : IsFormed document) (hmem : item ∈ itemsOf document) : IsItem item := by
  rw [itemsOf] at hmem
  cases hvalue : document.entry? "items" with
  | none =>
      rw [hvalue] at hmem
      contradiction
  | some value =>
      rw [hvalue] at hmem
      exact (hformed.items value hvalue).items item hmem

theorem serversOf_eq (document : Document) :
    serversOf document = (serverEntries document).map fun entry => (entry.1, serverOf entry.2) :=
  rfl

theorem forall₂_serversOf (hformed : IsFormed document) :
    List.Forall₂ DescribesServer (serverEntries document) (serversOf document) := by
  rw [serversOf_eq, List.forall₂_map_right_iff, List.forall₂_same]
  intro entry hentry
  obtain ⟨value, hservers, hmem⟩ := exists_areServers_of_mem hformed hentry
  exact describesServer_serverOf (hservers.servers entry hmem)

theorem has_serversOf_iff {id : String} :
    (serversOf document).has (.text id) = true ↔ Declares document id := by
  rw [Keyed.has, List.lookup_isSome_iff, serversOf_eq, Declares]
  simp [Scalar.text_beq_iff]

theorem ofDocument_of_formed (hformed : IsFormed document) :
    ofDocument document = (bindingsFrom (serversOf document) 0 (itemsOf document)).map fun bindings =>
      { servers := serversOf document, bindings
        timeout := ((document.entry? "timeout").bind (·.integer?)).getD defaultTimeout
        granularity := ((document.entry? "granularity").bind (·.integer?)).getD defaultGranularity } := by
  rw [ofDocument, schema_eq_none_iff.mpr hformed]
  change (bindingsFrom (serversOf document) 0 (itemsOf document) >>= fun bindings => pure _) = _
  cases bindingsFrom (serversOf document) 0 (itemsOf document) <;> rfl

end Parts

section Items

/-- What is said about an item at a position that names an unknown server or kind; the server goes
first. -/
inductive Complains (document item : Document) (position : Nat) : Fault → Prop
  | server {id : String} (hserver : item.entry? "server" = some (.scalar (.text id)))
      (hunknown : ¬ Declares document id) : Complains document item position (.unknownServer position id)
  | kind {id name : String} (hserver : item.entry? "server" = some (.scalar (.text id)))
      (hknown : Declares document id) (hkind : item.entry? "kind" = some (.scalar (.text name)))
      (hunknown : ∀ kind, ¬ Kind.IsNamed name kind) :
      Complains document item position (.unknownKind position ⟨name⟩)

theorem message_of_complains {fault : Fault} (hcomplains : Complains document item position fault)
    (origin : String) :
    ∃ rest, fault.message origin = "Item #" ++ toString position ++ " in " ++ origin ++ rest := by
  cases hcomplains with
  | @server id =>
      refine ⟨" references unknown server '" ++ id ++ "'", ?_⟩
      simp only [Fault.message, String.append_assoc]
  | @kind _ name =>
      refine ⟨": " ++ Kind.Unknown.message ⟨name⟩, ?_⟩
      simp only [Fault.message, String.append_assoc]

theorem kindOf_of_isItem (hitem : IsItem item) :
    (item.entry? "kind" = none ∧ kindOf item = .ok .text) ∨
      ∃ name, item.entry? "kind" = some (.scalar (.text name)) ∧ kindOf item = Kind.parse name := by
  rw [kindOf]
  cases hvalue : item.entry? "kind" with
  | none => exact .inl ⟨rfl, rfl⟩
  | some value =>
      obtain ⟨name, -, rfl⟩ := hitem.kind value hvalue
      exact .inr ⟨name, rfl, rfl⟩

theorem name_of_isItem (hitem : IsItem item) (standard : String) :
    let name := ((item.entry? "name").bind (·.text?)).getD standard
    item.entry? "name" = some (.scalar (.text name)) ∨ item.entry? "name" = none ∧ name = standard := by
  cases hvalue : item.entry? "name" with
  | none => exact .inr ⟨rfl, rfl⟩
  | some value =>
      obtain ⟨name, -, rfl⟩ := hitem.name value hvalue
      exact .inl rfl

theorem bindingOf_of_resolved (hitem : IsItem item) (hresolved : IsResolved document item)
    (position : Nat) :
    ∃ binding, bindingOf (serversOf document) position item = .ok binding ∧
      DescribesBinding item binding := by
  obtain ⟨-, hserver, id, rfl, hdeclared⟩ := hresolved.server
  obtain ⟨-, hchannel, channel, -, rfl⟩ := hitem.channel
  have hkind : ∃ kind, kindOf item = .ok kind ∧
      ((∃ name, item.entry? "kind" = some (.scalar (.text name)) ∧ Kind.IsNamed name kind) ∨
        item.entry? "kind" = none ∧ kind = .text) := by
    rcases kindOf_of_isItem hitem with ⟨hnone, hkind⟩ | ⟨name, hname, hkind⟩
    · exact ⟨.text, hkind, .inr ⟨hnone, rfl⟩⟩
    · obtain ⟨kind, hnamed⟩ := hresolved.kind _ hname name rfl
      exact ⟨kind, hkind.trans (Kind.parse_eq_ok_iff.mpr hnamed), .inl ⟨name, hname, hnamed⟩⟩
  obtain ⟨kind, hkindOf, hkind⟩ := hkind
  refine ⟨⟨((item.entry? "name").bind (·.text?)).getD (id ++ "." ++ channel), id, channel, kind,
    ((item.entry? "refresh").bind (·.integer?)).getD 0⟩, ?_, hserver, hchannel, name_of_isItem hitem _,
      hkind, isGiven_integer? hitem.refresh⟩
  simp only [bindingOf, hserver, hchannel, Option.bind_some, Document.text?, Option.getD_some,
    has_serversOf_iff.mpr hdeclared, hkindOf, Bool.not_true, Bool.false_eq_true, if_false]

theorem bindingOf_of_not_resolved (hitem : IsItem item) (hresolved : ¬ IsResolved document item)
    (position : Nat) :
    ∃ fault, bindingOf (serversOf document) position item = .error fault ∧
      Complains document item position fault := by
  obtain ⟨-, hserver, id, -, rfl⟩ := hitem.server
  by_cases hdeclared : Declares document id
  · rcases kindOf_of_isItem hitem with ⟨hnone, -⟩ | ⟨name, hname, hkind⟩
    · refine absurd ⟨⟨_, hserver, id, rfl, hdeclared⟩, fun value hvalue => ?_⟩ hresolved
      rw [hnone] at hvalue
      contradiction
    · have hunknown : ∀ kind, ¬ Kind.IsNamed name kind := by
        intro kind hnamed
        refine hresolved ⟨⟨_, hserver, id, rfl, hdeclared⟩, fun value hvalue other hother => ?_⟩
        obtain rfl : name = other := by
          rw [hother, hname] at hvalue
          simpa using hvalue
        exact ⟨kind, hnamed⟩
      refine ⟨_, ?_, .kind hserver hdeclared hname hunknown⟩
      simp only [bindingOf, hserver, Option.bind_some, Document.text?, Option.getD_some,
        has_serversOf_iff.mpr hdeclared, hkind, Kind.parse_eq_error hunknown, Bool.not_true,
        Bool.false_eq_true, if_false]
  · refine ⟨_, ?_, .server hserver hdeclared⟩
    have hmissing : (serversOf document).has (.text id) = false := by
      rw [← Bool.not_eq_true, has_serversOf_iff]
      exact hdeclared
    simp only [bindingOf, hserver, Option.bind_some, Document.text?, Option.getD_some, hmissing,
      Bool.not_false, if_true]

end Items

section Rows

theorem bindingsFrom_cons {binding : Binding} (hfirst : bindingOf servers position item = .ok binding)
    (items : List Document) :
    bindingsFrom servers position (item :: items) =
      (bindingsFrom servers (position + 1) items).map (binding :: ·) := by
  rw [bindingsFrom, hfirst]
  change (bindingsFrom servers (position + 1) items >>= fun bindings => pure (binding :: bindings)) = _
  cases bindingsFrom servers (position + 1) items <;> rfl

theorem bindingsFrom_of_all {describes : Document → Binding → Prop} {items : List Document}
    (hitems : ∀ item ∈ items, ∀ position, ∃ binding,
      bindingOf servers position item = .ok binding ∧ describes item binding) (position : Nat) :
    ∃ bindings, bindingsFrom servers position items = .ok bindings ∧
      List.Forall₂ describes items bindings := by
  induction items generalizing position with
  | nil => exact ⟨[], rfl, .nil⟩
  | cons item items ih =>
      obtain ⟨hfirst, hrest⟩ := List.forall_mem_cons.mp hitems
      obtain ⟨binding, hbinding, hdescribes⟩ := hfirst position
      obtain ⟨bindings, hbindings, hall⟩ := ih hrest (position + 1)
      refine ⟨binding :: bindings, ?_, .cons hdescribes hall⟩
      rw [bindingsFrom_cons hbinding, hbindings]
      rfl

theorem bindingsFrom_of_first {before after : List Document} {fault : Fault}
    (hbefore : ∀ earlier ∈ before, ∀ position, ∃ binding,
      bindingOf servers position earlier = .ok binding)
    (hitem : bindingOf servers (position + before.length) item = .error fault) :
    bindingsFrom servers position (before ++ item :: after) = .error fault := by
  -- on the items before it, each of which moves the position on
  induction before generalizing position with
  | nil =>
      have hfirst : bindingOf servers position item = .error fault := hitem
      rw [List.nil_append, bindingsFrom, hfirst]
      rfl
  | cons earlier before ih =>
      obtain ⟨hfirst, hrest⟩ := List.forall_mem_cons.mp hbefore
      obtain ⟨binding, hbinding⟩ := hfirst position
      rw [List.length_cons, ← Nat.add_assoc, Nat.add_right_comm] at hitem
      rw [List.cons_append, bindingsFrom_cons hbinding, ih hrest hitem]
      rfl

end Rows

theorem exists_first_not {items : List Document} {accepted : Document → Prop}
    (hnot : ¬ ∀ item ∈ items, accepted item) :
    ∃ before item after, items = before ++ item :: after ∧ (∀ earlier ∈ before, accepted earlier) ∧
      ¬ accepted item := by
  induction items with
  | nil => exact absurd nofun hnot
  | cons item items ih =>
      by_cases hitem : accepted item
      · have hrest : ¬ ∀ item ∈ items, accepted item :=
          fun hrest => hnot (List.forall_mem_cons.mpr ⟨hitem, hrest⟩)
        obtain ⟨before, other, after, rfl, hbefore, hother⟩ := ih hrest
        exact ⟨item :: before, other, after, rfl, List.forall_mem_cons.mpr ⟨hitem, hbefore⟩, hother⟩
      · exact ⟨[], item, items, rfl, nofun, hitem⟩

theorem ofDocument_of_resolved (hformed : IsFormed document)
    (hresolved : ∀ item ∈ itemsOf document, IsResolved document item) :
    ∃ config, ofDocument document = .ok config ∧ Describes document config := by
  obtain ⟨bindings, hbindings, hall⟩ := bindingsFrom_of_all (fun item hmem =>
    bindingOf_of_resolved (isItem_of_mem hformed hmem) (hresolved item hmem)) 0
  refine ⟨⟨serversOf document, bindings, _, _⟩, ?_, forall₂_serversOf hformed, hall,
    isGiven_integer? hformed.timeout, isGiven_integer? hformed.granularity⟩
  rw [ofDocument_of_formed hformed, hbindings]
  rfl

theorem ofDocument_of_first {before after : List Document} (hformed : IsFormed document)
    (hitems : itemsOf document = before ++ item :: after)
    (hbefore : ∀ earlier ∈ before, IsResolved document earlier) (hitem : ¬ IsResolved document item) :
    ∃ fault, ofDocument document = .error fault ∧
      Complains document item before.length fault := by
  have hmem : ∀ other ∈ before ++ item :: after, IsItem other :=
    fun other hother => isItem_of_mem hformed (hitems ▸ hother)
  obtain ⟨fault, hfault, hcomplains⟩ :=
    bindingOf_of_not_resolved (hmem item (by simp)) hitem before.length
  have hbindings : bindingsFrom (serversOf document) 0 (itemsOf document) = .error fault := by
    rw [hitems]
    refine bindingsFrom_of_first (fun earlier hearlier position => ?_) ((Nat.zero_add _).symm ▸ hfault)
    obtain ⟨binding, hbinding, -⟩ := bindingOf_of_resolved
      (hmem earlier (List.mem_append_left _ hearlier)) (hbefore earlier hearlier) position
    exact ⟨binding, hbinding⟩
  refine ⟨fault, ?_, hcomplains⟩
  rw [ofDocument_of_formed hformed, hbindings]
  rfl

theorem ofDocument_of_not_formed (hformed : ¬ IsFormed document) :
    ∃ violation, schema document = some violation ∧
      ofDocument document = .error (.rejected (.ofViolation violation)) := by
  rw [← schema_eq_none_iff, ← ne_eq, Option.ne_none_iff_exists'] at hformed
  obtain ⟨violation, hviolation⟩ := hformed
  exact ⟨violation, hviolation, by rw [ofDocument, hviolation]⟩

theorem exists_ofDocument_iff : (∃ config, ofDocument document = .ok config) ↔
    IsFormed document ∧ ∀ item ∈ itemsOf document, IsResolved document item := by
  constructor
  · rintro ⟨config, hconfig⟩
    have hformed : IsFormed document := by
      by_contra hformed
      obtain ⟨violation, -, hviolation⟩ := ofDocument_of_not_formed hformed
      rw [hviolation] at hconfig
      contradiction
    refine ⟨hformed, ?_⟩
    by_contra hnot
    obtain ⟨before, item, after, hitems, hbefore, hitem⟩ := exists_first_not hnot
    obtain ⟨fault, hfault, -⟩ := ofDocument_of_first hformed hitems hbefore hitem
    rw [hfault] at hconfig
    contradiction
  · rintro ⟨hformed, hresolved⟩
    obtain ⟨config, hconfig, -⟩ := ofDocument_of_resolved hformed hresolved
    exact ⟨config, hconfig⟩

theorem describes_of_ofDocument {config : Config} (hconfig : ofDocument document = .ok config) :
    Describes document config := by
  obtain ⟨hformed, hresolved⟩ := exists_ofDocument_iff.mp ⟨config, hconfig⟩
  obtain ⟨config', hconfig', hdescribes⟩ := ofDocument_of_resolved hformed hresolved
  obtain rfl := Except.ok.inj (hconfig.symm.trans hconfig')
  exact hdescribes

theorem isTold_of_complains {fault : Fault} (hcomplains : Complains document item position fault) :
    fault.isTold = true := by
  cases hcomplains <;> rfl

/-- A fault can be told just if the first violation, if there is one, can be written. -/
theorem isTold_iff {fault : Fault} (hfault : ofDocument document = .error fault) :
    fault.isTold = true ↔
      ∀ violation, schema document = some violation → violation.isWritable = true := by
  by_cases hformed : IsFormed document
  · have hnone := schema_eq_none_iff.mpr hformed
    have hnot : ¬ ∀ item ∈ itemsOf document, IsResolved document item := by
      intro hresolved
      obtain ⟨config, hconfig⟩ := exists_ofDocument_iff.mpr ⟨hformed, hresolved⟩
      rw [hconfig] at hfault
      contradiction
    obtain ⟨before, item, after, hitems, hbefore, hitem⟩ := exists_first_not hnot
    obtain ⟨fault', hfault', hcomplains⟩ := ofDocument_of_first hformed hitems hbefore hitem
    obtain rfl := Except.error.inj (hfault'.symm.trans hfault)
    simp [hnone, isTold_of_complains hcomplains]
  · obtain ⟨violation, hviolation, hrejected⟩ := ofDocument_of_not_formed hformed
    obtain rfl := Except.error.inj (hrejected.symm.trans hfault)
    rw [Fault.isTold, Rejection.isTold_ofViolation_iff]
    simp [hviolation]

/-- A document is a configuration just if it has the form of one and every item names a declared
server and, if it names a kind, a known one. The configuration is then the one the document describes.
A document without the form is turned down for its first violation, and that is told unless a number
with too many digits would have to be written; otherwise the first item that is not resolved is reported
with its position. -/
theorem ofDocument_accepts_iff (document : Document) (origin : String) :
    ((∃ config, ofDocument document = .ok config) ↔
      IsFormed document ∧ ∀ item ∈ itemsOf document, IsResolved document item) ∧
    (∀ config, ofDocument document = .ok config → Describes document config) ∧
    (¬ IsFormed document → ∃ violation, schema document = some violation ∧
      ofDocument document = .error (.rejected (.ofViolation violation))) ∧
    (∀ fault, ofDocument document = .error fault →
      (fault.isTold ↔ ∀ violation, schema document = some violation → violation.isWritable)) ∧
    (document.isWritable → ∀ fault, ofDocument document = .error fault → fault.isTold) ∧
    ∀ before item after, IsFormed document → itemsOf document = before ++ item :: after →
      (∀ earlier ∈ before, IsResolved document earlier) → ¬ IsResolved document item →
      ∃ fault rest, ofDocument document = .error fault ∧
        Complains document item before.length fault ∧
        fault.message origin = "Item #" ++ toString before.length ++ " in " ++ origin ++ rest := by
  refine ⟨exists_ofDocument_iff, fun config => describes_of_ofDocument, ofDocument_of_not_formed,
    fun fault => isTold_iff, ?_, ?_⟩
  · intro hdocument fault hfault
    exact (isTold_iff hfault).mpr fun violation => tells_schema document violation hdocument
  intro before item after hformed hitems hbefore hitem
  obtain ⟨fault, hfault, hcomplains⟩ := ofDocument_of_first hformed hitems hbefore hitem
  obtain ⟨rest, hmessage⟩ := message_of_complains hcomplains origin
  exact ⟨fault, rest, hfault, hcomplains, hmessage⟩

section Examples

/-- An item with a server and a channel. -/
def plainItem (server channel : String) : Document :=
  .mapping [(.text "server", .scalar (.text server)), (.text "variable", .scalar (.text channel))]

/-- A server, an item that reads from it, and one that reads from another. -/
def strayDocument : Document := .mapping [
  (.text "timeout", .scalar (.real (.finite false 1 1))),
  (.text "servers", .mapping [(.text "a", .mapping [(.text "host", .scalar (.text "h"))])]),
  (.text "items", .list [plainItem "a" "x", plainItem "b" "x"])]

theorem ofDocument_strayDocument :
    IsFormed strayDocument ∧ IsResolved strayDocument (plainItem "a" "x") ∧
      ¬ IsResolved strayDocument (plainItem "b" "x") ∧
      ∃ fault rest, ofDocument strayDocument = .error fault ∧
        fault.message "c" = "Item #1 in c" ++ rest := by
  have hformed : IsFormed strayDocument := by
    rw [← schema_eq_none_iff, ← Option.isNone_iff_eq_none]
    decide +kernel
  have hfirst : IsResolved strayDocument (plainItem "a" "x") :=
    ⟨⟨_, rfl, "a", rfl, _, List.mem_singleton_self _, rfl⟩, nofun⟩
  have hsecond : ¬ IsResolved strayDocument (plainItem "b" "x") := by
    rintro ⟨⟨value, hvalue, id, rfl, entry, hentry, hid⟩, -⟩
    have hserver : Document.entry? (plainItem "b" "x") "server" = some (.scalar (.text "b")) := rfl
    obtain rfl : "b" = id := by simpa using hserver.symm.trans hvalue
    obtain rfl := List.mem_singleton.mp hentry
    simp at hid
  obtain ⟨-, -, -, -, -, hitems⟩ := ofDocument_accepts_iff strayDocument "c"
  obtain ⟨fault, rest, hfault, -, hmessage⟩ := hitems [plainItem "a" "x"] (plainItem "b" "x") [] hformed
    rfl (List.forall_mem_singleton.mpr hfirst) hsecond
  exact ⟨hformed, hfirst, hsecond, fault, rest, hfault, hmessage⟩

/-- A timeout far below zero. -/
def vastDocument : Document :=
  .mapping [(.text "timeout", .scalar (.integer (-Nat.pow 16 4000)))]

/-- What is wrong with a timeout cannot be told if the timeout cannot be written. -/
theorem not_forall_fault_isTold :
    ¬ ∀ (document : Document) (fault : Fault), ofDocument document = .error fault → fault.isTold := by
  intro htold
  have hunwritable : (match ofDocument vastDocument with
      | .ok _ => true
      | .error fault => fault.isTold) = false := by decide +kernel
  cases hresult : ofDocument vastDocument with
  | ok config =>
      rw [hresult] at hunwritable
      contradiction
  | error fault =>
      rw [hresult] at hunwritable
      have hfault := htold vastDocument fault hresult
      exact Bool.false_ne_true (hunwritable.symm.trans hfault)

end Examples

end Config

end Telemetry
