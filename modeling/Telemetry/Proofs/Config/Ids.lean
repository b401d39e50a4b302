import Telemetry.Proofs.Config.Acceptance

namespace Telemetry

namespace Config

variable {document : Document} {config : Config}

theorem Describes.keys_eq (hdescribes : Describes document config) :
    config.servers.keys = (serverEntries document).map Prod.fst := by
  have hall := hdescribes.servers
  generalize serverEntries document = entries at *
  generalize config.servers = servers at *
  induction hall with
  | nil => rfl
  | cons hfirst _ ih => exact congr (congrArg List.cons hfirst.id) ih

theorem isRowOf_of_accepted (haccepted : ofDocument document = .ok config) {text : String}
    (hid : Scalar.text text ∈ config.servers.keys) :
    Pattern.IsRowOf (fun c => isIdChar c = true) text := by
  rw [(describes_of_ofDocument haccepted).keys_eq] at hid
  obtain ⟨entry, hentry, hkey⟩ := List.mem_map.mp hid
  have hformed := (exists_ofDocument_iff.mp ⟨config, haccepted⟩).1
  obtain ⟨value, hservers, hmem⟩ := exists_areServers_of_mem hformed hentry
  rw [← isId_iff, isId_iff_occurs]
  exact hservers.ids entry hmem text hkey

theorem server_mem_of_accepted (haccepted : ofDocument document = .ok config) {binding : Binding}
    (hbinding : binding ∈ config.bindings) : Scalar.text binding.server ∈ config.servers.keys := by
  have hdescribes := describes_of_ofDocument haccepted
  have hresolved := (exists_ofDocument_iff.mp ⟨config, haccepted⟩).2
  obtain ⟨item, hitem, hdescribed⟩ : ∃ item ∈ itemsOf document, DescribesBinding item binding := by
    have hall := hdescribes.bindings
    generalize itemsOf document = items at hall ⊢
    generalize config.bindings = bindings at *
    induction hall with
    | nil => contradiction
    | cons hfirst _ ih =>
        rcases List.mem_cons.mp hbinding with rfl | hbinding
        · exact ⟨_, List.mem_cons_self, hfirst⟩
        · obtain ⟨item, hitem, hdescribed⟩ := ih hbinding
          exact ⟨item, List.mem_cons_of_mem _ hitem, hdescribed⟩
  obtain ⟨value, hvalue, id, rfl, entry, hentry, hid⟩ := (hresolved item hitem).server
  obtain rfl : id = binding.server := by simpa using hvalue.symm.trans hdescribed.server
  rw [hdescribes.keys_eq, ← hid]
  exact List.mem_map_of_mem hentry

/-- One server with a host, under a key. -/
def soleServer (key : Scalar) : Document :=
  .mapping [(.text "servers", .mapping [(key, .mapping [(.text "host", .scalar (.text "h"))])])]

theorem accepts_soleServer_iff {key : Scalar} :
    (∃ config, ofDocument (soleServer key) = .ok config) ↔
      ∀ text, key = .text text → Pattern.IsRowOf (fun c => isIdChar c = true) text := by
  have hservers : Document.entry? (soleServer key) "servers" =
      some (.mapping [(key, .mapping [(.text "host", .scalar (.text "h"))])]) := rfl
  have hserver : IsServer (.mapping [(.text "host", .scalar (.text "h"))]) := by
    rw [← serverSchema_eq_none_iff, ← Option.isNone_iff_eq_none]
    decide
  simp only [← isId_iff, isId_iff_occurs]
  rw [exists_ofDocument_iff]
  constructor
  · rintro ⟨hformed, -⟩ text rfl
    exact (hformed.servers _ hservers).ids _ (List.mem_singleton_self _) text rfl
  · intro hkey
    refine ⟨⟨⟨_, rfl⟩, ?_, nofun, nofun, fun value hvalue => ?_, nofun⟩, nofun⟩
    · exact List.forall_mem_singleton.mpr ⟨"servers", by simp, rfl⟩
    · obtain rfl := Option.some.inj (hservers.symm.trans hvalue)
      exact ⟨⟨_, rfl⟩, List.forall_mem_singleton.mpr hkey, List.forall_mem_singleton.mpr hserver⟩

end Config

end Telemetry
