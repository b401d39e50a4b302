import Mathlib.Data.List.Induction
import Telemetry.Keyed

namespace Telemetry.Keyed

variable {κ ν : Type} [BEq κ] [LawfulBEq κ] {entries entries' : Keyed κ ν} {key : κ} {value : ν}

omit [LawfulBEq κ] in
theorem lookup_map {ω : Type} (f : ν → ω) (entries : Keyed κ ν) (key : κ) :
    (entries.map fun entry => (entry.1, f entry.2)).lookup key = (entries.lookup key).map f := by
  induction entries with
  | nil => rfl
  | cons entry entries ih =>
      rw [List.map_cons, List.lookup_cons, List.lookup_cons, ih]
      cases key == entry.1 <;> rfl

omit [LawfulBEq κ] in
theorem lookup_single (key other : κ) (value : ν) :
    [(other, value)].lookup key = if key == other then some value else none := by
  rw [List.lookup_cons, List.lookup_nil]
  cases key == other <;> rfl

omit [LawfulBEq κ] in
theorem lookup_congr [EquivBEq κ] {other : κ} (hkey : key == other) :
    entries.lookup key = entries.lookup other := by
  induction entries with
  | nil => rfl
  | cons entry entries ih => rw [List.lookup_cons, List.lookup_cons, ih, BEq.congr_left hkey]

omit [LawfulBEq κ] in
theorem exists_mem_of_lookup (hfound : entries.lookup key = some value) :
    ∃ other, (other, value) ∈ entries := by
  induction entries with
  | nil => contradiction
  | cons entry entries ih =>
      rw [List.lookup_cons] at hfound
      split at hfound
      · obtain rfl := Option.some.inj hfound
        exact ⟨entry.1, List.mem_cons_self⟩
      · obtain ⟨other, hmem⟩ := ih hfound
        exact ⟨other, List.mem_cons_of_mem entry hmem⟩

theorem has_iff_mem_keys : entries.has key = true ↔ key ∈ keys entries := by
  simp [has, keys]

theorem lookup_map_key (keyOf : ν → κ) (values : List ν) (key : κ) :
    (values.map fun value => (keyOf value, value)).lookup key =
      values.find? fun value => keyOf value == key := by
  induction values with
  | nil => rfl
  | cons value values ih =>
      rw [List.map_cons, List.lookup_cons, List.find?_cons, ih, BEq.comm]

theorem mem_of_lookup (hfound : entries.lookup key = some value) : (key, value) ∈ entries := by
  obtain ⟨before, after, rfl, -⟩ := List.lookup_eq_some_iff.mp hfound
  simp

theorem lookup_of_mem (hkeys : (keys entries).Nodup) (hmem : (key, value) ∈ entries) :
    entries.lookup key = some value := by
  induction entries with
  | nil => simp at hmem
  | cons entry entries ih =>
      obtain ⟨hfirst, hrest⟩ := List.nodup_cons.mp hkeys
      rcases List.mem_cons.mp hmem with rfl | hmem
      · exact List.lookup_cons_self
      · have hne : (key == entry.1) = false := by
          rw [beq_eq_false_iff_ne]
          rintro rfl
          exact hfirst (List.mem_map.mpr ⟨(entry.1, value), hmem, rfl⟩)
        rw [List.lookup_cons, hne]
        exact ih hrest hmem

theorem lookup_eq_some_iff_mem (hkeys : (keys entries).Nodup) :
    entries.lookup key = some value ↔ (key, value) ∈ entries :=
  ⟨mem_of_lookup, lookup_of_mem hkeys⟩

theorem lookup_eq_of_perm (hkeys : (keys entries).Nodup) (hperm : entries.Perm entries') (key : κ) :
    entries.lookup key = entries'.lookup key := by
  have hkeys' : (keys entries').Nodup := (hperm.map Prod.fst).nodup_iff.mp hkeys
  apply Option.ext
  intro value
  rw [lookup_eq_some_iff_mem hkeys, lookup_eq_some_iff_mem hkeys', hperm.mem_iff]

omit [BEq κ] [LawfulBEq κ] in
/-- Keys stay different where different keys give different ones. -/
theorem nodup_keys_filterMap {κ' ν' : Type} (hkeys : (keys entries).Nodup)
    {f : κ × ν → Option (κ' × ν')}
    (hf : ∀ entry other made made', f entry = some made → f other = some made' →
      made.1 = made'.1 → entry.1 = other.1) :
    (keys (entries.filterMap f)).Nodup := by
  rw [keys, List.Nodup, List.pairwise_map] at *
  rw [List.pairwise_filterMap]
  refine hkeys.imp fun {entry other} hne made hmade made' hmade' hsame => ?_
  exact hne (hf entry other made made' hmade hmade' hsame)

theorem eq_of_mem_of_key_eq (hkeys : (keys entries).Nodup) {entry other : κ × ν}
    (hentry : entry ∈ entries) (hother : other ∈ entries) (hkey : entry.1 = other.1) :
    entry = other := by
  have hvalue : entries.lookup other.1 = some entry.2 := hkey ▸ lookup_of_mem hkeys hentry
  have hvalue' := hvalue.symm.trans (lookup_of_mem hkeys hother)
  exact Prod.ext hkey (Option.some.inj hvalue')

omit [LawfulBEq κ] in
theorem mem_keys_of_put [EquivBEq κ] {other : κ} (hmem : other ∈ keys (put key value entries)) :
    other ∈ keys entries ∨ other = key := by
  rw [keys_put] at hmem
  split at hmem
  · exact .inl hmem
  · rwa [List.mem_append, List.mem_singleton] at hmem

theorem mem_keys_put {other : κ} :
    other ∈ keys (put key value entries) ↔ other ∈ keys entries ∨ other = key := by
  refine ⟨mem_keys_of_put, ?_⟩
  rw [keys_put]
  split
  · rename_i hold
    rintro (hmem | rfl)
    · exact hmem
    · exact has_iff_mem_keys.mp hold
  · rw [List.mem_append, List.mem_singleton]
    exact id

theorem nodup_keys_put (hkeys : (keys entries).Nodup) (key : κ) (value : ν) :
    (keys (put key value entries)).Nodup := by
  rw [keys_put]
  split
  · exact hkeys
  · rename_i hnew
    rw [has_iff_mem_keys] at hnew
    rw [List.nodup_append]
    refine ⟨hkeys, by simp, ?_⟩
    intro other hother last hlast
    obtain rfl := List.mem_singleton.mp hlast
    rintro rfl
    exact hnew hother

theorem nodup_keys_ofList (entries : List (κ × ν)) : (keys (ofList entries)).Nodup := by
  have hfold : ∀ all : Keyed κ ν, (keys all).Nodup →
      (keys (entries.foldl (fun all entry => put entry.1 entry.2 all) all)).Nodup := by
    induction entries with
    | nil => exact fun _ hkeys => hkeys
    | cons entry entries ih => exact fun all hkeys => ih _ (nodup_keys_put hkeys entry.1 entry.2)
  exact hfold [] List.nodup_nil

theorem put_eq_adjust (hkeys : (keys entries).Nodup) (hfound : entries.lookup key = some value)
    (f : ν → ν) : put key (f value) entries = adjust key f entries := by
  induction entries with
  | nil => simp at hfound
  | cons entry entries ih =>
      obtain ⟨hfirst, hrest⟩ := List.nodup_cons.mp hkeys
      unfold put adjust
      rw [List.map_cons]
      split
      · rename_i hkey
        have hvalue : entry.2 = value := by
          rw [← eq_of_beq hkey, List.lookup_cons_self] at hfound
          exact Option.some.inj hfound
        have hothers : ∀ other ∈ entries, (if other.1 == key then (other.1, f other.2) else other) =
            other := by
          intro other hother
          rw [if_neg]
          intro hother'
          apply hfirst
          rw [eq_of_beq hkey, ← eq_of_beq hother']
          exact List.mem_map_of_mem hother
        rw [hvalue, List.map_congr_left hothers, List.map_id']
      · rename_i hkey
        have hne : (key == entry.1) = false := by
          rw [BEq.comm]
          simpa using hkey
        rw [List.lookup_cons, hne] at hfound
        rw [ih hrest hfound]
        rfl

omit [LawfulBEq κ] in
theorem lookup_foldl_put [EquivBEq κ] (all : List (κ × ν)) (entries : Keyed κ ν) (key : κ) :
    (all.foldl (fun entries entry => put entry.1 entry.2 entries) entries).lookup key =
      (all.reverse.lookup key).or (entries.lookup key) := by
  induction all generalizing entries with
  | nil => rfl
  | cons entry all ih =>
      have hsplit : (entry :: all).reverse.lookup key =
          (all.reverse.lookup key).or ([entry].lookup key) := by
        rw [List.reverse_cons, List.lookup_append]
      rw [List.foldl_cons, ih, hsplit, Option.or_assoc]
      congr 1
      cases hkey : key == entry.1 with
      | true =>
          have hput := lookup_put_self entry.1 entry.2 entries
          rw [List.lookup_cons, hkey]
          rw [lookup_congr hkey, hput]
          rfl
      | false =>
          rw [List.lookup_cons, hkey]
          exact lookup_put_of_ne hkey entry.2 entries

omit [LawfulBEq κ] in
/-- Of several values of a key the last one is kept. -/
theorem lookup_ofList [EquivBEq κ] (all : List (κ × ν)) (key : κ) :
    (ofList all).lookup key = all.reverse.lookup key :=
  (lookup_foldl_put all [] key).trans Option.or_none

theorem mem_of_lookup_ofList {all : List (κ × ν)} (hfound : (ofList all).lookup key = some value) :
    (key, value) ∈ all := by
  rw [lookup_ofList] at hfound
  exact List.mem_reverse.mp (mem_of_lookup hfound)

omit [LawfulBEq κ] in
theorem lookup_adjust [EquivBEq κ] (key other : κ) (f : ν → ν) (entries : Keyed κ ν) :
    (adjust key f entries).lookup other =
      (entries.lookup other).map fun value => if other == key then f value else value := by
  induction entries with
  | nil => rfl
  | cons entry entries ih =>
      rw [adjust] at ih
      rw [adjust, List.map_cons, List.lookup_cons, List.lookup_cons, ih]
      cases hother : other == entry.1 with
      | true =>
          have hsame : (other == key) = (entry.1 == key) := BEq.congr_left hother
          by_cases hkey : entry.1 == key
          · simp [hkey, hother, hsame]
          · simp [hkey, hother, hsame]
      | false =>
          by_cases hkey : entry.1 == key
          · simp [hkey, hother]
          · simp [hkey, hother]

omit [LawfulBEq κ] in
theorem keys_adjust (key : κ) (f : ν → ν) (entries : Keyed κ ν) :
    keys (adjust key f entries) = keys entries := by
  rw [keys, adjust, List.map_map]
  refine List.map_congr_left fun entry _ => ?_
  simp only [Function.comp_apply]
  split <;> rfl

omit [LawfulBEq κ] in
theorem lookup_adjust_of_ne [EquivBEq κ] {other : κ} (hne : (other == key) = false) (f : ν → ν)
    (entries : Keyed κ ν) : (adjust key f entries).lookup other = entries.lookup other := by
  simp [lookup_adjust, hne]

omit [LawfulBEq κ] in
/-- Changes of the values of different keys commute. -/
theorem adjust_comm [EquivBEq κ] {other : κ} (hne : (key == other) = false) (f g : ν → ν)
    (entries : Keyed κ ν) :
    adjust key f (adjust other g entries) = adjust other g (adjust key f entries) := by
  simp only [adjust, List.map_map]
  refine List.map_congr_left fun entry _ => ?_
  by_cases hkey : entry.1 == key
  · have hother : (entry.1 == other) = false := by
      rw [BEq.congr_left hkey]
      exact hne
    simp [hkey, hother]
  · cases hother : entry.1 == other <;> simp [hkey, hother]

theorem has_adjust (key other : κ) (f : ν → ν) (entries : Keyed κ ν) :
    (adjust key f entries).has other = entries.has other := by
  rw [has, has, lookup_adjust, Option.isSome_map]

omit [LawfulBEq κ] in
theorem put_of_new [EquivBEq κ] (hnew : entries.lookup key = none) (value : ν) :
    put key value entries = entries ++ [(key, value)] := by
  induction entries with
  | nil => rfl
  | cons entry entries ih =>
      have hother : (key == entry.1) = false := by
        cases hkey : key == entry.1 with
        | false => rfl
        | true =>
            rw [List.lookup_cons, hkey] at hnew
            contradiction
      rw [List.lookup_cons, hother] at hnew
      rw [put, BEq.comm, hother, ih hnew]
      rfl

/-- Are the keys all different for a lookup? -/
def Distinct (entries : Keyed κ ν) : Prop :=
  (keys entries).Pairwise fun key other => (key == other) = false

omit [LawfulBEq κ] in
theorem Distinct.put [EquivBEq κ] (hdistinct : Distinct entries) (key : κ) (value : ν) :
    Distinct (put key value entries) := by
  rw [Distinct, keys_put]
  split
  · exact hdistinct
  · rename_i hnew
    have hothers : ∀ other ∈ keys entries, (other == key) = false := by
      intro other hother
      obtain ⟨entry, hentry, rfl⟩ := List.mem_map.mp hother
      rw [has, Bool.not_eq_true, Option.isSome_eq_false_iff, Option.isNone_iff_eq_none,
        List.lookup_eq_none_iff] at hnew
      have hother := hnew entry hentry
      rwa [bne, Bool.not_eq_true', BEq.comm] at hother
    exact List.pairwise_append.mpr ⟨hdistinct, List.pairwise_singleton _ _, fun other hother last hlast =>
      List.mem_singleton.mp hlast ▸ hothers other hother⟩

section Selections

variable {ω : Type} (g : ν → Option ω)

/-- The values that a function selects, under their keys. -/
def selected (entries : Keyed κ ν) : Keyed κ ω :=
  entries.filterMap fun entry => (g entry.2).map (entry.1, ·)

omit [BEq κ] [LawfulBEq κ] in
theorem mem_keys_selected {key : κ} :
    key ∈ keys (selected g entries) ↔ ∃ value, (key, value) ∈ entries ∧ (g value).isSome := by
  simp only [keys, selected, List.mem_map, List.mem_filterMap, Option.map_eq_some_iff]
  constructor
  · rintro ⟨-, ⟨entry, hentry, made, hmade, rfl⟩, rfl⟩
    exact ⟨entry.2, hentry, by rw [hmade]; rfl⟩
  · rintro ⟨value, hentry, hmade⟩
    exact ⟨_, ⟨_, hentry, _, Option.some_get hmade |>.symm, rfl⟩, rfl⟩

omit [LawfulBEq κ] in
theorem Distinct.selected (hdistinct : Distinct entries) : Distinct (selected g entries) := by
  rw [Distinct, keys, List.pairwise_map] at *
  rw [Keyed.selected, List.pairwise_filterMap]
  refine hdistinct.imp fun {entry other} hne made hmade made' hmade' => ?_
  obtain ⟨_, -, rfl⟩ := Option.map_eq_some_iff.mp hmade
  obtain ⟨_, -, rfl⟩ := Option.map_eq_some_iff.mp hmade'
  exact hne

omit [LawfulBEq κ] in
theorem Distinct.lookup_eq_none [EquivBEq κ] {entry : κ × ν} (hdistinct : Distinct (entry :: entries))
    (hkey : key == entry.1) : entries.lookup key = none := by
  obtain ⟨hfirst, -⟩ := List.pairwise_cons.mp hdistinct
  rw [List.lookup_eq_none_iff]
  intro other hother
  rw [bne, BEq.congr_left hkey, hfirst other.1 (List.mem_map_of_mem hother)]
  rfl

omit [LawfulBEq κ] in
theorem Distinct.lookup_of_mem [EquivBEq κ] (hdistinct : Distinct entries)
    (hmem : (key, value) ∈ entries) : entries.lookup key = some value := by
  induction entries with
  | nil => contradiction
  | cons entry entries ih =>
      obtain ⟨hfirst, hrest⟩ := List.pairwise_cons.mp hdistinct
      rcases List.mem_cons.mp hmem with rfl | hmem
      · rw [List.lookup_cons, BEq.rfl]
      · have hother : (key == entry.1) = false := by
          rw [BEq.comm]
          exact hfirst key (List.mem_map_of_mem hmem)
        rw [List.lookup_cons, hother]
        exact ih hrest hmem

omit [LawfulBEq κ] in
theorem lookup_selected [EquivBEq κ] (hdistinct : Distinct entries) (key : κ) :
    (selected g entries).lookup key = (entries.lookup key).bind g := by
  induction entries with
  | nil => rfl
  | cons entry entries ih =>
      have hrest := ih (List.pairwise_cons.mp hdistinct).2
      rw [List.lookup_cons]
      cases hkey : key == entry.1 with
      | true =>
          rw [selected, List.filterMap_cons]
          cases hmade : g entry.2 with
          | none =>
              rw [hdistinct.lookup_eq_none hkey] at hrest
              exact hrest.trans hmade.symm
          | some made =>
              simp only [Option.map_some, List.lookup_cons, hkey]
              exact hmade.symm
      | false =>
          rw [selected, List.filterMap_cons]
          cases hmade : g entry.2 with
          | none => exact hrest
          | some made =>
              simp only [Option.map_some, List.lookup_cons, hkey]
              exact hrest

end Selections

section Edits

variable {ε : Type} {apply : ν → ε → ν}

/-- The entries after edits of single values. -/
def edited (apply : ν → ε → ν) (edits : List (κ × ε)) (entries : Keyed κ ν) : Keyed κ ν :=
  edits.foldl (fun entries edit => adjust edit.1 (apply · edit.2) entries) entries

/-- A value after those among the edits that are meant for its key. -/
def editedAt (apply : ν → ε → ν) (key : κ) (edits : List (κ × ε)) (value : ν) : ν :=
  edits.foldl (fun value edit => if key == edit.1 then apply value edit.2 else value) value

theorem lookup_edited (edits : List (κ × ε)) (entries : Keyed κ ν) (key : κ) :
    (edited apply edits entries).lookup key = (entries.lookup key).map (editedAt apply key edits) := by
  induction edits generalizing entries with
  | nil => cases hfound : entries.lookup key <;> simp [edited, editedAt, hfound]
  | cons edit edits ih =>
      refine (ih _).trans ?_
      rw [lookup_adjust, Option.map_map]
      rfl

/-- The order of edits does not matter where those for one key commute. -/
theorem editedAt_eq_of_perm {edits edits' : List (κ × ε)} (hperm : edits.Perm edits')
    (hcomm : ∀ edit ∈ edits, ∀ edit' ∈ edits, edit.1 = edit'.1 → ∀ value,
      apply (apply value edit.2) edit'.2 = apply (apply value edit'.2) edit.2) (value : ν) :
    editedAt apply key edits value = editedAt apply key edits' value := by
  refine hperm.foldl_eq' (fun edit hedit edit' hedit' value => ?_) value
  by_cases hkey : key = edit.1
  · by_cases hkey' : key = edit'.1
    · simp only [← hkey, ← hkey', beq_self_eq_true, if_true]
      exact hcomm edit hedit edit' hedit' (hkey.symm.trans hkey') value
    · simp only [beq_iff_eq, hkey', if_false]
  · simp only [beq_iff_eq, hkey, if_false]

omit [LawfulBEq κ] in
theorem editedAt_rec (Holds : ν → Prop)
    (hholds : ∀ value edit, Holds value → Holds (apply value edit)) (edits : List (κ × ε)) (key : κ)
    {value : ν} (hvalue : Holds value) : Holds (editedAt apply key edits value) := by
  refine List.foldlRecOn (motive := Holds) _ _ hvalue fun value hvalue edit _ => ?_
  split
  · exact hholds value edit.2 hvalue
  · exact hvalue

/-- What edits leave of an attribute that was not set before, where those for one key that set it agree:
what one of them sets. -/
theorem read_editedAt_eq_some_iff {ρ : Type} (Holds : ν → Prop) (read : ν → Option ρ)
    {sets : ε → Option ρ} (hholds : ∀ value edit, Holds value → Holds (apply value edit))
    (hread : ∀ value edit, Holds value → read (apply value edit) = (sets edit).or (read value))
    {edits : List (κ × ε)} {key : κ}
    (hagree : ∀ edit edit', (key, edit) ∈ edits → (key, edit') ∈ edits → ∀ result result',
      sets edit = some result → sets edit' = some result' → result = result')
    {value : ν} (hvalue : Holds value) (hnone : read value = none) (result : ρ) :
    read (editedAt apply key edits value) = some result ↔
      ∃ edit, (key, edit) ∈ edits ∧ sets edit = some result := by
  -- the last edit is the one that was made last, so the induction takes it off first
  induction edits using List.reverseRecOn with
  | nil => simp [editedAt, hnone]
  | append_singleton edits last ih =>
      have hearlier : ∀ {edit}, (key, edit) ∈ edits → (key, edit) ∈ edits ++ [last] :=
        fun hedit => List.mem_append_left _ hedit
      have ih := ih fun edit edit' hedit hedit' => hagree edit edit' (hearlier hedit) (hearlier hedit')
      have hsplit : editedAt apply key (edits ++ [last]) value =
          if key == last.1 then apply (editedAt apply key edits value) last.2
          else editedAt apply key edits value := by
        rw [editedAt, List.foldl_append]
        rfl
      obtain ⟨other, edit⟩ := last
      rw [hsplit]
      by_cases hkey : key = other
      · subst hkey
        rw [if_pos (beq_self_eq_true key), hread _ _ (editedAt_rec Holds hholds edits key hvalue)]
        have hlast : (key, edit) ∈ edits ++ [(key, edit)] := by simp
        cases hsets : sets edit with
        | none =>
            rw [Option.none_or, ih]
            constructor
            · rintro ⟨edit', hedit', hresult⟩
              exact ⟨edit', hearlier hedit', hresult⟩
            · rintro ⟨edit', hedit', hresult⟩
              rcases List.mem_append.mp hedit' with hmem | hmem
              · exact ⟨edit', hmem, hresult⟩
              · obtain ⟨-, rfl⟩ := Prod.mk.inj (List.mem_singleton.mp hmem)
                rw [hsets] at hresult
                contradiction
        | some found =>
            rw [Option.some_or]
            constructor
            · intro hresult
              exact ⟨edit, hlast, hsets.trans hresult⟩
            · rintro ⟨edit', hedit', hresult⟩
              rw [hagree edit edit' hlast hedit' found result hsets hresult]
      · rw [if_neg (by simpa using hkey), ih]
        simp [hkey]

end Edits

end Telemetry.Keyed
