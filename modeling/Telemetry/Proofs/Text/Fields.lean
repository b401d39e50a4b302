import Telemetry.Text.Lines

namespace Telemetry.Text

theorem fieldsOf_ne_nil (separator : Char) (cs : List Char) : fieldsOf separator cs ≠ [] := by
  cases cs with
  | nil => simp [fieldsOf]
  | cons c cs =>
      unfold fieldsOf
      split
      · simp
      · split <;> simp

theorem intercalate_fieldsOf (separator : Char) (cs : List Char) :
    [separator].intercalate (fieldsOf separator cs) = cs := by
  induction cs with
  | nil => rfl
  | cons c cs ih =>
      unfold fieldsOf
      split
      · rename_i hc
        rw [List.intercalate_cons_of_ne_nil (fieldsOf_ne_nil separator cs), ih, hc]
        rfl
      · split
        · rename_i hfields
          exact absurd hfields (fieldsOf_ne_nil separator cs)
        · rename_i field fields hfields
          rw [hfields] at ih
          rw [List.intercalate_cons_cons_left, ih]

theorem fields_injective (separator : Char) {text other : String}
    (hfields : fields separator text = fields separator other) : text = other := by
  have hcs : fieldsOf separator text.toList = fieldsOf separator other.toList :=
    (List.map_inj_right fun _ _ => String.ofList_injective).mp hfields
  rw [← String.toList_inj, ← intercalate_fieldsOf separator text.toList, hcs, intercalate_fieldsOf]

theorem fieldsOf_of_notMem {separator : Char} {cs : List Char} (hcs : separator ∉ cs) :
    fieldsOf separator cs = [cs] := by
  induction cs with
  | nil => rfl
  | cons c cs ih =>
      have hc : c ≠ separator := by
        rintro rfl
        exact hcs List.mem_cons_self
      rw [fieldsOf, if_neg hc, ih fun hmem => hcs (List.mem_cons_of_mem c hmem)]

theorem fieldsOf_append_cons {separator : Char} {field : List Char} (hfield : separator ∉ field)
    (rest : List Char) :
    fieldsOf separator (field ++ separator :: rest) = field :: fieldsOf separator rest := by
  induction field with
  | nil => rw [List.nil_append, fieldsOf, if_pos rfl]
  | cons c field ih =>
      have hc : c ≠ separator := by
        rintro rfl
        exact hfield List.mem_cons_self
      rw [List.cons_append, fieldsOf, if_neg hc,
        ih fun hmem => hfield (List.mem_cons_of_mem c hmem)]

theorem fieldsOf_intercalate {separator : Char} {fields : List (List Char)} (hne : fields ≠ [])
    (hfields : ∀ field ∈ fields, separator ∉ field) :
    fieldsOf separator ([separator].intercalate fields) = fields := by
  induction fields with
  | nil => contradiction
  | cons field fields ih =>
      have hfield := hfields field List.mem_cons_self
      cases fields with
      | nil => rw [List.intercalate_singleton, fieldsOf_of_notMem hfield]
      | cons next rest =>
          have hrest := ih (List.cons_ne_nil next rest)
            fun other hother => hfields other (List.mem_cons_of_mem field hother)
          rw [List.intercalate_cons_of_ne_nil (List.cons_ne_nil next rest), List.append_assoc,
            List.singleton_append, fieldsOf_append_cons hfield, hrest]

theorem fieldsOf_append_replicate (separator : Char) (cs : List Char) (count : Nat) :
    fieldsOf separator (cs ++ List.replicate count separator) =
      fieldsOf separator cs ++ List.replicate count [] := by
  induction cs with
  | nil =>
      induction count with
      | zero => rfl
      | succ count ih =>
          rw [List.nil_append] at ih
          rw [List.replicate_succ, fieldsOf_append_cons List.not_mem_nil, ih]
          rfl
  | cons c cs ih =>
      rw [List.cons_append, fieldsOf, fieldsOf, ih]
      split
      · rfl
      · cases hfields : fieldsOf separator cs with
        | nil => exact absurd hfields (fieldsOf_ne_nil separator cs)
        | cons field fields => rfl

end Telemetry.Text
