import Mathlib.Data.List.DropRight
import Telemetry.Text.Blank

namespace Telemetry.Text

theorem rdropWhile_append {α : Type} {p : α → Bool} {kept ending : List α}
    (hkept : ∀ x ∈ kept.getLast?, p x = false) (hending : ∀ x ∈ ending, p x = true) :
    (kept ++ ending).rdropWhile p = kept := by
  have hreversed : ∀ x ∈ ending.reverse, p x = true := fun x hx =>
    hending x (List.mem_reverse.mp hx)
  rw [List.rdropWhile, List.reverse_append, List.dropWhile_append_of_pos hreversed]
  change kept.rdropWhile p = kept
  rw [List.rdropWhile_eq_self_iff]
  intro hne
  rw [hkept _ (List.getLast?_eq_some_getLast hne)]
  exact Bool.false_ne_true

theorem dropAround_append {p : Char → Bool} {before kept after : List Char}
    (hbefore : ∀ c ∈ before, p c = true) (hfirst : ∀ c ∈ kept.head?, p c = false)
    (hlast : ∀ c ∈ kept.getLast?, p c = false) (hafter : ∀ c ∈ after, p c = true) :
    dropAround p (before ++ kept ++ after) = kept := by
  rw [dropAround, List.append_assoc, List.dropWhile_append_of_pos hbefore]
  cases kept with
  | nil =>
      rw [List.nil_append, List.dropWhile_eq_nil_iff.mpr hafter]
      rfl
  | cons c kept =>
      have hc : ¬p c = true := by
        rw [hfirst c rfl]
        exact Bool.false_ne_true
      rw [List.cons_append, List.dropWhile_cons_of_neg hc]
      exact rdropWhile_append hlast hafter

theorem dropAround_eq_self {p : Char → Bool} {cs : List Char} (hcs : ∀ c ∈ cs, p c = false) :
    dropAround p cs = cs := by
  have hnone : ∀ c ∈ ([] : List Char), p c = true := by simp
  have hdropped := dropAround_append hnone (fun c hc => hcs c (List.mem_of_head? hc))
    (fun c hc => hcs c (List.mem_of_getLast? hc)) hnone
  rwa [List.nil_append, List.append_nil] at hdropped

theorem dropAround_dropAround (p : Char → Bool) (cs : List Char) :
    dropAround p (dropAround p cs) = dropAround p cs := by
  have hfirst : (dropAround p cs).dropWhile p = dropAround p cs := by
    rw [List.dropWhile_eq_self_iff]
    intro hne
    have hkept : dropAround p cs <+: cs.dropWhile p := List.rdropWhile_prefix p _
    rw [hkept.getElem]
    exact List.dropWhile_get_zero_not p cs (hne.trans_le hkept.length_le)
  rw [dropAround, hfirst]
  exact List.rdropWhile_idempotent p _

theorem strip_strip (text : String) : strip (strip text) = strip text := by
  rw [strip, strip, String.toList_ofList, dropAround_dropAround]

end Telemetry.Text
