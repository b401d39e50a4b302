import Mathlib.Data.List.Basic
import Telemetry.Text.Order

namespace Telemetry.Text

theorem nodup_eraseDups {α : Type} [BEq α] [LawfulBEq α] (values : List α) : values.eraseDups.Nodup := by
  induction hlength : values.length using Nat.strongRecOn generalizing values with
  | ind length ih =>
      cases values with
      | nil => exact List.nodup_nil
      | cons value values =>
          have hshorter : (values.filter fun other => !other == value).length < length := by
            rw [← hlength, List.length_cons]
            exact Nat.lt_succ_of_le (List.length_filter_le _ _)
          rw [List.eraseDups_cons, List.nodup_cons]
          exact ⟨by simp, ih _ hshorter _ rfl⟩

theorem mem_sorted {text : String} {texts : List String} : text ∈ sorted texts ↔ text ∈ texts :=
  (List.mergeSort_perm texts _).mem_iff

theorem pairwise_le_sorted (texts : List String) : (sorted texts).Pairwise (· ≤ ·) := by
  have hsorted := @List.pairwise_mergeSort String (fun a b => decide (a ≤ b))
    (fun a b c hab hbc => decide_eq_true (String.le_trans (of_decide_eq_true hab)
      (of_decide_eq_true hbc)))
    (fun a b => by simpa using String.le_total a b) texts
  exact hsorted.imp of_decide_eq_true

theorem pairwise_lt_sorted {texts : List String} (hdistinct : texts.Nodup) :
    (sorted texts).Pairwise (· < ·) := by
  have hnodup : (sorted texts).Nodup := (List.mergeSort_perm texts _).nodup_iff.mpr hdistinct
  exact (pairwise_le_sorted texts).imp₂ (fun _ _ => Std.lt_of_le_of_ne) hnodup

theorem mem_sortedSet {text : String} {texts : List String} :
    text ∈ sortedSet texts ↔ text ∈ texts := by
  rw [sortedSet, mem_sorted, List.mem_eraseDups]

theorem pairwise_lt_sortedSet (texts : List String) : (sortedSet texts).Pairwise (· < ·) :=
  pairwise_lt_sorted (nodup_eraseDups texts)

end Telemetry.Text
