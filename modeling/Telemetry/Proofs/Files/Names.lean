import Mathlib.Data.List.TakeWhile
import Telemetry.Files
import Telemetry.Proofs.Text.Order

namespace Telemetry

theorem Text.takeWhile_ne_eq_iff {separator : Char} {cs part : List Char} :
    cs.takeWhile (· ≠ separator) = part ↔
      separator ∉ part ∧ (cs = part ∨ ∃ rest, cs = part ++ separator :: rest) := by
  constructor
  · rintro rfl
    refine ⟨fun hmem => by simpa using List.mem_takeWhile_imp hmem, ?_⟩
    have hsplit := List.takeWhile_append_dropWhile (p := (· ≠ separator)) (l := cs)
    cases hrest : cs.dropWhile (· ≠ separator) with
    | nil =>
        rw [hrest, List.append_nil] at hsplit
        exact .inl hsplit.symm
    | cons c rest =>
        have hc : c = separator := by
          have hhead := List.head?_dropWhile_not (· ≠ separator) cs
          rw [hrest] at hhead
          simpa using hhead
        rw [hrest, hc] at hsplit
        exact .inr ⟨rest, hsplit.symm⟩
  · rintro ⟨hpart, hcs⟩
    have hkept : ∀ c ∈ part, decide (c ≠ separator) = true := by
      intro c hc
      refine decide_eq_true ?_
      rintro rfl
      exact hpart hc
    rcases hcs with rfl | ⟨rest, rfl⟩
    · exact List.takeWhile_eq_self_iff.mpr hkept
    · rw [List.takeWhile_append_of_pos hkept, List.takeWhile_cons_of_neg (by simp), List.append_nil]

namespace Files

variable {files : Files} {folder name : String}

/-- Is there something of that name in the folder? Its path is in the tree, or one that goes on. -/
def Holds (files : Files) (folder name : String) : Prop :=
  '/' ∉ name.toList ∧ ∃ path ∈ files.keys, path = folder ++ "/" ++ name ∨
    ∃ rest, path = folder ++ "/" ++ name ++ "/" ++ rest

theorem partBelow_eq_iff {start path : String} :
    (if start.toList.isPrefixOf path.toList then
        some (String.ofList ((path.toList.drop start.toList.length).takeWhile (· ≠ '/')))
      else none) = some name ↔
      '/' ∉ name.toList ∧ (path = start ++ name ∨ ∃ rest, path = start ++ name ++ "/" ++ rest) := by
  have hpath : ∀ below : List Char, path.toList = start.toList ++ below →
      (path = start ++ name ↔ below = name.toList) ∧
      ((∃ rest, path = start ++ name ++ "/" ++ rest) ↔ ∃ rest, below = name.toList ++ '/' :: rest) := by
    intro below hbelow
    simp only [← String.toList_inj, String.toList_append, hbelow, List.append_assoc,
      List.append_cancel_left_eq]
    refine ⟨trivial, ?_, ?_⟩
    · rintro ⟨rest, hrest⟩
      exact ⟨rest.toList, hrest⟩
    · rintro ⟨rest, hrest⟩
      exact ⟨String.ofList rest, by simp [hrest]⟩
  rw [Option.ite_none_right_eq_some, List.isPrefixOf_iff_prefix, Option.some.injEq,
    ← String.toList_inj, String.toList_ofList, Text.takeWhile_ne_eq_iff]
  constructor
  · rintro ⟨⟨below, hbelow⟩, hname, hrest⟩
    obtain ⟨hend, hfurther⟩ := hpath below hbelow.symm
    rw [← hbelow, List.drop_left] at hrest
    exact ⟨hname, hrest.imp hend.mpr hfurther.mpr⟩
  · rintro ⟨hname, hrest⟩
    have hprefix : start.toList <+: path.toList := by
      rcases hrest with rfl | ⟨rest, rfl⟩
      · simp [String.toList_append]
      · simp [String.toList_append, List.append_assoc]
    obtain ⟨below, hbelow⟩ := hprefix
    obtain ⟨hend, hfurther⟩ := hpath below hbelow.symm
    refine ⟨⟨below, hbelow⟩, hname, ?_⟩
    rw [← hbelow, List.drop_left]
    exact hrest.imp hend.mp hfurther.mp

theorem mem_namesBelow_iff : name ∈ files.namesBelow folder ↔ files.Holds folder name := by
  simp only [namesBelow, List.mem_filterMap, partBelow_eq_iff, Holds]
  constructor
  · rintro ⟨path, hpath, hname, hrest⟩
    exact ⟨hname, path, hpath, hrest⟩
  · rintro ⟨hname, path, hpath, hrest⟩
    exact ⟨path, hpath, hname, hrest⟩

theorem mem_names_iff : name ∈ files.names folder ↔ files.Holds (Path.target folder) name := by
  rw [names, Text.mem_sortedSet, mem_namesBelow_iff]

theorem pairwise_lt_names (files : Files) (folder : String) : (files.names folder).Pairwise (· < ·) :=
  Text.pairwise_lt_sortedSet _

end Files

/-- The last point in a name, unless it stands at an end, separates the suffix from a stem. -/
theorem Path.suffix_eq_iff {name : String} {ending : List Char} (hne : ending ≠ [])
    (hpoint : '.' ∉ ending) :
    suffix name = String.ofList ('.' :: ending) ↔
      ∃ stem, stem ≠ "" ∧ name = stem ++ String.ofList ('.' :: ending) := by
  unfold suffix
  dsimp only
  constructor
  · intro hsuffix
    split at hsuffix
    · have htext := congrArg String.toList hsuffix
      simp at htext
    · rename_i hproper
      obtain ⟨-, hsplit⟩ := Text.takeWhile_ne_eq_iff.mp
        (rfl : name.toList.reverse.takeWhile (· ≠ '.') = name.toList.reverse.takeWhile (· ≠ '.'))
      generalize name.toList.reverse.takeWhile (· ≠ '.') = back at *
      obtain rfl : back.reverse = ending := by simpa using String.ofList_injective hsuffix
      rcases hsplit with hall | ⟨rest, hrest⟩
      · exact absurd (.inl (congrArg List.length hall).symm) hproper
      · have hname : name.toList = rest.reverse ++ '.' :: back.reverse := by
          rw [← List.reverse_reverse name.toList, hrest]
          simp
        refine ⟨String.ofList rest.reverse, ?_, ?_⟩
        · rintro hempty
          obtain rfl : rest = [] := by simpa using congrArg String.toList hempty
          exact hproper (.inr (.inr (by simp [hrest])))
        · rw [← String.toList_inj, hname]
          simp
  · rintro ⟨stem, hstem, rfl⟩
    have hback : (stem ++ String.ofList ('.' :: ending)).toList.reverse =
        ending.reverse ++ '.' :: stem.toList.reverse := by simp
    have hending : (ending.reverse ++ '.' :: stem.toList.reverse).takeWhile (· ≠ '.') =
        ending.reverse := Text.takeWhile_ne_eq_iff.mpr ⟨by simpa using hpoint, .inr ⟨_, rfl⟩⟩
    have hproper : ¬(ending.reverse.length = (ending.reverse ++ '.' :: stem.toList.reverse).length ∨
        ending.reverse.isEmpty = true ∨ ((ending.reverse ++ '.' :: stem.toList.reverse).drop
          (ending.reverse.length + 1)).isEmpty = true) := by
      simp [hne, hstem]
    rw [hback, hending, if_neg hproper, List.reverse_reverse]

end Telemetry
