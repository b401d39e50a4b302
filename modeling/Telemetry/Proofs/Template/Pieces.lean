import Telemetry.Template

namespace Telemetry.Template

/-- The text that a part was read from. -/
def Piece.text : Piece → List Char
  | plain c => [c]
  | hole name => holeText name

/-- The text that parts were read from. -/
def textOf (parts : List Piece) : List Char :=
  parts.flatMap Piece.text

theorem textOf_append (front rest : List Piece) :
    textOf (front ++ rest) = textOf front ++ textOf rest :=
  List.flatMap_append

/-- Is the text the beginning of a placeholder, and not all of it? -/
def isOpening : List Char → Bool
  | ['%'] => true
  | '%' :: '\x7b' :: name => name.all isNameChar
  | _ => false

/-- Does the text end in the beginning of a placeholder? That is, does one of its ends open one? -/
def isUnfinished : List Char → Bool
  | [] => false
  | c :: rest => isOpening (c :: rest) || isUnfinished rest

theorem isOpening_of_append {c : Char} {front rest : List Char}
    (hopening : isOpening (c :: (front ++ rest)) = true) : isOpening (c :: front) = true := by
  unfold isOpening at hopening
  split at hopening
  · rename_i heq
    obtain ⟨rfl, hnil⟩ := List.cons.inj heq
    obtain ⟨rfl, -⟩ := List.append_eq_nil_iff.mp hnil
    rfl
  · rename_i name heq
    obtain ⟨rfl, hname⟩ := List.cons.inj heq
    rcases front with _ | ⟨d, front⟩
    · rfl
    · obtain ⟨rfl, rfl⟩ : d = '\x7b' ∧ front ++ rest = name := List.cons.inj hname
      rw [List.all_append, Bool.and_eq_true] at hopening
      exact hopening.1
  · contradiction

theorem isUnfinished_append {front rest : List Char} (hfront : isUnfinished front = false)
    (hrest : isUnfinished rest = false) : isUnfinished (front ++ rest) = false := by
  induction front with
  | nil => exact hrest
  | cons c front ih =>
      simp only [isUnfinished, Bool.or_eq_false_iff] at hfront
      simp only [List.cons_append, isUnfinished, Bool.or_eq_false_iff]
      refine ⟨?_, ih hfront.2⟩
      cases hopening : isOpening (c :: (front ++ rest)) with
      | false => rfl
      | true => exact (isOpening_of_append hopening).symm.trans hfront.1

theorem isUnfinished_of_append {front rest : List Char}
    (hclosed : isUnfinished (front ++ rest) = false) : isUnfinished rest = false := by
  induction front with
  | nil => exact hclosed
  | cons c front ih =>
      simp only [List.cons_append, isUnfinished, Bool.or_eq_false_iff] at hclosed
      exact ih hclosed.2

theorem isUnfinished_close (front : List Char) : isUnfinished (front ++ ['\x7d']) = false := by
  induction front with
  | nil => rfl
  | cons c front ih =>
      rw [List.cons_append, isUnfinished, ih, Bool.or_false]
      unfold isOpening
      split
      · rename_i heq
        exact absurd (List.cons.inj heq).2 (by simp)
      · rename_i name heq
        rcases front with _ | ⟨d, front⟩
        · exact absurd heq (by simp)
        · obtain ⟨-, rfl⟩ : d = '\x7b' ∧ front ++ ['\x7d'] = name :=
            List.cons.inj (List.cons.inj heq).2
          rw [List.all_append]
          exact Bool.and_false _
      · rfl

theorem hole?_eq_some_iff {cs name after : List Char} :
    hole? cs = some (name, after) ↔
      cs = '\x7b' :: (name ++ '\x7d' :: after) ∧ name ≠ [] ∧ ∀ c ∈ name, isNameChar c = true := by
  constructor
  · intro hfound
    unfold hole? at hfound
    split at hfound
    · rename_i rest
      split at hfound
      · rename_i heq
        simp only [Option.ite_none_left_eq_some, Option.some.injEq, Prod.mk.injEq,
          List.isEmpty_iff] at hfound
        obtain ⟨hne, rfl, rfl⟩ := hfound
        refine ⟨?_, hne, fun c hc => List.all_eq_true.mp List.all_takeWhile c hc⟩
        rw [← heq, List.takeWhile_append_dropWhile]
      · contradiction
    · contradiction
  · rintro ⟨rfl, hne, hname⟩
    have hclose : isNameChar '\x7d' = false := by decide
    have hdrop : (name ++ '\x7d' :: after).dropWhile isNameChar = '\x7d' :: after := by
      rw [List.dropWhile_append_of_pos hname, List.dropWhile_cons_of_neg (by simp [hclose])]
    have htake : (name ++ '\x7d' :: after).takeWhile isNameChar = name := by
      rw [List.takeWhile_append_of_pos hname, List.takeWhile_cons_of_neg (by simp [hclose]),
        List.append_nil]
    simp only [hole?, hdrop, htake, List.isEmpty_iff, hne, if_false]

theorem hole?_append {cs name after : List Char} (hfound : hole? cs = some (name, after))
    (rest : List Char) : hole? (cs ++ rest) = some (name, after ++ rest) := by
  obtain ⟨rfl, hname⟩ := hole?_eq_some_iff.mp hfound
  refine hole?_eq_some_iff.mpr ⟨?_, hname⟩
  simp only [List.cons_append, List.append_assoc]

/-- A placeholder that is complete only with the text behind is the end of the text in front. -/
theorem hole?_append_eq_none {cs : List Char} (hfound : hole? cs = none)
    (hclosed : isOpening ('%' :: cs) = false) (rest : List Char) : hole? (cs ++ rest) = none := by
  rw [Option.eq_none_iff_forall_ne_some]
  rintro ⟨name, after⟩ hsome
  obtain ⟨htext, hne, hname⟩ := hole?_eq_some_iff.mp hsome
  rw [← List.cons_append] at htext
  rcases List.append_eq_append_iff.mp htext with ⟨more, hopen, -⟩ | ⟨more, rfl, hmore⟩
  · -- all of the text in front is the beginning of the placeholder
    rcases cs with _ | ⟨c, cs⟩
    · contradiction
    · obtain ⟨rfl, rfl⟩ := List.cons.inj hopen
      have hall : cs.all isNameChar = true :=
        List.all_eq_true.mpr fun c hc => hname c (List.mem_append_left _ hc)
      rw [isOpening, hall] at hclosed
      contradiction
  · rcases more with _ | ⟨c, more⟩
    · have hall : name.all isNameChar = true := List.all_eq_true.mpr hname
      rw [List.append_nil, isOpening, hall] at hclosed
      contradiction
    · obtain ⟨rfl, rfl⟩ := List.cons.inj hmore
      have hhere : hole? ('\x7b' :: name ++ '\x7d' :: more) = some (name, more) :=
        hole?_eq_some_iff.mpr ⟨rfl, hne, hname⟩
      rw [hhere] at hfound
      contradiction

theorem pieces_of_ne {c : Char} (hne : c ≠ '%') (rest : List Char) :
    pieces (c :: rest) = .plain c :: pieces rest := by
  rw [pieces, if_neg hne]

theorem pieces_of_none {rest : List Char} (hnone : hole? rest = none) :
    pieces ('%' :: rest) = .plain '%' :: pieces rest := by
  rw [pieces, if_pos rfl]
  split
  · rename_i hfound
    rw [hnone] at hfound
    contradiction
  · rfl

theorem pieces_of_some {rest name after : List Char} (hsome : hole? rest = some (name, after)) :
    pieces ('%' :: rest) = .hole name :: pieces after := by
  rw [pieces, if_pos rfl]
  split
  · rename_i hfound
    rw [hsome] at hfound
    obtain ⟨rfl, rfl⟩ := Prod.mk.inj (Option.some.inj hfound)
    rfl
  · rename_i hfound
    rw [hsome] at hfound
    contradiction

theorem textOf_pieces (text : List Char) : textOf (pieces text) = text := by
  fun_induction pieces text with
  | case1 => rfl
  | case2 rest name after hfound ih =>
      obtain ⟨rfl, -⟩ := hole?_eq_some_iff.mp hfound
      rw [textOf] at ih
      rw [textOf, List.flatMap_cons, ih, Piece.text, holeText]
      simp
  | case3 rest hnone ih => exact congrArg (_ :: ·) ih
  | case4 c rest hne ih => exact congrArg (_ :: ·) ih

theorem pieces_append {front : List Char} (hclosed : isUnfinished front = false)
    (rest : List Char) : pieces (front ++ rest) = pieces front ++ pieces rest := by
  fun_induction pieces front with
  | case1 => rfl
  | case2 cs name after hfound ih =>
      have hafter : isUnfinished after = false := by
        obtain ⟨rfl, -⟩ := hole?_eq_some_iff.mp hfound
        have hclosed : isUnfinished (('%' :: '\x7b' :: name ++ ['\x7d']) ++ after) = false := by
          simpa using hclosed
        exact isUnfinished_of_append hclosed
      rw [List.cons_append, pieces_of_some (hole?_append hfound rest), ih hafter, List.cons_append]
  | case3 cs hnone ih =>
      simp only [isUnfinished, Bool.or_eq_false_iff] at hclosed
      rw [List.cons_append, pieces_of_none (hole?_append_eq_none hnone hclosed.1 rest), ih hclosed.2]
      rfl
  | case4 c cs hne ih =>
      simp only [isUnfinished, Bool.or_eq_false_iff] at hclosed
      rw [List.cons_append, pieces_of_ne hne, ih hclosed.2]
      rfl

/-- Are these the parts of a text? -/
def IsRead (parts : List Piece) : Prop :=
  pieces (textOf parts) = parts

theorem isRead_pieces (text : List Char) : IsRead (pieces text) :=
  congrArg pieces (textOf_pieces text)

theorem isRead_plain_iff {c : Char} {parts : List Piece} :
    IsRead (.plain c :: parts) ↔
      (c = '%' → hole? (textOf parts) = none) ∧ IsRead parts := by
  have htext : textOf (.plain c :: parts) = c :: textOf parts := rfl
  rw [IsRead, htext]
  by_cases hc : c = '%'
  · subst hc
    cases hfound : hole? (textOf parts) with
    | none => simp [pieces_of_none hfound, IsRead]
    | some found =>
        obtain ⟨name, after⟩ := found
        simp [pieces_of_some hfound]
  · simp [pieces_of_ne hc, hc, IsRead]

theorem isRead_hole_iff {name : List Char} {parts : List Piece} :
    IsRead (.hole name :: parts) ↔
      (name ≠ [] ∧ ∀ c ∈ name, isNameChar c = true) ∧ IsRead parts := by
  have htext : textOf (.hole name :: parts) = '%' :: '\x7b' :: (name ++ '\x7d' :: textOf parts) := by
    simp [textOf, Piece.text, holeText]
  rw [IsRead, htext]
  constructor
  · intro hread
    cases hfound : hole? ('\x7b' :: (name ++ '\x7d' :: textOf parts)) with
    | none =>
        rw [pieces_of_none hfound] at hread
        exact absurd (List.cons.inj hread).1 (by simp)
    | some found =>
        obtain ⟨name', after⟩ := found
        rw [pieces_of_some hfound] at hread
        obtain ⟨hname, hparts⟩ := List.cons.inj hread
        obtain rfl := Piece.hole.inj hname
        obtain ⟨heq, hvalid⟩ := hole?_eq_some_iff.mp hfound
        have hafter : textOf parts = after := by simpa using heq
        exact ⟨hvalid, by rw [IsRead, hafter, hparts]⟩
  · rintro ⟨hvalid, hread⟩
    rw [pieces_of_some (hole?_eq_some_iff.mpr ⟨rfl, hvalid⟩), hread]

theorem IsRead.of_append {front rest : List Piece} (hread : IsRead (front ++ rest)) :
    IsRead front ∧ IsRead rest := by
  induction front with
  | nil =>
      refine ⟨?_, hread⟩
      rw [IsRead, textOf, List.flatMap_nil, pieces]
  | cons part front ih =>
      rw [List.cons_append] at hread
      cases part with
      | plain c =>
          obtain ⟨hplain, hread⟩ := isRead_plain_iff.mp hread
          obtain ⟨hfront, hrest⟩ := ih hread
          refine ⟨isRead_plain_iff.mpr ⟨fun hc => ?_, hfront⟩, hrest⟩
          -- a placeholder in less of the text would be one in all of it
          rw [Option.eq_none_iff_forall_ne_some]
          rintro ⟨name, after⟩ hfound
          have hlonger := hole?_append hfound (textOf rest)
          rw [← textOf_append, hplain hc] at hlonger
          contradiction
      | hole name =>
          obtain ⟨hvalid, hread⟩ := isRead_hole_iff.mp hread
          obtain ⟨hfront, hrest⟩ := ih hread
          exact ⟨isRead_hole_iff.mpr ⟨hvalid, hfront⟩, hrest⟩

end Telemetry.Template
