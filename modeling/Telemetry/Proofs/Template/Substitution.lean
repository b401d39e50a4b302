import Mathlib.Data.List.Basic
import Mathlib.Logic.Function.Iterate
import Telemetry.Proofs.Template.Definitions
import Telemetry.Proofs.Template.Pieces

/-!
What expanding a template comes to when its definitions do not run in a circle: every placeholder is
replaced by what its own value expands to. The passes go through the definitions level by level, so
after a number of passes the template is substituted to that depth; and as no text that is put in ends
in the middle of a placeholder, what is put next to it never turns into a new one.
-/

namespace Telemetry.Template

/-- The value to put in place of a part. -/
def Piece.value? (definitions : Definitions) : Piece → Option String
  | plain _ => none
  | hole name => definitions.lookup (String.ofList name)

def Piece.isKnown (definitions : Definitions) (part : Piece) : Bool :=
  (part.value? definitions).isSome

/-- The recursive substitution: every defined placeholder is replaced by what its value is substituted
to, and everything else stays. -/
inductive Substitutes (definitions : Definitions) : List Piece → List Char → Prop
  | nil : Substitutes definitions [] []
  | literal {part : Piece} {parts : List Piece} {text : List Char}
      (hnone : part.value? definitions = none) (hparts : Substitutes definitions parts text) :
      Substitutes definitions (part :: parts) (part.text ++ text)
  | known {part : Piece} {parts : List Piece} {value : String} {inner text : List Char}
      (hvalue : part.value? definitions = some value)
      (hinner : Substitutes definitions (pieces value.toList) inner)
      (hparts : Substitutes definitions parts text) :
      Substitutes definitions (part :: parts) (inner ++ text)

/-- Are the definitions used nested no deeper than this? No depth is enough if they run in a circle. -/
def nestsWithin (definitions : Definitions) : (depth : Nat) → List Piece → Bool
  | 0, parts => parts.all fun part => (part.value? definitions).isNone
  | depth + 1, parts => parts.all fun part =>
    match part.value? definitions with
    | some value => nestsWithin definitions depth (pieces value.toList)
    | none => true

/-- The template, and the values that it uses, directly or through other values. -/
inductive Reaches (definitions : Definitions) (template : List Piece) : List Piece → Prop
  | template : Reaches definitions template template
  | value {parts : List Piece} {part : Piece} {value : String}
      (hparts : Reaches definitions template parts) (hpart : part ∈ parts)
      (hvalue : part.value? definitions = some value) :
      Reaches definitions template (pieces value.toList)

/-- The literal stretches: what stands between the defined placeholders. -/
def stretches (definitions : Definitions) (parts : List Piece) : List (List Char) :=
  (parts.splitOnP (·.isKnown definitions)).map textOf

/-- The text of a part, or what is made of its value if it has one. -/
def Piece.filled (definitions : Definitions) (fill : List Char → List Char) (part : Piece) :
    List Char :=
  match part.value? definitions with
  | some value => fill value.toList
  | none => part.text

/-- The parts that a part is replaced by. -/
def Piece.refilled (definitions : Definitions) (fill : List Char → List Char) (part : Piece) :
    List Piece :=
  match part.value? definitions with
  | some value => pieces (fill value.toList)
  | none => [part]

/-- Substitution to some depth; placeholders further down stay as they are. -/
def substituted (definitions : Definitions) : (depth : Nat) → List Piece → List Char
  | 0, parts => textOf parts
  | depth + 1, parts => parts.flatMap fun part =>
    part.filled definitions fun value => substituted definitions depth (pieces value)

variable {definitions : Definitions}

theorem settle_text (passes : Nat) (unknown : List String) (text : List Char) :
    (settle definitions passes unknown text).text = (pass definitions)^[passes] text := by
  induction passes generalizing unknown text with
  | zero => rfl
  | succ passes ih =>
      rw [settle, Function.iterate_succ_apply]
      split
      · rename_i hsettled
        rw [hsettled]
        exact (Function.iterate_fixed hsettled passes).symm
      · exact ih _ _

theorem expanded_eq_iterate (template : String) :
    expanded definitions template =
      String.ofList ((pass definitions)^[maxPasses] template.toList) :=
  congrArg String.ofList (settle_text _ _ _)

theorem filled_of_literal {fill : List Char → List Char} {part : Piece}
    (hnone : part.value? definitions = none) : part.filled definitions fill = part.text := by
  rw [Piece.filled, hnone]

theorem filled_of_known {fill : List Char → List Char} {part : Piece} {value : String}
    (hvalue : part.value? definitions = some value) :
    part.filled definitions fill = fill value.toList := by
  rw [Piece.filled, hvalue]

theorem refilled_of_literal {fill : List Char → List Char} {part : Piece}
    (hnone : part.value? definitions = none) : part.refilled definitions fill = [part] := by
  rw [Piece.refilled, hnone]

theorem refilled_of_known {fill : List Char → List Char} {part : Piece} {value : String}
    (hvalue : part.value? definitions = some value) :
    part.refilled definitions fill = pieces (fill value.toList) := by
  rw [Piece.refilled, hvalue]

theorem render_eq (part : Piece) : part.render definitions = part.filled definitions id := by
  cases part with
  | plain c => rfl
  | hole name => rfl

theorem Substitutes.unique {parts : List Piece} {text other : List Char}
    (htext : Substitutes definitions parts text) (hother : Substitutes definitions parts other) :
    text = other := by
  induction htext generalizing other with
  | nil =>
      cases hother with
      | nil => rfl
  | literal hnone _ ih =>
      cases hother with
      | literal _ hparts => rw [ih hparts]
      | known hvalue => exact absurd (hnone.symm.trans hvalue) (by simp)
  | known hvalue _ _ ihinner ih =>
      cases hother with
      | literal hnone => exact absurd (hnone.symm.trans hvalue) (by simp)
      | known hvalue' hinner' hparts' =>
          obtain rfl := Option.some.inj (hvalue.symm.trans hvalue')
          rw [ihinner hinner', ih hparts']

/-- To a depth that is enough, the substitution is the whole one. -/
theorem substitutes_substituted {depth : Nat} {parts : List Piece}
    (hnests : nestsWithin definitions depth parts = true) :
    Substitutes definitions parts (substituted definitions depth parts) := by
  induction depth generalizing parts with
  | zero =>
      induction parts with
      | nil => exact .nil
      | cons part parts ih =>
          rw [nestsWithin, List.all_cons, Bool.and_eq_true] at hnests
          exact .literal (Option.isNone_iff_eq_none.mp hnests.1) (ih hnests.2)
  | succ depth ihdepth =>
      induction parts with
      | nil => exact .nil
      | cons part parts ih =>
          rw [nestsWithin, List.all_cons, Bool.and_eq_true] at hnests
          obtain ⟨hpart, hparts⟩ := hnests
          rw [substituted, List.flatMap_cons]
          cases hvalue : part.value? definitions with
          | none =>
              rw [filled_of_literal hvalue]
              exact .literal hvalue (ih hparts)
          | some value =>
              rw [hvalue] at hpart
              rw [filled_of_known hvalue]
              exact .known hvalue (ihdepth hpart) (ih hparts)

theorem nestsWithin_succ_iff {depth : Nat} {parts : List Piece} :
    nestsWithin definitions (depth + 1) parts = true ↔
      ∀ part ∈ parts, ∀ value, part.value? definitions = some value →
        nestsWithin definitions depth (pieces value.toList) = true := by
  rw [nestsWithin, List.all_eq_true]
  refine forall₂_congr fun part _ => ?_
  cases part.value? definitions with
  | none => simp
  | some value => simp

theorem nestsWithin_succ {depth : Nat} {parts : List Piece}
    (hnests : nestsWithin definitions depth parts = true) :
    nestsWithin definitions (depth + 1) parts = true := by
  induction depth generalizing parts with
  | zero =>
      rw [nestsWithin, List.all_eq_true] at hnests
      refine nestsWithin_succ_iff.mpr fun part hpart value hvalue => ?_
      rw [Option.isNone_iff_eq_none.mp (hnests part hpart)] at hvalue
      contradiction
  | succ depth ih =>
      rw [nestsWithin_succ_iff] at hnests ⊢
      exact fun part hpart value hvalue => ih (hnests part hpart value hvalue)

theorem substituted_succ {depth : Nat} {parts : List Piece}
    (hnests : nestsWithin definitions depth parts = true) :
    substituted definitions (depth + 1) parts = substituted definitions depth parts :=
  (substitutes_substituted (nestsWithin_succ hnests)).unique (substitutes_substituted hnests)

/-- The parts are literal stretches with defined placeholders between them, and no stretch ends in the
beginning of a placeholder. -/
inductive Finished (definitions : Definitions) : List Piece → Prop
  | literal {stretch : List Piece} (hliteral : ∀ part ∈ stretch, part.value? definitions = none)
      (hend : isUnfinished (textOf stretch) = false) : Finished definitions stretch
  | known {stretch parts : List Piece} {part : Piece} {value : String}
      (hliteral : ∀ part ∈ stretch, part.value? definitions = none)
      (hend : isUnfinished (textOf stretch) = false)
      (hvalue : part.value? definitions = some value) (hparts : Finished definitions parts) :
      Finished definitions (stretch ++ part :: parts)

theorem isKnown_eq_false_iff {part : Piece} :
    part.isKnown definitions = false ↔ part.value? definitions = none := by
  rw [Piece.isKnown, Option.isSome_eq_false_iff, Option.isNone_iff_eq_none]

theorem finished_of_stretches {parts : List Piece}
    (hends : ∀ stretch ∈ stretches definitions parts, isUnfinished stretch = false) :
    Finished definitions parts := by
  -- on the number of parts: what stands behind the first defined placeholder is shorter
  induction hlength : parts.length using Nat.strongRecOn generalizing parts with
  | _ length ih =>
      cases hfound : parts.find? (·.isKnown definitions) with
      | none =>
          have hliteral : ∀ part ∈ parts, part.isKnown definitions = false := by
            simpa using hfound
          rw [stretches, List.splitOnP_eq_singleton hliteral] at hends
          refine .literal (fun part hpart => ?_) (hends _ List.mem_cons_self)
          exact isKnown_eq_false_iff.mp (hliteral part hpart)
      | some part =>
          obtain ⟨hpart, stretch, rest, rfl, hliteral⟩ := List.find?_eq_some_iff_append.mp hfound
          have hliteral : ∀ part ∈ stretch, part.isKnown definitions = false := by
            simpa using hliteral
          obtain ⟨value, hvalue⟩ := Option.isSome_iff_exists.mp hpart
          rw [stretches, List.splitOnP_append_cons _ _ hpart, List.splitOnP_eq_singleton hliteral,
            List.map_append] at hends
          refine .known (fun part hpart => ?_) (hends _ List.mem_cons_self) hvalue
            (ih _ ?_ (fun stretch hstretch => hends _ (List.mem_append_right _ hstretch)) rfl)
          · exact isKnown_eq_false_iff.mp (hliteral part hpart)
          · simp only [← hlength, List.length_append, List.length_cons]
            omega

theorem flatMap_of_literal {fill : Piece → List Char} {stretch : List Piece}
    (hfill : ∀ part, part.value? definitions = none → fill part = part.text)
    (hstretch : ∀ part ∈ stretch, part.value? definitions = none) :
    stretch.flatMap fill = textOf stretch :=
  List.flatMap_congr fun part hpart => hfill part (hstretch part hpart)

/-- No placeholder is left open where finished texts are put in. -/
theorem Finished.isUnfinished_flatMap {fill : Piece → List Char} {parts : List Piece}
    (hfinished : Finished definitions parts)
    (hfill : ∀ part, part.value? definitions = none → fill part = part.text)
    (hknown : ∀ part ∈ parts, ∀ value, part.value? definitions = some value →
      isUnfinished (fill part) = false) : isUnfinished (parts.flatMap fill) = false := by
  induction hfinished with
  | literal hstretch hend =>
      rw [flatMap_of_literal hfill hstretch]
      exact hend
  | @known stretch parts part value hstretch hend hvalue _ ih =>
      have hpart := hknown part (by simp) value hvalue
      have hrest := ih fun later hlater => hknown later (by simp [hlater])
      rw [List.flatMap_append, List.flatMap_cons, flatMap_of_literal hfill hstretch]
      exact isUnfinished_append hend (isUnfinished_append hpart hrest)

/-- What is put in for the placeholders is read on its own: it does not fuse with what stands around
it. -/
theorem Finished.pieces_flatMap {fill : List Char → List Char} {parts : List Piece}
    (hfinished : Finished definitions parts) (hread : IsRead parts)
    (hknown : ∀ part ∈ parts, ∀ value, part.value? definitions = some value →
      isUnfinished (fill value.toList) = false) :
    pieces (parts.flatMap (·.filled definitions fill)) =
      parts.flatMap (·.refilled definitions fill) := by
  have hstretches : ∀ stretch : List Piece, (∀ part ∈ stretch, part.value? definitions = none) →
      stretch.flatMap (·.filled definitions fill) = textOf stretch ∧
        stretch.flatMap (·.refilled definitions fill) = stretch := by
    intro stretch hstretch
    refine ⟨flatMap_of_literal (fun _ => filled_of_literal) hstretch, ?_⟩
    rw [List.flatMap_congr fun part hpart => refilled_of_literal (hstretch part hpart),
      List.flatMap_singleton']
  induction hfinished with
  | @literal stretch hstretch _ =>
      obtain ⟨htext, hsame⟩ := hstretches stretch hstretch
      rw [htext, hsame]
      exact hread
  | @known stretch parts part value hstretch hend hvalue _ ih =>
      obtain ⟨htext, hsame⟩ := hstretches stretch hstretch
      obtain ⟨hfront, hrest⟩ := hread.of_append
      have hrest : IsRead ([part] ++ parts) := hrest
      obtain ⟨-, hrest⟩ := hrest.of_append
      have hpart := hknown part (by simp) value hvalue
      have hlater := ih hrest fun later hmem => hknown later (by simp [hmem])
      -- neither the stretch nor what is put in runs on into what follows, so each is read alone
      rw [List.flatMap_append, List.flatMap_cons, List.flatMap_append, List.flatMap_cons, htext, hsame,
        filled_of_known hvalue, refilled_of_known hvalue, pieces_append hend, pieces_append hpart,
        hlater, hfront]

theorem Reaches.trans {template parts parts' : List Piece}
    (hparts : Reaches definitions template parts) (hparts' : Reaches definitions parts parts') :
    Reaches definitions template parts' := by
  induction hparts' with
  | template => exact hparts
  | value _ hpart hvalue ih => exact .value ih hpart hvalue

/-- All that the template uses is finished. -/
def Closed (definitions : Definitions) (template : List Piece) : Prop :=
  ∀ parts, Reaches definitions template parts → Finished definitions parts

theorem Closed.value {template : List Piece} (hclosed : Closed definitions template) {part : Piece}
    (hpart : part ∈ template) {value : String} (hvalue : part.value? definitions = some value) :
    Closed definitions (pieces value.toList) :=
  fun parts hparts => hclosed parts ((Reaches.value .template hpart hvalue).trans hparts)

theorem exists_text_of_known {part : Piece} {value : String}
    (hvalue : part.value? definitions = some value) : ∃ front, part.text = front ++ ['\x7d'] := by
  cases part with
  | plain c => contradiction
  | hole name => exact ⟨'%' :: '\x7b' :: name, rfl⟩

section Levels

variable {depth : Nat} {parts : List Piece}

theorem isUnfinished_substituted (hclosed : Closed definitions parts) :
    isUnfinished (substituted definitions depth parts) = false := by
  induction depth generalizing parts with
  | zero =>
      -- a placeholder that stays as it is ends in its brace
      refine (hclosed parts .template).isUnfinished_flatMap (fun _ _ => rfl) ?_
      intro part _ value hvalue
      obtain ⟨front, htext⟩ := exists_text_of_known hvalue
      rw [htext]
      exact isUnfinished_close front
  | succ depth ih =>
      refine (hclosed parts .template).isUnfinished_flatMap (fun _ => filled_of_literal) ?_
      intro part hpart value hvalue
      rw [filled_of_known hvalue]
      exact ih (hclosed.value hpart hvalue)

theorem pieces_substituted (hread : IsRead parts) (hclosed : Closed definitions parts) :
    pieces (substituted definitions (depth + 1) parts) =
      parts.flatMap (·.refilled definitions fun value =>
        substituted definitions depth (pieces value)) :=
  (hclosed parts .template).pieces_flatMap hread fun _ hpart _ hvalue =>
    isUnfinished_substituted (hclosed.value hpart hvalue)

/-- One more pass substitutes one level further. -/
theorem pass_substituted (hread : IsRead parts) (hclosed : Closed definitions parts) :
    pass definitions (substituted definitions depth parts) =
      substituted definitions (depth + 1) parts := by
  -- on the depth, for all templates: the value of a placeholder is a template of one level less
  induction depth generalizing parts with
  | zero =>
      rw [pass, substituted, hread, substituted]
      refine List.flatMap_congr fun part _ => ?_
      simp only [render_eq, substituted, textOf_pieces]
      rfl
  | succ depth ih =>
      rw [pass, pieces_substituted hread hclosed, List.flatMap_assoc, substituted]
      refine List.flatMap_congr fun part hpart => ?_
      cases hvalue : part.value? definitions with
      | none =>
          rw [refilled_of_literal hvalue, List.flatMap_singleton, render_eq, filled_of_literal hvalue,
            filled_of_literal hvalue]
      | some value =>
          rw [refilled_of_known hvalue, filled_of_known hvalue]
          exact ih (isRead_pieces _) (hclosed.value hpart hvalue)

theorem value?_of_mem_pieces (hread : IsRead parts) (hclosed : Closed definitions parts)
    (hnests : nestsWithin definitions depth parts = true) {part : Piece}
    (hpart : part ∈ pieces (substituted definitions depth parts)) :
    part.value? definitions = none := by
  induction depth generalizing parts part with
  | zero =>
      rw [nestsWithin, List.all_eq_true] at hnests
      rw [substituted, hread] at hpart
      exact Option.isNone_iff_eq_none.mp (hnests part hpart)
  | succ depth ih =>
      rw [nestsWithin_succ_iff] at hnests
      rw [pieces_substituted hread hclosed, List.mem_flatMap] at hpart
      obtain ⟨source, hsource, hpart⟩ := hpart
      cases hvalue : source.value? definitions with
      | none =>
          rw [refilled_of_literal hvalue] at hpart
          obtain rfl := List.mem_singleton.mp hpart
          exact hvalue
      | some value =>
          rw [refilled_of_known hvalue] at hpart
          exact ih (isRead_pieces _) (hclosed.value hsource hvalue) (hnests source hsource value hvalue)
            hpart

end Levels

theorem iterate_pass {template : List Char} (hclosed : Closed definitions (pieces template))
    (passes : Nat) :
    (pass definitions)^[passes] template = substituted definitions passes (pieces template) := by
  induction passes with
  | zero => exact (textOf_pieces template).symm
  | succ passes ih =>
      rw [Function.iterate_succ_apply', ih, pass_substituted (isRead_pieces template) hclosed]

theorem iterate_pass_of_literal {text : List Char}
    (hliteral : ∀ part ∈ pieces text, part.value? definitions = none) (passes : Nat) :
    (pass definitions)^[passes] text = text := by
  refine Function.iterate_fixed ?_ passes
  calc
    pass definitions text = textOf (pieces text) :=
      flatMap_of_literal (fun part hnone => (render_eq part).trans (filled_of_literal hnone)) hliteral
    _ = text := textOf_pieces text

end Telemetry.Template
