import Telemetry.Proofs.Template.Expansion

/-!
When an expansion is reported not to have settled. Rest is noticed by a pass that changes nothing, and
this pass counts towards the limit. So a template is reported if the passes allowed have not brought it
to rest, and also if the last of them has.
-/

namespace Telemetry.Template

/-- Is this the number of passes that bring the text to rest? -/
def SettlesAt (definitions : Definitions) (passes : Nat) (text : List Char) : Prop :=
  (pass definitions)^[passes + 1] text = (pass definitions)^[passes] text ∧
    ∀ fewer < passes, (pass definitions)^[fewer + 1] text ≠ (pass definitions)^[fewer] text

instance (definitions : Definitions) (passes : Nat) (text : List Char) :
    Decidable (SettlesAt definitions passes text) :=
  inferInstanceAs (Decidable (_ ∧ _))

variable {definitions : Definitions}

theorem iterate_pass_of_rest {passes : Nat} {text : List Char}
    (hrest : (pass definitions)^[passes + 1] text = (pass definitions)^[passes] text) {more : Nat}
    (hmore : passes ≤ more) : (pass definitions)^[more] text = (pass definitions)^[passes] text := by
  obtain ⟨further, rfl⟩ := Nat.exists_eq_add_of_le' hmore
  rw [Function.iterate_succ_apply'] at hrest
  rw [Function.iterate_add_apply]
  exact Function.iterate_fixed hrest further

theorem settled_settle_iff (passes : Nat) (unknown : List String) (text : List Char) :
    (settle definitions (passes + 1) unknown text).settled = true ↔
      (pass definitions)^[passes + 1] text = (pass definitions)^[passes] text := by
  induction passes generalizing unknown text with
  | zero =>
      rw [settle]
      split
      · rename_i hrest
        exact ⟨fun _ => hrest, fun _ => rfl⟩
      · rename_i hmoves
        exact ⟨fun hsettled => absurd hsettled Bool.false_ne_true, fun hrest => absurd hrest hmoves⟩
  | succ passes ih =>
      rw [settle]
      split
      · rename_i hrest
        have hfixed : ∀ count, (pass definitions)^[count] text = text := Function.iterate_fixed hrest
        rw [hfixed, hfixed]
        exact ⟨fun _ => rfl, fun _ => rfl⟩
      · rw [ih, ← Function.iterate_succ_apply, ← Function.iterate_succ_apply]

/-- The last pass, or one that left the text as it was, meets the names that stay unknown. -/
theorem unknown_settle (passes : Nat) (unknown : List String) (text : List Char) :
    (settle definitions (passes + 1) unknown text).unknown =
      unknownNames definitions ((pass definitions)^[passes] text) := by
  induction passes generalizing unknown text with
  | zero =>
      rw [settle]
      split <;> rfl
  | succ passes ih =>
      rw [settle]
      split
      · rename_i hrest
        rw [Function.iterate_fixed hrest]
      · rw [ih, Function.iterate_succ_apply]

/-- The last pass changes the text if the text is not at rest then, or comes to rest by this pass. -/
theorem last_pass_changes_iff (passes : Nat) (text : List Char) :
    (pass definitions)^[passes + 1] text ≠ (pass definitions)^[passes] text ↔
      (pass definitions)^[passes + 2] text ≠ (pass definitions)^[passes + 1] text ∨
        SettlesAt definitions (passes + 1) text := by
  constructor
  · intro hmoves
    by_cases hrest : (pass definitions)^[passes + 2] text = (pass definitions)^[passes + 1] text
    · refine .inr ⟨hrest, fun fewer hfewer hearly => hmoves ?_⟩
      exact (iterate_pass_of_rest hearly (by omega)).trans
        (iterate_pass_of_rest hearly (by omega)).symm
    · exact .inl hrest
  · rintro (hmoves | hsettles) hrest
    · exact hmoves ((iterate_pass_of_rest hrest (by omega)).trans
        (iterate_pass_of_rest hrest (by omega)).symm)
    · exact hsettles.2 passes (by omega) hrest

/-- An expansion is reported not to have settled if another pass would change what it gives, and also
if the last pass allowed has brought the template to rest. Besides this, the names are reported that
the last pass could not replace. -/
theorem expand_reports_unsettled (definitions : Definitions) (template : String)
    (context : Option String) (journal : Log.Journal) :
    let outcome := (expand definitions template context).run journal
    outcome.2 = journal ++
      ((if pass definitions outcome.1.toList ≠ outcome.1.toList ∨
            SettlesAt definitions 16 template.toList then
          [unsettledEntry ((context.filter (· ≠ "")).getD template) outcome.1]
        else []) ++
      (Text.sortedSet (unknownNames definitions ((pass definitions)^[15] template.toList))).map
        (unknownEntry ((context.filter (· ≠ "")).getD "template") template)) := by
  intro outcome
  have htext : outcome.1 = String.ofList ((pass definitions)^[16] template.toList) :=
    (gives_expand definitions template context journal).trans (expanded_eq_iterate template)
  have hnext : pass definitions outcome.1.toList = (pass definitions)^[15 + 2] template.toList := by
    rw [htext, String.toList_ofList, Function.iterate_succ_apply' (pass definitions) 16]
  have hchanges : pass definitions outcome.1.toList ≠ outcome.1.toList ∨
      SettlesAt definitions 16 template.toList ↔
        (expansion definitions template).settled = false := by
    rw [hnext, htext, String.toList_ofList, ← last_pass_changes_iff 15, ← Bool.not_eq_true]
    exact not_congr (settled_settle_iff 15 [] template.toList).symm
  have hunknown : (expansion definitions template).unknown =
      unknownNames definitions ((pass definitions)^[15] template.toList) :=
    unknown_settle 15 [] template.toList
  have hreports : outcome.2 = journal ++ (expansion definitions template).entries template context :=
    rfl
  have hresult : outcome.1 = String.ofList (expansion definitions template).text := rfl
  rw [hreports, Expansion.entries, hunknown, ← hresult]
  simp only [hchanges, Bool.eq_false_iff, ne_eq, ite_not]

/-- A template can be reported that is at rest. A chain of definitions as long as there are passes is
brought to rest by the last of them, and no pass is left to notice. -/
theorem not_forall_reports_iff_unsettled :
    ¬∀ (definitions : Definitions) (template : String) (context : Option String)
      (journal : Log.Journal),
      let outcome := (expand definitions template context).run journal
      (∃ others, outcome.2 =
        journal ++ unsettledEntry ((context.filter (· ≠ "")).getD template) outcome.1 :: others) ↔
          pass definitions outcome.1.toList ≠ outcome.1.toList := by
  intro hall
  have hreport := (hall (withHost chain (some "east")) "%\x7ba\x7d" none []).mp ⟨[], by decide +kernel⟩
  revert hreport
  decide +kernel

end Telemetry.Template
