import Telemetry.Proofs.Group.Round

namespace Telemetry

namespace Pattern

theorem isSome_of_mem_piecesFrom {pattern : Pattern} (hgroups : pattern.groups = 0) {fuel : Nat}
    {advance : Bool} {spot : Spot} {piece : Option String}
    (hpiece : piece ∈ pattern.piecesFrom fuel advance spot) : piece.isSome := by
  have hcaptured : ∀ last, pattern.captured last = [] := by
    intro last
    rw [captured, hgroups]
    rfl
  induction fuel generalizing advance spot with
  | zero =>
      obtain rfl := List.mem_singleton.mp hpiece
      rfl
  | succ fuel ih =>
      unfold piecesFrom at hpiece
      split at hpiece
      · obtain rfl := List.mem_singleton.mp hpiece
        rfl
      · rename_i last _
        rw [hcaptured, List.cons_append, List.nil_append] at hpiece
        rcases List.mem_cons.mp hpiece with rfl | hpiece
        · rfl
        · exact ih hpiece

end Pattern

namespace Group

/-- Is this the first line of the page, among those looked at, that has enough fields? -/
def QualifiesIn (group : Group) (page line : String) (fields : List (Option String)) : Prop :=
  ∃ layout before after, group.layout? = some layout ∧
    (Text.lines page).take 100 = before ++ line :: after ∧ layout.fields line = some fields ∧
    group.names.length ≤ fields.length ∧
    ∀ earlier ∈ before, ∀ short, layout.fields earlier = some short →
      short.length < group.names.length

theorem exists_qualifiesIn {group : Group} {layout : Layout} {page : String}
    {fields : List (Option String)} (hlayout : group.layout? = some layout)
    (hfields : extract layout group.names.length page = some fields) :
    ∃ line, group.QualifiesIn page line fields := by
  obtain ⟨before, line, after, hlines, hline, hlength, hbefore⟩ := extract_eq_some_iff.mp hfields
  exact ⟨line, layout, before, after, hlayout, hlines, hline, hlength, hbefore⟩

theorem isSome_of_mem_cut {separator : Pattern} (hgroups : separator.groups = 0) {line : String}
    {fields : List (Option String)} (hfields : cut separator line = some fields)
    {field : Option String} (hfield : field ∈ fields) : field.isSome := by
  simp only [cut, Option.ite_none_left_eq_some, Option.some.injEq] at hfields
  rw [← hfields.2, withoutEmptyEnd, List.mem_reverse] at hfield
  have hmem := List.mem_reverse.mp ((List.dropWhile_sublist _).subset hfield)
  exact Pattern.isSome_of_mem_piecesFrom hgroups hmem

theorem isSome_lastField {names : List String} {fields : List (Option String)}
    (hlength : names.length ≤ fields.length) (hfields : ∀ field ∈ fields, field.isSome)
    {name : String} (hname : name ∈ names) : (lastField (names.zip fields) name).isSome := by
  induction names generalizing fields with
  | nil => simp at hname
  | cons first names ih =>
      cases fields with
      | nil => simp at hlength
      | cons field fields =>
          obtain ⟨text, rfl⟩ := Option.isSome_iff_exists.mp (hfields field List.mem_cons_self)
          have hlength' : names.length ≤ fields.length := by simpa using hlength
          have hfields' : ∀ field ∈ fields, field.isSome := fun field hfield =>
            hfields field (List.mem_cons_of_mem _ hfield)
          by_cases hfirst : first = name
          · subst hfirst
            rw [List.zip_cons_cons, lastField_cons_some, Option.isSome_or]
            simp
          · rw [List.zip_cons_cons, lastField_cons_of_ne hfirst]
            rcases List.mem_cons.mp hname with hname | hname
            · exact absurd hname.symm hfirst
            · exact ih hlength' hfields' hname

end Group

end Telemetry
