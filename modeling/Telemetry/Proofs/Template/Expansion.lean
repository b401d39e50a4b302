import Telemetry.Proofs.Template.Substitution

namespace Telemetry.Template

variable {definitions raw : Definitions} {host : Option String} {template : String}

theorem toList_expanded (hclosed : Closed definitions (pieces template.toList)) :
    (expanded definitions template).toList =
      substituted definitions maxPasses (pieces template.toList) := by
  rw [expanded_eq_iterate, String.toList_ofList, iterate_pass hclosed]

theorem expanded_of_literal
    (hliteral : ∀ part ∈ pieces template.toList, part.value? definitions = none) :
    expanded definitions template = template := by
  rw [expanded_eq_iterate, iterate_pass_of_literal hliteral, String.ofList_toList]

theorem value?_resolved (raw : Definitions) (host : Option String) (part : Piece) :
    part.value? (resolved raw host) =
      (part.value? (withHost raw host)).map (expanded (withHost raw host)) := by
  cases part with
  | plain c => rfl
  | hole name => exact Keyed.lookup_map _ _ _

/-- By definitions that are expanded already, one pass substitutes all the way down. -/
theorem pass_resolved (hclosed : Closed (withHost raw host) (pieces template.toList)) :
    pass (resolved raw host) template.toList =
      substituted (withHost raw host) (maxPasses + 1) (pieces template.toList) := by
  rw [pass, substituted]
  refine List.flatMap_congr fun part hpart => ?_
  have hresolved := value?_resolved raw host part
  rw [render_eq]
  cases hvalue : part.value? (withHost raw host) with
  | none =>
      rw [hvalue] at hresolved
      rw [filled_of_literal hresolved, filled_of_literal hvalue]
  | some value =>
      rw [hvalue] at hresolved
      rw [filled_of_known hresolved, filled_of_known hvalue]
      exact toList_expanded (hclosed.value hpart hvalue)

theorem expanded_resolved (hclosed : Closed (withHost raw host) (pieces template.toList))
    (hnests : nestsWithin (withHost raw host) maxPasses (pieces template.toList) = true) :
    expanded (resolved raw host) template = expanded (withHost raw host) template := by
  have hpass : pass (resolved raw host) template.toList =
      (expanded (withHost raw host) template).toList := by
    rw [pass_resolved hclosed, substituted_succ hnests, toList_expanded hclosed]
  have hliteral : ∀ part ∈ pieces (expanded (withHost raw host) template).toList,
      part.value? (resolved raw host) = none := by
    intro part hpart
    rw [toList_expanded hclosed] at hpart
    rw [value?_resolved, value?_of_mem_pieces (isRead_pieces _) hclosed hnests hpart, Option.map_none]
  -- the first pass does it all, the others change nothing
  have hpasses : maxPasses = 15 + 1 := rfl
  rw [expanded_eq_iterate, hpasses, Function.iterate_succ_apply, hpass,
    iterate_pass_of_literal hliteral, String.ofList_toList]

/-- Expanding a template is substitution, if its definitions do not run in a circle, nest no deeper than
there are passes, and leave no placeholder open. The outcome has nothing more to expand; and the
definitions may be expanded by each other and the host before. -/
theorem expand_eq_substitution
    (hnests : nestsWithin (withHost raw host) 16 (pieces template.toList) = true)
    (hends : ∀ parts, Reaches (withHost raw host) (pieces template.toList) parts →
      ∀ stretch ∈ stretches (withHost raw host) parts, isUnfinished stretch = false) :
    ∃ result,
      (∀ context journal, ((expand (withHost raw host) template context).run journal).1 = result) ∧
      (∀ text, Substitutes (withHost raw host) (pieces template.toList) text ↔
        text = result.toList) ∧
      (∀ part ∈ pieces result.toList, part.value? (withHost raw host) = none) ∧
      (∀ context journal, ((expand (withHost raw host) result context).run journal).1 = result) ∧
      ∀ context journal, ((do
        let definitions ← resolve raw host
        expand definitions template context : Log.Noting String).run journal).1 = result := by
  have hclosed : Closed (withHost raw host) (pieces template.toList) :=
    fun parts hparts => finished_of_stretches (hends parts hparts)
  have htext := toList_expanded hclosed
  have hliteral : ∀ part ∈ pieces (expanded (withHost raw host) template).toList,
      part.value? (withHost raw host) = none := by
    rw [htext]
    exact fun part => value?_of_mem_pieces (isRead_pieces _) hclosed hnests
  refine ⟨expanded (withHost raw host) template, fun context => gives_expand _ _ context, ?_, hliteral,
    fun context journal => ?_, fun context => ?_⟩
  · intro text
    have hsubstitutes := substitutes_substituted hnests
    rw [htext]
    constructor
    · exact fun hother => hother.unique hsubstitutes
    · rintro rfl
      exact hsubstitutes
  · rw [gives_expand, expanded_of_literal hliteral]
  · rw [← expanded_resolved hclosed hnests]
    exact (gives_resolve raw host).bind (gives_expand _ _ context)

theorem Reaches.eq_or_mem {template parts : List Piece} (hparts : Reaches definitions template parts) :
    parts = template ∨ ∃ entry ∈ definitions, parts = pieces entry.2.toList := by
  cases hparts with
  | template => exact .inl rfl
  | @value _ part value _ _ hvalue =>
      cases part with
      | plain c => contradiction
      | hole name => exact .inr ⟨_, Keyed.mem_of_lookup hvalue, rfl⟩

/-- A chain of definitions that ends at the host, and is as long as there are passes. -/
def chain : Definitions := [
  ("a", "http://%\x7bb\x7d"), ("b", "%\x7bc\x7d."), ("c", "%\x7bd\x7d."), ("d", "%\x7be\x7d."),
  ("e", "%\x7bf\x7d."), ("f", "%\x7bg\x7d."), ("g", "%\x7bh\x7d."), ("h", "%\x7bi\x7d."),
  ("i", "%\x7bj\x7d."), ("j", "%\x7bk\x7d."), ("k", "%\x7bl\x7d."), ("l", "%\x7bm\x7d."),
  ("m", "%\x7bn\x7d."), ("n", "%\x7bo\x7d."), ("o", "%\x7bhost\x7d:80"), ("host", "ignored")]

def chainTemplate : String := "%\x7ba\x7d/%\x7bpage\x7d?a=%20b"

theorem expand_chain :
    nestsWithin (withHost chain (some "east")) 16 (pieces chainTemplate.toList) = true ∧
      nestsWithin (withHost chain (some "east")) 15 (pieces chainTemplate.toList) = false ∧
      (∀ parts, Reaches (withHost chain (some "east")) (pieces chainTemplate.toList) parts →
        ∀ stretch ∈ stretches (withHost chain (some "east")) parts, isUnfinished stretch = false) ∧
      Substitutes (withHost chain (some "east")) (pieces chainTemplate.toList)
        "http://east:80............./%\x7bpage\x7d?a=%20b".toList ∧
      ((do
        let definitions ← resolve chain (some "east")
        expand definitions chainTemplate none : Log.Noting String).run []).1 =
        "http://east:80............./%\x7bpage\x7d?a=%20b" := by
  have hnests : nestsWithin (withHost chain (some "east")) 16 (pieces chainTemplate.toList) = true := by
    decide +kernel
  have htemplate : ∀ stretch ∈ stretches (withHost chain (some "east"))
      (pieces chainTemplate.toList), isUnfinished stretch = false := by decide +kernel
  have hvalues : ∀ entry ∈ withHost chain (some "east"),
      ∀ stretch ∈ stretches (withHost chain (some "east")) (pieces entry.2.toList),
        isUnfinished stretch = false := by decide +kernel
  have hends : ∀ parts, Reaches (withHost chain (some "east")) (pieces chainTemplate.toList) parts →
      ∀ stretch ∈ stretches (withHost chain (some "east")) parts, isUnfinished stretch = false := by
    intro parts hparts
    rcases hparts.eq_or_mem with rfl | ⟨entry, hentry, rfl⟩
    · exact htemplate
    · exact hvalues entry hentry
  obtain ⟨result, hexpand, hsubstitutes, -, -, hresolved⟩ := expand_eq_substitution hnests hends
  have hresult : ((expand (withHost chain (some "east")) chainTemplate none).run []).1 =
      "http://east:80............./%\x7bpage\x7d?a=%20b" := by decide +kernel
  rw [hexpand] at hresult
  refine ⟨hnests, by decide +kernel, hends, ?_, ?_⟩
  · exact (hsubstitutes _).mpr (by rw [hresult])
  · rw [hresolved, hresult]

end Telemetry.Template
