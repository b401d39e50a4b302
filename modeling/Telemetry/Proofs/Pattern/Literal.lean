import Telemetry.Pattern
import Telemetry.Proofs.Text.Fields

namespace Telemetry.Pattern

/-- The characters that mean something else, or nothing at all, when they stand alone. -/
def operators : List Char :=
  ['\\', '|', ')', '[', '.', '^', '$', '(', '*', '+', '?']

/-- The pattern for one character. -/
def only (c : Char) : Pattern :=
  ⟨String.singleton c, .one (.only .exact c.toNat), 0⟩

section Reading

variable {α β : Type} {progress : Progress}

/-- Reading from a state comes to a value and a later state. -/
def Reads (reader : Reader α) (progress : Progress) (value : α) (after : Progress) : Prop :=
  ∃ hle, reader.run progress = .ok ⟨value, after, hle⟩

theorem Reads.bind {reader : Reader α} {next : α → Reader β} {value : α} {last : β}
    {between after : Progress} (hreader : Reads reader progress value between)
    (hnext : Reads (next value) between last after) : Reads (reader >>= next) progress last after := by
  obtain ⟨hbetween, hreader⟩ := hreader
  obtain ⟨hafter, hnext⟩ := hnext
  refine ⟨Nat.le_trans hafter hbetween, ?_⟩
  change (Reader.bind reader next).run progress = _
  simp only [Reader.bind, hreader, hnext]

theorem reads_pure (value : α) (progress : Progress) : Reads (pure value) progress value progress :=
  ⟨Nat.le_refl _, rfl⟩

theorem reads_progress (progress : Progress) : Reads Pattern.progress progress progress progress :=
  ⟨Nat.le_refl _, rfl⟩

theorem reads_peek (progress : Progress) : Reads peek progress progress.tokens.head? progress :=
  ⟨Nat.le_refl _, rfl⟩

theorem reads_skip {token : Token} (hprogress : progress.tokens = [token]) :
    Reads (skip 1) progress () { progress with tokens := [] } := by
  refine ⟨by simp, ?_⟩
  simp only [skip, hprogress, List.drop_one, List.tail_cons, List.head?_nil]
  rfl

theorem reads_readCounts_brace (hprogress : progress.tokens = []) :
    Reads (readCounts '\x7b') progress none progress := by
  have hbraces : braces? progress.tokens = none := by
    rw [hprogress]
    rfl
  rw [readCounts]
  · refine (reads_progress progress).bind ?_
    rw [hbraces]
    exact reads_pure none progress
  all_goals decide

theorem reads_readPlain {c : Char} (hc : c ∉ operators) {flags : Flags}
    (hflags : flags.verbose = false) (first : Bool) (hprogress : progress.tokens = []) :
    Reads (readPlain flags first c) progress (.item (literal flags c.toNat)) progress := by
  simp only [operators, List.mem_cons, List.not_mem_nil, or_false, not_or] at hc
  obtain ⟨-, -, -, hset, hdot, hcaret, hdollar, hopen, hstar, hplus, hquestion⟩ := hc
  simp only [readPlain, hflags, Bool.false_and, Bool.false_eq_true, if_false]
  split
  · rename_i hrepeats
    obtain rfl : c = '\x7b' := by simpa [hstar, hplus, hquestion] using hrepeats
    exact (reads_readCounts_brace hprogress).bind (reads_pure _ _)
  · exact reads_pure _ _

theorem reads_readElement {c : Char} (hc : c ∉ operators) {flags : Flags}
    (hflags : flags.verbose = false) (first : Bool) (hprogress : progress.tokens = [.plain c]) :
    Reads (readElement flags first) progress (.item (literal flags c.toNat))
      { progress with tokens := [] } := by
  have hbar : c ≠ '|' := fun hbar => hc (by simp [hbar, operators])
  have hclose : c ≠ ')' := fun hclose => hc (by simp [hclose, operators])
  refine (reads_peek progress).bind ?_
  rw [hprogress, List.head?_cons]
  split
  · contradiction
  · simp_all
  · simp_all
  · rename_i heq
    cases heq
    exact (reads_skip hprogress).bind (reads_readPlain hc hflags first rfl)

theorem reads_readElement_finish (flags : Flags) (first : Bool) (hprogress : progress.tokens = []) :
    Reads (readElement flags first) progress .finish progress := by
  refine (reads_peek progress).bind ?_
  rw [hprogress]
  exact reads_pure _ _

theorem compile_singleton {c : Char} (hc : c ∉ operators) :
    compile (String.singleton c) = .ok (only c) := by
  have hslash : c ≠ '\\' := by
    rintro rfl
    exact hc (by simp [operators])
  have htokens : tokens [c] = [.plain c] := by
    rw [tokens]
    · rfl
    all_goals simp [hslash]
  have hsequence : Reads (readSequence 4 .none true []) (.start [.plain c])
      (.one (.only .exact c.toNat)) (.start []) := by
    rw [readSequence]
    refine (reads_readElement hc rfl _ rfl).bind ?_
    dsimp only
    rw [readSequence]
    exact (reads_readElement_finish _ _ rfl).bind (reads_pure _ _)
  obtain ⟨hle, hread⟩ : Reads (readAlternatives 5 .none true) (.start [.plain c])
      (.one (.only .exact c.toNat)) (.start []) := by
    rw [readAlternatives]
    exact hsequence.bind ⟨Nat.le_refl _, rfl⟩
  have hpattern : readPattern [c] = .ok (.one (.only .exact c.toNat), 0) := by
    rw [readPattern, htokens, readTokens, if_neg (by simp), List.length_singleton, hread]
    rfl
  rw [compile, String.toList_singleton, hpattern]
  rfl

end Reading

section Splitting

variable {c : Char}

theorem holds_only_iff {other : Char} :
    (CharTest.only .exact c.toNat).holds other = true ↔ other = c := by
  simp only [CharTest.only, CharTest.holds, List.any_cons, List.any_nil, Bool.or_false, SetItem.holds,
    Bool.bne_false, Bool.and_eq_true, decide_eq_true_eq]
  constructor
  · rintro ⟨hlow, hhigh⟩
    exact Char.toNat_inj.mp (by omega)
  · rintro rfl
    exact ⟨Nat.le_refl _, Nat.le_refl _⟩

theorem run_only (spot : Spot) :
    (only c).expr.run (behind none) spot = spot.pass? (.only .exact c.toNat) := by
  simp only [only, Expr.run]
  cases spot.pass? (.only .exact c.toNat) <;> rfl

theorem pass?_only_self {spot : Spot} {rest : List Char} (hspot : spot.after = c :: rest) :
    spot.pass? (.only .exact c.toNat) =
      some { spot with before := c :: spot.before, after := rest, index := spot.index + 1 } := by
  simp only [Spot.pass?, hspot, holds_only_iff, if_true]

theorem pass?_only_of_ne {spot : Spot} {other : Char} {rest : List Char} (hother : other ≠ c)
    (hspot : spot.after = other :: rest) : spot.pass? (.only .exact c.toNat) = none := by
  simp only [Spot.pass?, hspot, holds_only_iff, if_neg hother]

theorem findFrom_only_of_notMem {after : List Char} (hc : c ∉ after) {spot : Spot}
    (hspot : spot.after = after) : findFrom (only c).expr false spot after = none := by
  induction after generalizing spot with
  | nil =>
      simp only [findFrom, Bool.false_eq_true, if_false, run_only, Spot.pass?, hspot, Option.map_none]
  | cons other after ih =>
      have hother : other ≠ c := by
        rintro rfl
        exact hc List.mem_cons_self
      simp only [findFrom, Bool.false_eq_true, if_false, run_only, pass?_only_of_ne hother hspot]
      exact ih (fun hmem => hc (List.mem_cons_of_mem other hmem)) rfl

theorem findFrom_only {field rest : List Char} (hc : c ∉ field) {spot : Spot}
    (hspot : spot.after = field ++ c :: rest) :
    ∃ first last, findFrom (only c).expr false spot (field ++ c :: rest) = some (first, last) ∧
      first.index = spot.index + field.length ∧ last.index = first.index + 1 ∧ last.after = rest := by
  induction field generalizing spot with
  | nil =>
      refine ⟨spot, { spot with before := c :: spot.before, after := rest, index := spot.index + 1 },
        ?_, rfl, rfl, rfl⟩
      simp only [List.nil_append, findFrom, Bool.false_eq_true, if_false, run_only,
        pass?_only_self hspot]
  | cons other field ih =>
      have hother : other ≠ c := by
        rintro rfl
        exact hc List.mem_cons_self
      let later : Spot :=
        { spot with before := other :: spot.before, after := field ++ c :: rest, index := spot.index + 1 }
      have hlater : later.after = field ++ c :: rest := rfl
      obtain ⟨first, last, hfind, hfirst, hlast, hafter⟩ :=
        ih (fun hmem => hc (List.mem_cons_of_mem other hmem)) hlater
      refine ⟨first, last, ?_, ?_, hlast, hafter⟩
      · simp only [List.cons_append, findFrom, Bool.false_eq_true, if_false, run_only,
          pass?_only_of_ne hother hspot]
        exact hfind
      · have hindex : later.index = spot.index + 1 := rfl
        rw [hfirst, hindex, List.length_cons]
        omega

/-- Cutting at a character gives the fields between its occurrences. -/
theorem piecesFrom_only {fuel : Nat} {spot : Spot} (hfuel : spot.after.length ≤ fuel) :
    (only c).piecesFrom fuel false spot =
      (Text.fieldsOf c spot.after).map fun field => some (String.ofList field) := by
  induction fuel generalizing spot with
  | zero =>
      have hempty : spot.after = [] := List.length_eq_zero_iff.mp (by omega)
      rw [piecesFrom, hempty]
      rfl
  | succ fuel ih =>
      by_cases hmem : c ∈ spot.after
      · obtain ⟨field, rest, hafter, hfield⟩ := List.eq_append_cons_of_mem hmem
        have huncaptured : ({ spot with captures := [] } : Spot).after = field ++ c :: rest := hafter
        obtain ⟨first, last, hfind, hfirst, hlast, hrest⟩ := findFrom_only hfield huncaptured
        rw [← hafter] at hfind
        have hlength : last.after.length ≤ fuel := by
          rw [hafter, List.length_append, List.length_cons] at hfuel
          rw [hrest]
          omega
        have hadvance : (last.index == first.index) = false := by
          rw [hlast]
          simp
        have hupTo : spot.upTo first = field := by
          rw [Spot.upTo, hfirst, hafter]
          simp
        rw [piecesFrom, hfind, hafter, Text.fieldsOf_append_cons hfield]
        simp only [hadvance, ih hlength, hrest, hupTo]
        rfl
      · have huncaptured : ({ spot with captures := [] } : Spot).after = spot.after := rfl
        rw [piecesFrom, findFrom_only_of_notMem hmem huncaptured, Text.fieldsOf_of_notMem hmem]
        rfl

theorem split_only (c : Char) (text : String) :
    (only c).split text = (Text.fieldsOf c text.toList).map fun field => some (String.ofList field) := by
  have hlength : text.toList.length ≤ 2 * text.length + 2 := by
    rw [String.length_toList]
    omega
  exact piecesFrom_only hlength

end Splitting

end Telemetry.Pattern
