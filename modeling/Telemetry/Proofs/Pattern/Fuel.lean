import Telemetry.Pattern.Reader

/-!
Reading a pattern has fuel enough. Every element of a sequence but its end takes a token, so that a
bracket, its alternatives and their first sequence may use a unit of fuel each for the token that opens
them.
-/

namespace Telemetry.Pattern

variable {α β : Type} {progress : Progress}

namespace Reader

theorem run_bind_congr {reader reader' : Reader α} {next next' : α → Reader β}
    (hreader : reader.run progress = reader'.run progress)
    (hnext : ∀ step, reader.run progress = .ok step →
      (next step.value).run step.after = (next' step.value).run step.after) :
    (reader >>= next).run progress = (reader' >>= next').run progress := by
  change (Reader.bind reader next).run progress = (Reader.bind reader' next').run progress
  simp only [Reader.bind, ← hreader]
  cases hrun : reader.run progress with
  | error fault => rfl
  | ok step => simp only [hnext step hrun]

theorem exists_of_run_bind {reader : Reader α} {next : α → Reader β} {step : Step β progress}
    (hrun : (reader >>= next).run progress = .ok step) :
    ∃ first last, reader.run progress = .ok first ∧ (next first.value).run first.after = .ok last ∧
      step.value = last.value ∧ step.after = last.after := by
  change (Reader.bind reader next).run progress = .ok step at hrun
  simp only [Reader.bind] at hrun
  cases hfirst : reader.run progress with
  | error fault => simp [hfirst] at hrun
  | ok first =>
      rw [hfirst] at hrun
      dsimp only at hrun
      cases hlast : (next first.value).run first.after with
      | error fault => simp [hlast] at hrun
      | ok last =>
          rw [hlast] at hrun
          cases hrun
          exact ⟨first, last, rfl, hlast, rfl, rfl⟩

end Reader

section Taking

theorem length_lt_of_skip {step : Step Unit progress} (hrun : (skip 1).run progress = .ok step)
    (htokens : progress.tokens ≠ []) : step.after.tokens.length < progress.tokens.length := by
  have hpos : 0 < progress.tokens.length := List.length_pos_iff.mpr htokens
  simp only [skip] at hrun
  split at hrun
  · contradiction
  · cases hrun
    rw [List.length_drop]
    omega

theorem length_lt_of_accept {c : Char} {step : Step Bool progress}
    (hrun : (accept c).run progress = .ok step) (hvalue : step.value = true) :
    step.after.tokens.length < progress.tokens.length := by
  obtain ⟨peeked, last, hpeek, hlast, hstep, hafter⟩ := Reader.exists_of_run_bind hrun
  cases hpeek
  dsimp only at hlast
  split at hlast
  · rename_i hhead
    obtain ⟨skipped, finished, hskip, hfinish, -, hlater⟩ := Reader.exists_of_run_bind hlast
    cases hfinish
    have htokens : progress.tokens ≠ [] := by
      rintro hnil
      rw [hnil] at hhead
      contradiction
    rw [hafter, hlater]
    exact length_lt_of_skip hskip htokens
  · cases hlast
    rw [hvalue] at hstep
    contradiction

theorem length_lt_of_need {step : Step Token progress} (hrun : need.run progress = .ok step) :
    step.after.tokens.length < progress.tokens.length := by
  obtain ⟨taken, last, hnext, hlast, -, hafter⟩ := Reader.exists_of_run_bind hrun
  obtain ⟨peeked, rest, hpeek, hrest, htaken, htakenAfter⟩ := Reader.exists_of_run_bind hnext
  cases hpeek
  obtain ⟨skipped, finished, hskip, hfinish, hvalue, hlater⟩ := Reader.exists_of_run_bind hrest
  cases hfinish
  have htokens : progress.tokens ≠ [] := by
    intro hnil
    rw [htaken, hvalue, hnil] at hlast
    contradiction
  have hlt : taken.after.tokens.length < progress.tokens.length := by
    rw [htakenAfter, hlater]
    exact length_lt_of_skip hskip htokens
  rw [hafter]
  exact Nat.lt_of_le_of_lt last.le hlt

theorem length_lt_of_readElement {flags : Flags} {first : Bool} {step : Step Element progress}
    (hrun : (readElement flags first).run progress = .ok step) (hvalue : step.value ≠ .finish) :
    step.after.tokens.length < progress.tokens.length := by
  obtain ⟨peeked, last, hpeek, hlast, hstep, hafter⟩ := Reader.exists_of_run_bind hrun
  cases hpeek
  dsimp only at hlast
  split at hlast
  iterate 3
    cases hlast
    contradiction
  rename_i token _ _ hhead
  obtain ⟨skipped, finished, hskip, -, -, hlater⟩ := Reader.exists_of_run_bind hlast
  have htokens : progress.tokens ≠ [] := by
    rintro hnil
    rw [hnil] at hhead
    contradiction
  rw [hafter, hlater]
  exact Nat.lt_of_le_of_lt finished.le (length_lt_of_skip hskip htokens)

end Taking

theorem readSet_covered {flags : Flags} {fuel fuel' : Nat} {items : List SetItem}
    (hfuel : progress.tokens.length < min fuel fuel') :
    (readSet flags fuel items).run progress = (readSet flags fuel' items).run progress := by
  induction fuel generalizing fuel' items progress with
  | zero => omega
  | succ fuel ih =>
      obtain ⟨fuel', rfl⟩ := Nat.exists_eq_succ_of_ne_zero (n := fuel') (by omega)
      rw [readSet, readSet]
      refine Reader.run_bind_congr rfl fun token htoken => ?_
      have htaken := length_lt_of_need htoken
      split
      · rfl
      refine Reader.run_bind_congr rfl fun first _ => ?_
      have hfirst := first.le
      refine Reader.run_bind_congr rfl fun dash _ => ?_
      have hdash := dash.le
      dsimp only
      split
      · refine Reader.run_bind_congr rfl fun token _ => ?_
        have htoken := token.le
        split
        · rfl
        refine Reader.run_bind_congr rfl fun second _ => ?_
        have hsecond := second.le
        split
        · split
          · rfl
          · exact ih (by omega)
        · rfl
      · exact ih (by omega)

/-- Reading comes to the same with either fuel, as long as both of them cover the tokens left. -/
structure Covered (fuel fuel' : Nat) : Prop where
  alternatives : ∀ flags top progress, 3 * progress.tokens.length + 2 ≤ min fuel fuel' →
    (readAlternatives fuel flags top).run progress = (readAlternatives fuel' flags top).run progress
  more : ∀ flags top left progress, 3 * progress.tokens.length + 1 ≤ min fuel fuel' →
    (readMore fuel flags top left).run progress = (readMore fuel' flags top left).run progress
  sequence : ∀ flags top items progress, 3 * progress.tokens.length + 1 ≤ min fuel fuel' →
    (readSequence fuel flags top items).run progress = (readSequence fuel' flags top items).run progress
  bracket : ∀ flags opening progress, 3 * progress.tokens.length + 3 ≤ min fuel fuel' →
    (readBracket fuel flags opening).run progress = (readBracket fuel' flags opening).run progress

namespace Covered

variable {fuel fuel' : Nat}

theorem of_zero (hzero : min fuel fuel' = 0) : Covered fuel fuel' where
  alternatives _ _ _ hfuel := by omega
  more _ _ _ _ hfuel := by omega
  sequence _ _ _ _ hfuel := by omega
  bracket _ _ _ hfuel := by omega

section Step

variable (ih : Covered fuel fuel') (flags : Flags)
include ih

theorem readMore_succ (top : Bool) (left : Expr)
    (hfuel : 3 * progress.tokens.length + 1 ≤ min fuel fuel' + 1) :
    (readMore (fuel + 1) flags top left).run progress =
      (readMore (fuel' + 1) flags top left).run progress := by
  rw [readMore, readMore]
  refine Reader.run_bind_congr rfl fun bar hbar => ?_
  cases hvalue : bar.value with
  | false => rfl
  | true =>
      have hlt := length_lt_of_accept hbar hvalue
      refine Reader.run_bind_congr rfl fun state _ => ?_
      have hstate := state.le
      refine Reader.run_bind_congr (ih.sequence _ _ _ _ (by omega)) fun right _ => ?_
      have hright := right.le
      exact Reader.run_bind_congr (ih.more _ _ _ _ (by omega)) fun _ _ => rfl

theorem readSequence_succ (top : Bool) (items : List Item)
    (hfuel : 3 * progress.tokens.length + 1 ≤ min fuel fuel' + 1) :
    (readSequence (fuel + 1) flags top items).run progress =
      (readSequence (fuel' + 1) flags top items).run progress := by
  rw [readSequence, readSequence]
  refine Reader.run_bind_congr rfl fun element helement => ?_
  have hlt := length_lt_of_readElement helement
  cases hvalue : element.value with
  | finish => rfl
  | nothing flags =>
      have := hlt (by simp [hvalue])
      exact ih.sequence _ _ _ _ (by omega)
  | item item =>
      have := hlt (by simp [hvalue])
      exact ih.sequence _ _ _ _ (by omega)
  | repetition counts =>
      have := hlt (by simp [hvalue])
      refine Reader.run_bind_congr rfl fun repeated _ => ?_
      have := repeated.le
      exact ih.sequence _ _ _ _ (by omega)
  | opening opening =>
      have := hlt (by simp [hvalue])
      refine Reader.run_bind_congr (ih.bracket _ _ _ (by omega)) fun item _ => ?_
      have := item.le
      exact ih.sequence _ _ _ _ (by omega)

theorem readBracket_succ (opening : Opening)
    (hfuel : 3 * progress.tokens.length + 3 ≤ min fuel fuel' + 1) :
    (readBracket (fuel + 1) flags opening).run progress =
      (readBracket (fuel' + 1) flags opening).run progress := by
  cases opening with
  | captured name =>
      rw [readBracket, readBracket]
      refine Reader.run_bind_congr rfl fun index _ => ?_
      have := index.le
      exact Reader.run_bind_congr (ih.alternatives _ _ _ (by omega)) fun _ _ => rfl
  | inner flags meaning =>
      rw [readBracket, readBracket]
      exact Reader.run_bind_congr (ih.alternatives _ _ _ (by omega)) fun _ _ => rfl
  | behind negated =>
      rw [readBracket, readBracket]
      refine Reader.run_bind_congr rfl fun state _ => ?_
      refine Reader.run_bind_congr rfl fun count _ => ?_
      refine Reader.run_bind_congr rfl fun updated _ => ?_
      have := state.le
      have := count.le
      have := updated.le
      exact Reader.run_bind_congr (ih.alternatives _ _ _ (by omega)) fun _ _ => rfl
  | given index =>
      rw [readBracket, readBracket]
      refine Reader.run_bind_congr (ih.sequence _ _ _ _ (by omega)) fun yes _ => ?_
      have hyes := yes.le
      refine Reader.run_bind_congr rfl fun bar _ => ?_
      have hbar := bar.le
      dsimp only
      split
      · exact Reader.run_bind_congr (ih.sequence _ _ _ _ (by omega)) fun _ _ => rfl
      · rfl

end Step

theorem succ (ih : Covered fuel fuel') : Covered (fuel + 1) (fuel' + 1) where
  alternatives flags top progress hfuel := by
    rw [readAlternatives, readAlternatives]
    refine Reader.run_bind_congr (ih.sequence _ _ _ _ (by omega)) fun first _ => ?_
    have := first.le
    exact ih.more _ _ _ _ (by omega)
  more flags top left progress hfuel := ih.readMore_succ flags top left (by omega)
  sequence flags top items progress hfuel := ih.readSequence_succ flags top items (by omega)
  bracket flags opening progress hfuel := ih.readBracket_succ flags opening (by omega)

end Covered

theorem covered (fuel fuel' : Nat) : Covered fuel fuel' := by
  induction fuel generalizing fuel' with
  | zero => exact .of_zero (by omega)
  | succ fuel ih =>
      cases fuel' with
      | zero => exact .of_zero (by omega)
      | succ fuel' => exact (ih fuel').succ

/-- More fuel than a pattern is read with would read nothing else. -/
theorem readTokens_eq_readPattern {fuel : Nat} {text : List Char}
    (hfuel : 3 * (tokens text).length + 2 ≤ fuel) :
    readTokens fuel (tokens text) = readPattern text := by
  have hrun := (covered fuel (3 * (tokens text).length + 2)).alternatives .none true
    (.start (tokens text)) (Nat.le_min.mpr ⟨hfuel, Nat.le_refl _⟩)
  rw [readPattern, readTokens, readTokens, hrun]

end Telemetry.Pattern
