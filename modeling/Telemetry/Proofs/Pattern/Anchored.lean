import Mathlib.Data.List.TakeWhile
import Telemetry.Pattern

namespace Telemetry.Pattern

/-- Does a pattern, given by its text, occur in a text? -/
def Occurs (source text : String) : Prop :=
  ∃ pattern, compile source = .ok pattern ∧ pattern.occursIn text = true

/-- The pattern for one character or more from the beginning to the end that all pass a test. -/
def rowOf (test : CharTest) : Expr :=
  .seq (.anchor .start) (.seq (.loop 1 none .greedy (.one test)) (.anchor .beforeLastBreak))

/-- Is the text a row of characters that pass a test, up to a line feed at its end? -/
def IsRowOf (accepted : Char → Prop) (text : String) : Prop :=
  ∃ row : List Char, row ≠ [] ∧ (∀ c ∈ row, accepted c) ∧
    (text.toList = row ∨ text.toList = row ++ ['\n'])

theorem IsRowOf.ne_empty {accepted : Char → Prop} {text : String} (hrow : IsRowOf accepted text) :
    text ≠ "" := by
  rintro rfl
  obtain ⟨row, hrow, -, htext | htext⟩ := hrow
  · exact hrow htext.symm
  · exact List.cons_ne_nil _ _ (List.append_eq_nil_iff.mp htext.symm).2

variable {test : CharTest}

theorem firstOf_isSome_iff {next : Next} {spots : List Spot} :
    (firstOf next spots).isSome = true ↔ ∃ spot ∈ spots, (next spot).isSome = true := by
  induction spots with
  | nil => simp [firstOf]
  | cons spot spots ih =>
      rw [firstOf]
      cases hnext : next spot <;> simp [hnext, ih]

section Reach

variable {spot : Spot} {limit : Nat} {c : Char} {after : List Char}

def past (spot : Spot) (c : Char) (after : List Char) : Spot :=
  { spot with before := c :: spot.before, after, index := spot.index + 1 }

theorem run_append (limit : Nat) (reached : List Spot) (spot : Spot) :
    Spot.run test limit reached spot = Spot.run test limit [] spot ++ reached := by
  induction limit generalizing reached spot with
  | zero => rfl
  | succ limit ih =>
      rw [Spot.run, Spot.run]
      cases spot.pass? test with
      | none => rfl
      | some next =>
          dsimp only
          rw [ih (spot :: reached), ih [spot], List.append_assoc, List.singleton_append]

theorem run_of_pass (hafter : spot.after = c :: after) (hc : test.holds c = true) :
    Spot.run test (limit + 1) [] spot = Spot.run test limit [] (past spot c after) ++ [spot] := by
  have hpass : spot.pass? test = some (past spot c after) := by
    rw [Spot.pass?, hafter]
    exact if_pos hc
  rw [Spot.run, hpass]
  exact run_append limit [spot] _

theorem run_of_stop (hstop : ∀ c after, spot.after = c :: after → test.holds c = false) :
    Spot.run test limit [] spot = [spot] := by
  have hpass : spot.pass? test = none := by
    rw [Spot.pass?]
    split
    · rename_i c after hafter
      rw [hstop c after hafter]
      rfl
    · rfl
  cases limit with
  | zero => rfl
  | succ limit => rw [Spot.run, hpass]

theorem index_le_of_mem_run {other : Spot} (hmem : other ∈ Spot.run test limit [] spot) :
    spot.index ≤ other.index := by
  induction limit generalizing spot with
  | zero =>
      obtain rfl := List.mem_singleton.mp hmem
      exact Nat.le_refl _
  | succ limit ih =>
      by_cases hpass : ∃ c after, spot.after = c :: after ∧ test.holds c = true
      · obtain ⟨c, after, hafter, hc⟩ := hpass
        rw [run_of_pass hafter hc, List.mem_append, List.mem_singleton] at hmem
        rcases hmem with hdeeper | rfl
        · exact Nat.le_of_succ_le (ih hdeeper)
        · exact Nat.le_refl _
      · have hstop : ∀ c after, spot.after = c :: after → test.holds c = false := by
          simpa using hpass
        rw [run_of_stop hstop, List.mem_singleton] at hmem
        rw [hmem]

theorem exists_front_cons_iff {α : Type} {accepted : α → Prop} {holds : List α → Prop} {first : α}
    {rest : List α} :
    (∃ front back, first :: rest = front ++ back ∧ (∀ x ∈ front, accepted x) ∧ holds back) ↔
      holds (first :: rest) ∨ accepted first ∧
        ∃ front back, rest = front ++ back ∧ (∀ x ∈ front, accepted x) ∧ holds back := by
  constructor
  · rintro ⟨front, back, hsplit, hfront, hback⟩
    rcases List.cons_eq_append_iff.mp hsplit with ⟨rfl, rfl⟩ | ⟨front, rfl, rfl⟩
    · exact .inl hback
    · obtain ⟨hfirst, hfront⟩ := List.forall_mem_cons.mp hfront
      exact .inr ⟨hfirst, front, back, rfl, hfront, hback⟩
  · rintro (hall | ⟨hfirst, front, back, rfl, hfront, hback⟩)
    · exact ⟨[], _, rfl, nofun, hall⟩
    · exact ⟨first :: front, back, rfl, List.forall_mem_cons.mpr ⟨hfirst, hfront⟩, hback⟩

theorem exists_mem_run_iff (hlimit : spot.after.length ≤ limit) (holds : List Char → Prop) :
    (∃ other ∈ Spot.run test limit [] spot, holds other.after) ↔
      ∃ front back, spot.after = front ++ back ∧ (∀ c ∈ front, test.holds c = true) ∧ holds back := by
  induction hafter : spot.after generalizing spot limit with
  | nil =>
      have hsplit : ∀ front back : List Char, [] = front ++ back ↔ front = [] ∧ back = [] :=
        fun front back => List.nil_eq_append_iff
      rw [run_of_stop (by simp [hafter])]
      simp only [List.mem_singleton, exists_eq_left, hafter, hsplit, and_assoc, exists_and_left]
      simp
  | cons c after ih =>
      rw [hafter] at hlimit
      obtain ⟨limit, rfl⟩ := Nat.exists_eq_add_of_lt (Nat.lt_of_lt_of_le (Nat.zero_lt_succ _) hlimit)
      rw [exists_front_cons_iff]
      cases hc : test.holds c with
      | false =>
          rw [run_of_stop (by simp [hafter, hc])]
          simp [hafter]
      | true =>
          have hroom : (past spot c after).after.length ≤ limit := by
            rw [past]
            simpa using hlimit
          rw [Nat.zero_add, run_of_pass hafter hc, ← ih hroom rfl]
          simp [hafter, or_and_right, exists_or, or_comm]

end Reach

section Rows

theorem not_occurs_later {rest : Expr} {spot : Spot} (hbefore : spot.before ≠ []) (after : List Char) :
    findFrom (.seq (.anchor .start) rest) false spot after = none := by
  have hrun : ∀ spot : Spot, spot.before ≠ [] → ∀ next,
      (Expr.seq (.anchor .start) rest).run next spot = none := by
    intro spot hbefore next
    rw [Expr.run, Expr.run, Spot.holds]
    exact if_neg (by simpa using hbefore)
  induction after generalizing spot with
  | nil => rw [findFrom, hrun spot hbefore, Option.map_none]
  | cons c after ih =>
      rw [findFrom, hrun spot hbefore]
      exact ih (List.cons_ne_nil _ _)

theorem findFrom_start_isSome {rest : Expr} (cs : List Char) :
    (findFrom (.seq (.anchor .start) rest) false (Spot.start cs) cs).isSome =
      (rest.run some (Spot.start cs)).isSome := by
  have hnext : behind none = some := by
    funext spot
    exact if_neg nofun
  have hrun : (Expr.seq (.anchor .start) rest).run some (Spot.start cs) = rest.run some (Spot.start cs) := by
    rw [Expr.run, Expr.run]
    exact if_pos rfl
  cases cs with
  | nil =>
      rw [findFrom, if_neg Bool.false_ne_true, hnext, hrun, Option.isSome_map]
  | cons c cs =>
      rw [findFrom, if_neg Bool.false_ne_true, hnext, hrun]
      cases rest.run some (Spot.start (c :: cs)) with
      | some reached => rfl
      | none =>
          dsimp only
          rw [not_occurs_later (List.cons_ne_nil _ _)]
          rfl

theorem run_row_isSome_iff {cs : List Char} :
    ((Expr.seq (.loop 1 none .greedy (.one test)) (.anchor .beforeLastBreak)).run some
        (Spot.start cs)).isSome = true ↔
      ∃ row, row ≠ [] ∧ (∀ c ∈ row, test.holds c = true) ∧ (cs = row ∨ cs = row ++ ['\n']) := by
  have hlast : ∀ spot : Spot, ((Expr.anchor .beforeLastBreak).run some spot).isSome = true ↔
      spot.after = [] ∨ spot.after = ['\n'] := by
    intro spot
    rw [Expr.run, Spot.holds]
    cases hafter : spot.after <;> simp
  rw [Expr.run, Expr.run, repeatedOne, firstOf_isSome_iff]
  simp only [hlast]
  cases cs with
  | nil =>
      rw [run_of_stop (by simp [Spot.start])]
      simp [Spot.start]
  | cons c cs =>
      cases hc : test.holds c with
      | false =>
          rw [run_of_stop (by simp [Spot.start, hc])]
          refine iff_of_false (by simp) ?_
          rintro ⟨row, hrow, hpass, hcs⟩
          obtain ⟨first, row, rfl⟩ := List.exists_cons_of_ne_nil hrow
          obtain rfl : c = first := by
            rcases hcs with hcs | hcs <;> exact (List.cons.inj hcs).1
          rw [hpass c List.mem_cons_self] at hc
          contradiction
      | true =>
          -- of the spots within reach only the first has no character before it
          have hdeeper : ((Spot.run test (cs.length + 1) [] (Spot.start (c :: cs))).takeWhile
              ((Spot.start (c :: cs)).index + 1 ≤ ·.index)) =
                Spot.run test cs.length [] (past (Spot.start (c :: cs)) c cs) := by
            rw [run_of_pass rfl hc, List.takeWhile_append_of_pos, List.takeWhile_cons_of_neg,
              List.append_nil]
            · simp
            · exact fun other hother => decide_eq_true (index_le_of_mem_run hother)
          have hroom : (past (Spot.start (c :: cs)) c cs).after.length ≤ cs.length := Nat.le_refl _
          refine (hdeeper ▸ exists_mem_run_iff hroom fun back => back = [] ∨ back = ['\n']).trans ?_
          constructor
          · rintro ⟨front, back, hsplit, hfront, hback⟩
            obtain rfl : cs = front ++ back := hsplit
            refine ⟨c :: front, List.cons_ne_nil _ _, List.forall_mem_cons.mpr ⟨hc, hfront⟩, ?_⟩
            rcases hback with rfl | rfl
            · exact .inl (by simp)
            · exact .inr rfl
          · rintro ⟨row, hrow, hpass, hcs⟩
            obtain ⟨first, row, rfl⟩ := List.exists_cons_of_ne_nil hrow
            have hrest := (List.forall_mem_cons.mp hpass).2
            rcases hcs with hcs | hcs
            · exact ⟨row, [], by simpa [past] using (List.cons.inj hcs).2, hrest, .inl rfl⟩
            · exact ⟨row, ['\n'], by simpa [past] using (List.cons.inj hcs).2, hrest, .inr rfl⟩

theorem occursIn_rowOf_iff {source text : String} {groups : Nat} :
    (Pattern.mk source (rowOf test) groups).occursIn text = true ↔
      IsRowOf (fun c => test.holds c = true) text := by
  rw [occursIn, rowOf, findFrom_start_isSome, run_row_isSome_iff, IsRowOf]

end Rows

end Telemetry.Pattern
