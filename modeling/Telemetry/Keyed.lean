namespace Telemetry

/-- Values by key, in insertion order. -/
abbrev Keyed (κ ν : Type) := List (κ × ν)

namespace Keyed

variable {κ ν : Type} [BEq κ]

def keys (entries : Keyed κ ν) : List κ :=
  entries.map Prod.fst

def has (entries : Keyed κ ν) (key : κ) : Bool :=
  (entries.lookup key).isSome

/-- Gives a key a value. A key that is there already keeps its place. -/
def put (key : κ) (value : ν) : Keyed κ ν → Keyed κ ν
  | [] => [(key, value)]
  | entry :: entries =>
    if entry.1 == key then (entry.1, value) :: entries else entry :: put key value entries

/-- Applies a function to the value of a key, if there is one. -/
def adjust (key : κ) (f : ν → ν) (entries : Keyed κ ν) : Keyed κ ν :=
  entries.map fun entry => if entry.1 == key then (entry.1, f entry.2) else entry

/-- The entries given one after another; a later value replaces an earlier one. -/
def ofList (entries : List (κ × ν)) : Keyed κ ν :=
  entries.foldl (fun all entry => put entry.1 entry.2 all) []

theorem lookup_put_self [EquivBEq κ] (key : κ) (value : ν) (entries : Keyed κ ν) :
    (put key value entries).lookup key = some value := by
  induction entries with
  | nil => simp [put]
  | cons entry entries ih =>
    unfold put
    split
    · rename_i same
      have same' : (key == entry.1) = true := BEq.symm same
      rw [List.lookup_cons, same']
    · rename_i differs
      have differs' : (key == entry.1) = false := by
        rw [BEq.comm]
        simpa using differs
      rw [List.lookup_cons, differs', ih]

theorem lookup_put_of_ne [EquivBEq κ] {key other : κ} (h : (other == key) = false) (value : ν)
    (entries : Keyed κ ν) : (put key value entries).lookup other = entries.lookup other := by
  induction entries with
  | nil => rw [put, List.lookup_cons, h]
  | cons entry entries ih =>
    unfold put
    split
    · rename_i same
      have differs : (other == entry.1) = false := by
        rw [BEq.congr_right same]
        exact h
      rw [List.lookup_cons, List.lookup_cons, differs]
    · rw [List.lookup_cons, List.lookup_cons, ih]

theorem lookup_put [LawfulBEq κ] (key other : κ) (value : ν) (entries : Keyed κ ν) :
    (put key value entries).lookup other =
      if other == key then some value else entries.lookup other := by
  cases same : other == key with
  | true =>
    rw [eq_of_beq same, if_pos rfl]
    exact lookup_put_self key value entries
  | false => exact lookup_put_of_ne same value entries

theorem put_eq_self [EquivBEq κ] {key : κ} {value : ν} {entries : Keyed κ ν}
    (found : entries.lookup key = some value) : put key value entries = entries := by
  induction entries with
  | nil => simp at found
  | cons entry entries ih =>
    rw [List.lookup_cons] at found
    unfold put
    split
    · rename_i same
      have same' : (key == entry.1) = true := BEq.symm same
      rw [same'] at found
      simp only [Option.some.injEq] at found
      rw [← found]
    · rename_i differs
      have differs' : (key == entry.1) = false := by
        rw [BEq.comm]
        simpa using differs
      rw [differs'] at found
      rw [ih found]

theorem keys_put [EquivBEq κ] (key : κ) (value : ν) (entries : Keyed κ ν) :
    keys (put key value entries) =
      if has entries key then keys entries else keys entries ++ [key] := by
  induction entries with
  | nil => simp [put, keys, has]
  | cons entry entries ih =>
    unfold put
    split
    · rename_i same
      have same' : (key == entry.1) = true := BEq.symm same
      have found : List.lookup key (entry :: entries) = some entry.2 := by
        rw [List.lookup_cons, same']
      simp [keys, has, found]
    · rename_i differs
      have differs' : (key == entry.1) = false := by
        rw [BEq.comm]
        simpa using differs
      have further : List.lookup key (entry :: entries) = List.lookup key entries := by
        rw [List.lookup_cons, differs']
      simp only [keys, has, List.map_cons, further] at ih ⊢
      rw [ih]
      by_cases found : (List.lookup key entries).isSome = true <;> simp [found]

theorem keys_put_of_lookup [EquivBEq κ] {key : κ} {old : ν} {entries : Keyed κ ν}
    (found : entries.lookup key = some old) (value : ν) :
    keys (put key value entries) = keys entries := by
  rw [keys_put, has, found]
  rfl

end Keyed

end Telemetry
