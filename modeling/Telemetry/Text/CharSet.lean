/-!
Sets of characters given by a table of code points.

A Unicode property is stored as the sorted code points at which membership changes, so that a set
of thousands of characters stays a short table. `CharSet.mem` asks on which side of a change a
character lies.
-/

namespace Telemetry.Text

/-- A set of characters: a code point belongs to it when an odd number of `flips` are at most it. -/
structure CharSet where
  flips : Array Nat

namespace CharSet

/-- The number of entries of the sorted table that are at most `code`, given that the answer lies
between `low` and `high`. -/
def rank (flips : Array Nat) (code low high : Nat) : Nat :=
  if _h : low < high then
    let mid := (low + high) / 2
    if flips.getD mid 0 ≤ code then rank flips code (mid + 1) high else rank flips code low mid
  else low
termination_by high - low

def mem (set : CharSet) (c : Char) : Bool :=
  rank set.flips c.toNat 0 set.flips.size % 2 == 1

end CharSet

end Telemetry.Text
