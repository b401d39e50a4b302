import Telemetry.Pattern.Matcher
import Telemetry.Pattern.Reader

namespace Telemetry

/-- A pattern that has been read: its text, its structure and its number of groups. -/
structure Pattern where
  source : String
  expr : Pattern.Expr
  groups : Nat
deriving DecidableEq, Repr

namespace Pattern

def compile (source : String) : Except Fault Pattern :=
  match readPattern source.toList with
  | .ok (expr, groups) => .ok ⟨source, expr, groups⟩
  | .error fault => .error fault

/-- What the groups of a pattern captured, in order; nothing for a group that took no part. -/
def captured (pattern : Pattern) (spot : Spot) : List (Option String) :=
  (List.range pattern.groups).map fun index =>
    (spot.captures.lookup (index + 1)).map String.ofList

def atEnd (spot : Spot) : Option Spot :=
  if spot.after.isEmpty then some spot else none

/-- What the groups capture when the pattern matches the whole text. -/
def fullMatch? (pattern : Pattern) (text : String) : Option (List (Option String)) :=
  (pattern.expr.run atEnd (Spot.start text.toList)).map pattern.captured

/-- Accepts a spot, unless it must lie behind another one and does not. -/
def behind (least : Option Nat) (spot : Spot) : Option Spot :=
  if least = some spot.index then none else some spot

/-- The first occurrence at or behind a spot: where it begins and where it ends. With `advance` an
empty one at the spot itself does not count. -/
def findFrom (expr : Expr) (advance : Bool) (spot : Spot) : (after : List Char) → Option (Spot × Spot)
  | [] => (expr.run (behind (if advance then some spot.index else none)) spot).map (spot, ·)
  | c :: after =>
    match expr.run (behind (if advance then some spot.index else none)) spot with
    | some reached => some (spot, reached)
    | none =>
      findFrom expr false { spot with before := c :: spot.before, after, index := spot.index + 1 } after

def occursIn (pattern : Pattern) (text : String) : Bool :=
  (findFrom pattern.expr false (Spot.start text.toList) text.toList).isSome

/-- The pieces of a text from a spot on, cut at the occurrences, with the captures of each
occurrence between them. After an empty occurrence the next one must lie farther on, so that two
rounds take at least one character. -/
def piecesFrom (pattern : Pattern) : (fuel : Nat) → (advance : Bool) → Spot → List (Option String)
  | 0, _, spot => [some (String.ofList spot.after)]
  | fuel + 1, advance, spot =>
    match findFrom pattern.expr advance { spot with captures := [] } spot.after with
    | none => [some (String.ofList spot.after)]
    | some (first, last) =>
      some (String.ofList (spot.upTo first)) :: pattern.captured last ++
        piecesFrom pattern fuel (last.index == first.index) last

/-- The pieces of a text between the occurrences of the pattern, with the captures of each
occurrence between them. -/
def split (pattern : Pattern) (text : String) : List (Option String) :=
  piecesFrom pattern (2 * text.length + 2) false (Spot.start text.toList)

end Pattern

end Telemetry
