import Telemetry.Pattern.Expr

/-!
Matching by trying the possibilities of a pattern in order.

A pattern is run at a spot of the text together with what is to happen after it. Running it gives
the first outcome, in the order that the pattern states, with which the rest succeeds.
-/

namespace Telemetry.Pattern

/-- A place in a text: what lies before it in reverse, what lies after it, how many characters lie
before it, and what the groups have captured so far, the latest capture first. -/
structure Spot where
  before : List Char
  after : List Char
  index : Nat
  captures : List (Nat × List Char)
deriving Repr

namespace Spot

def start (text : List Char) : Spot :=
  ⟨[], text, 0, []⟩

/-- The spot behind the next character. -/
def step? (spot : Spot) : Option Spot :=
  match spot.after with
  | c :: after => some { spot with before := c :: spot.before, after, index := spot.index + 1 }
  | [] => none

/-- The spot behind the next character if that passes a test. -/
def pass? (test : CharTest) (spot : Spot) : Option Spot :=
  match spot.after with
  | c :: after =>
    if test.holds c then some { spot with before := c :: spot.before, after, index := spot.index + 1 }
    else none
  | [] => none

/-- The spot `count` characters back, if there are so many. -/
def back? (count : Nat) (spot : Spot) : Option Spot :=
  if count ≤ spot.index then
    some { spot with
      before := spot.before.drop count
      after := (spot.before.take count).reverse ++ spot.after
      index := spot.index - count }
  else none

/-- The spots reached by up to `limit` characters that all pass a test, the farthest first. -/
def run (test : CharTest) : (limit : Nat) → (reached : List Spot) → Spot → List Spot
  | 0, reached, spot => spot :: reached
  | limit + 1, reached, spot =>
    match spot.pass? test with
    | some next => run test limit (spot :: reached) next
    | none => spot :: reached

/-- Is the character next to the spot, on either side, a word character? -/
def isWordSide (ascii : Bool) (side : List Char) : Bool :=
  match side with
  | c :: _ => Category.holds ascii .word c.toNat
  | [] => false

/-- Does an anchor hold here? In an empty text there is neither a word boundary nor a place without
one. -/
def holds (spot : Spot) : Anchor → Bool
  | .start => spot.before.isEmpty
  | .lineStart => spot.before.isEmpty || spot.before.head? == some '\n'
  | .finish => spot.after.isEmpty
  | .beforeLastBreak => spot.after.isEmpty || spot.after == ['\n']
  | .lineEnd => spot.after.isEmpty || spot.after.head? == some '\n'
  | .boundary ascii => isWordSide ascii spot.before != isWordSide ascii spot.after
  | .noBoundary ascii =>
    !(spot.before.isEmpty && spot.after.isEmpty) &&
      isWordSide ascii spot.before == isWordSide ascii spot.after

/-- What lies between this spot and a later one. -/
def upTo (spot later : Spot) : List Char :=
  spot.after.take (later.index - spot.index)

/-- The spot behind a repetition of a captured text, which must come next. -/
def repeated? (folding : Folding) : List Char → Spot → Option Spot
  | [], spot => some spot
  | expected :: rest, spot =>
    match spot.after, spot.step? with
    | c :: _, some next =>
      if folding.lower c.toNat = folding.lower expected.toNat then repeated? folding rest next else none
    | _, _ => none

end Spot

/-- What is to happen after a pattern has matched up to a spot. -/
abbrev Next := Spot → Option Spot

/-- How a pattern continues: given what is to happen after it, what happens at a spot. -/
abbrev Run := Next → Next

/-- The first success among spots. -/
def firstOf (next : Next) : List Spot → Option Spot
  | [] => none
  | spot :: spots =>
    match next spot with
    | some found => some found
    | none => firstOf next spots

def exactly (body : Run) : (count : Nat) → Run
  | 0, next, spot => next spot
  | count + 1, next, spot => body (exactly body count next) spot

/-- May a repetition begin once more? Not if the last one began here too, for it was empty. -/
def mayRepeat (room : Option Nat) (last : Option Nat) (spot : Spot) : Bool :=
  room != some 0 && last != some spot.index

/-- As many repetitions as possible before fewer. -/
def greedily (body : Run) : (fuel : Nat) → (room last : Option Nat) → Run
  | 0, _, _, next, spot => next spot
  | fuel + 1, room, last, next, spot =>
    if mayRepeat room last spot then
      match body (greedily body fuel (room.map (· - 1)) (some spot.index) next) spot with
      | some found => some found
      | none => next spot
    else next spot

/-- As few repetitions as possible before more. -/
def lazily (body : Run) : (fuel : Nat) → (room last : Option Nat) → Run
  | 0, _, _, next, spot => next spot
  | fuel + 1, room, last, next, spot =>
    match next spot with
    | some found => some found
    | none =>
      if mayRepeat room last spot then
        body (lazily body fuel (room.map (· - 1)) (some spot.index) next) spot
      else none

/-- Exactly `count` repetitions, each of them final. -/
def eachFinal (body : Run) : (count : Nat) → Spot → Option Spot
  | 0, spot => some spot
  | count + 1, spot =>
    match body some spot with
    | some reached => eachFinal body count reached
    | none => none

/-- As many repetitions as possible, each of them final. -/
def possessively (body : Run) : (fuel : Nat) → (room last : Option Nat) → Spot → Spot
  | 0, _, _, spot => spot
  | fuel + 1, room, last, spot =>
    if mayRepeat room last spot then
      match body some spot with
      | some reached => possessively body fuel (room.map (· - 1)) (some spot.index) reached
      | none => spot
    else spot

/-- A repetition. Beyond the least count every repetition but one begins farther on than the one
before it, so the characters left bound their number. -/
def repeated (least : Nat) (most : Option Nat) (greed : Greed) (body : Run) : Run := fun next =>
  let room := most.map (· - least)
  match greed with
  | .greedy => exactly body least fun spot => greedily body (spot.after.length + 1) room none next spot
  | .lazy => exactly body least fun spot => lazily body (spot.after.length + 1) room none next spot
  | .possessive => fun spot =>
    match eachFinal body least spot with
    | some spot => next (possessively body (spot.after.length + 1) room none spot)
    | none => none

/-- A greedy repetition of a test of one character: the spots within reach, the farthest first. -/
def repeatedOne (least : Nat) (most : Option Nat) (test : CharTest) : Run := fun next spot =>
  let limit := match most with
    | some most => min most spot.after.length
    | none => spot.after.length
  firstOf next ((Spot.run test limit [] spot).takeWhile (spot.index + least ≤ ·.index))

def Expr.run : Expr → Run
  | empty, next, spot => next spot
  | one test, next, spot =>
    match spot.pass? test with
    | some reached => next reached
    | none => none
  | anchor place, next, spot => if spot.holds place then next spot else none
  | seq first second, next, spot => first.run (second.run next) spot
  | alt left right, next, spot =>
    match left.run next spot with
    | some found => some found
    | none => right.run next spot
  | group index body, next, spot =>
    body.run (fun reached => next { reached with
      captures := (index, spot.upTo reached) :: reached.captures }) spot
  | loop least most .greedy (one test), next, spot => repeatedOne least most test next spot
  | loop least most greed body, next, spot => repeated least most greed body.run next spot
  | atomic body, next, spot =>
    match body.run some spot with
    | some reached => next reached
    | none => none
  | ahead false body, next, spot =>
    match body.run some spot with
    | some reached => next { spot with captures := reached.captures }
    | none => none
  | ahead true body, next, spot =>
    match body.run some spot with
    | some _ => none
    | none => next spot
  | behind negated width body, next, spot =>
    match (spot.back? width).bind (body.run some), negated with
    | some reached, false => next { spot with captures := reached.captures }
    | none, true => next spot
    | _, _ => none
  | back index folding, next, spot =>
    match spot.captures.lookup index with
    | some text =>
      match spot.repeated? folding text with
      | some reached => next reached
      | none => none
    | none => none
  | given index yes no, next, spot =>
    match spot.captures.lookup index with
    | some _ => yes.run next spot
    | none => no.run next spot

end Telemetry.Pattern
