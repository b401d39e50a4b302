import Telemetry.Pattern.CharTest

namespace Telemetry.Pattern

/-- A condition on a place between two characters. -/
inductive Anchor where
  | start
  | lineStart
  | finish
  | beforeLastBreak
  | lineEnd
  | boundary (ascii : Bool)
  | noBoundary (ascii : Bool)
deriving DecidableEq, Repr

/-- In which order a repetition tries its counts. A possessive one never gives anything back. -/
inductive Greed where
  | greedy
  | lazy
  | possessive
deriving DecidableEq, Repr

inductive Expr where
  | empty
  | one (test : CharTest)
  | anchor (anchor : Anchor)
  | seq (first second : Expr)
  | alt (left right : Expr)
  | group (index : Nat) (body : Expr)
  | loop (least : Nat) (most : Option Nat) (greed : Greed) (body : Expr)
  | atomic (body : Expr)
  | ahead (negated : Bool) (body : Expr)
  | behind (negated : Bool) (width : Nat) (body : Expr)
  | back (index : Nat) (folding : Folding)
  | given (index : Nat) (yes no : Expr)
deriving DecidableEq, Repr

/-- The least and the greatest number of characters that a pattern can match. -/
structure Width where
  low : Nat
  high : Nat
deriving DecidableEq, Repr

namespace Width

/-- Widths are counted up to here. -/
def limit : Nat := Nat.pow 2 64

/-- A width within the limit. -/
def capped (low high : Nat) : Width :=
  ⟨min low limit, min high limit⟩

end Width

/-- The width of a pattern, given the widths of the groups it refers back to. -/
def Expr.width (groups : Nat → Width) : Expr → Width
  | empty => ⟨0, 0⟩
  | one _ => ⟨1, 1⟩
  | anchor _ => ⟨0, 0⟩
  | seq first second =>
    let a := first.width groups
    let b := second.width groups
    .capped (a.low + b.low) (a.high + b.high)
  | alt left right =>
    let a := left.width groups
    let b := right.width groups
    ⟨min a.low b.low, max a.high b.high⟩
  | group _ body => body.width groups
  | loop least most _ body =>
    let a := body.width groups
    match most with
    | some most => .capped (a.low * least) (a.high * most)
    | none => .capped (a.low * least) (if a.high = 0 then 0 else Width.limit)
  | atomic body => body.width groups
  | ahead _ _ => ⟨0, 0⟩
  | behind _ _ _ => ⟨0, 0⟩
  | back index _ => groups index
  | given _ yes no =>
    let a := yes.width groups
    let b := no.width groups
    ⟨min a.low b.low, max a.high b.high⟩

/-- Is there a repetition anywhere in the pattern? -/
def Expr.hasLoop : Expr → Bool
  | empty | one _ | anchor _ | back _ _ => false
  | seq a b | alt a b | given _ a b => a.hasLoop || b.hasLoop
  | group _ body | atomic body | ahead _ body | behind _ _ body => body.hasLoop
  | loop .. => true

/-- Does every look behind have one fixed width, and its own? -/
def Expr.looksFixed (groups : Nat → Width) : Expr → Bool
  | empty | one _ | anchor _ | back _ _ => true
  | seq a b | alt a b | given _ a b => a.looksFixed groups && b.looksFixed groups
  | group _ body | atomic body | ahead _ body | loop _ _ _ body => body.looksFixed groups
  | behind _ width body =>
    body.width groups == ⟨width, width⟩ && width < Nat.pow 2 32 && body.looksFixed groups

end Telemetry.Pattern
