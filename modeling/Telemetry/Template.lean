import Telemetry.Keyed
import Telemetry.Log
import Telemetry.Text.Order

/-!
Templates with placeholders, a percent sign before a name in braces.

A template is expanded pass by pass, each pass replacing every placeholder that it finds, until a
pass changes nothing. Definitions that run in a circle never come to rest, so there are at most
`maxPasses` passes.
-/

namespace Telemetry

/-- What the placeholders stand for, in the order of definition. -/
abbrev Definitions := Keyed String String

namespace Template

/-- May the character stand in the name of a placeholder? -/
def isNameChar (c : Char) : Bool :=
  ('0' ≤ c && c ≤ '9') || ('a' ≤ c && c ≤ 'z') || ('A' ≤ c && c ≤ 'Z') || c == '_' || c == '-'

/-- A part of a template: a character as it stands, or a placeholder by name. -/
inductive Piece where
  | plain (c : Char)
  | hole (name : List Char)
deriving DecidableEq, Repr

/-- A placeholder at the beginning of a text whose percent sign has been read: its name and what
follows it. -/
def hole? : List Char → Option (List Char × List Char)
  | '\x7b' :: rest =>
    match rest.dropWhile isNameChar with
    | '\x7d' :: after =>
      let name := rest.takeWhile isNameChar
      if name.isEmpty then none else some (name, after)
    | _ => none
  | _ => none

theorem length_of_hole? {cs name after : List Char} (h : hole? cs = some (name, after)) :
    after.length < cs.length := by
  unfold hole? at h
  split at h
  · rename_i rest
    have shorter : (rest.dropWhile isNameChar).length ≤ rest.length :=
      List.Sublist.length_le (List.dropWhile_sublist _)
    split at h
    · rename_i found
      simp only [Option.ite_none_left_eq_some, Option.some.injEq, Prod.mk.injEq] at h
      rw [found, h.2.2] at shorter
      simp only [List.length_cons] at shorter ⊢
      omega
    · simp at h
  · simp at h

def pieces : List Char → List Piece
  | [] => []
  | c :: rest =>
    if c = '%' then
      match _found : hole? rest with
      | some (name, after) => .hole name :: pieces after
      | none => .plain c :: pieces rest
    else .plain c :: pieces rest
termination_by cs => cs.length
decreasing_by
  · have := length_of_hole? _found
    simp only [List.length_cons]
    omega
  · simp
  · simp

def holeText (name : List Char) : List Char :=
  '%' :: '\x7b' :: name ++ ['\x7d']

/-- What a part becomes in one pass; an unknown placeholder stays as it is. -/
def Piece.render (definitions : Definitions) : Piece → List Char
  | plain c => [c]
  | hole name =>
    match definitions.lookup (String.ofList name) with
    | some value => value.toList
    | none => holeText name

/-- The name of a placeholder that has no definition. -/
def Piece.unknown? (definitions : Definitions) : Piece → Option String
  | plain _ => none
  | hole name => if definitions.has (String.ofList name) then none else some (String.ofList name)

/-- One pass over a template. -/
def pass (definitions : Definitions) (template : List Char) : List Char :=
  (pieces template).flatMap (·.render definitions)

/-- The names of the placeholders that one pass cannot replace. -/
def unknownNames (definitions : Definitions) (template : List Char) : List String :=
  (pieces template).filterMap (·.unknown? definitions)

def maxPasses : Nat := 16

structure Expansion where
  text : List Char
  /-- The unknown names that the last pass met. -/
  unknown : List String
  /-- Did a pass leave the text as it was? -/
  settled : Bool

/-- Runs passes until one changes nothing or none is left; `unknown` is what the pass before met. -/
def settle (definitions : Definitions) :
    (passes : Nat) → (unknown : List String) → List Char → Expansion
  | 0, unknown, text => ⟨text, unknown, false⟩
  | passes + 1, _, text =>
    let unknown := unknownNames definitions text
    let next := pass definitions text
    if next = text then ⟨text, unknown, true⟩ else settle definitions passes unknown next

def expansion (definitions : Definitions) (template : String) : Expansion :=
  settle definitions maxPasses [] template.toList

def unsettledEntry (subject result : String) : Log.Entry :=
  ⟨.warning, .template, "Substitution of " ++ subject ++ " did not settle after " ++
    toString maxPasses ++ " passes (cyclic variables?), using " ++ result⟩

def unknownEntry (subject template name : String) : Log.Entry :=
  ⟨.warning, .template, "Substitution of variable " ++ name ++ " in " ++ subject ++ " (" ++ template ++
    ") is not possible. Variable is unknown."⟩

/-- What is reported about an expansion. An empty context counts as none. -/
def Expansion.entries (expansion : Expansion) (template : String) (context : Option String) :
    List Log.Entry :=
  let subject := context.filter (· ≠ "")
  (if expansion.settled then []
    else [unsettledEntry (subject.getD template) (String.ofList expansion.text)]) ++
  (Text.sortedSet expansion.unknown).map (unknownEntry (subject.getD "template") template)

/-- The expanded template. What stays open is reported. -/
def expand (definitions : Definitions) (template : String) (context : Option String) :
    Log.Noting String := do
  let result := expansion definitions template
  Log.noteAll (result.entries template context)
  pure (String.ofList result.text)

def hasHole (text : String) : Bool :=
  (pieces text.toList).any fun
    | .hole _ => true
    | .plain _ => false

def noHostEntry : Log.Entry :=
  ⟨.warning, .template, "No host supplied; templates using %\x7bhost\x7d stay unresolved"⟩

/-- The definitions together with the host they are for. A given host takes the place of a defined
one. -/
def withHost (definitions : Definitions) : Option String → Definitions
  | some host => definitions.put "host" host
  | none => definitions

/-- Expands every definition by all of them together with the host. -/
def resolve (definitions : Definitions) (host : Option String) : Log.Noting Definitions := do
  let merged := withHost definitions host
  if !merged.has "host" then Log.note noHostEntry
  merged.mapM fun (name, value) => do
    let text ← expand merged value (some ("vars." ++ name))
    pure (name, text)

end Template

end Telemetry
