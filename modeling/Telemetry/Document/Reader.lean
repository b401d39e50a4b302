import Telemetry.Document.Printer
import Telemetry.Document.Value

/-!
Reading documents from text.

The values of a mapping are built together with it, those of a list only when everything outside is
there. So of several faults the one inside the fewest lists is found first, and of those the one that
comes first in the text. Lists and mappings may be nested to any depth; there is no stack that a
document could use up.
-/

namespace Telemetry.Document

/-- A document as far as it could be built, and what is wrong with it: each fault with the number of
lists around it. -/
structure Built where
  document : Document
  faults : List (Nat × Fault) := []
deriving Inhabited

namespace Built

/-- Nothing could be built. -/
def broken (lists : Nat) (fault : Fault) : Built :=
  ⟨.scalar .null, [(lists, fault)]⟩

/-- A list that is there, but cannot be filled. -/
def unfilled (lists : Nat) : Built :=
  ⟨.list [], [(lists + 1, .malformed)]⟩

def scalar (lists : Nat) : Except Fault Scalar → Built
  | .ok value => ⟨.scalar value, []⟩
  | .error fault => broken lists fault

end Built

/-- The text of a mapping that has one, under the key for its own value. -/
def ownText? : List (Node × Node) → Option String
  | [] => none
  | (.text .default _, .text _ text) :: _ => some text
  | (.text .default _, _) :: _ => none
  | _ :: entries => ownText? entries

/-- The key that a document is, or why it is none. -/
def keyOf (lists : Nat) (entries : List (Scalar × Document)) (key : Document) :
    Option Scalar × List (Nat × Fault) :=
  match key with
  | .scalar key =>
    if entries.any fun entry => entry.1 == key then
      (none, [(lists, if key.isWritable then .duplicateKey key.toText else .unwritableKey)])
    else (some key, [])
  | _ => (none, [(lists, .compoundKey)])

/-- A text as a node of a type. -/
def builtText (lists : Nat) (tag : Tag) (text : String) : Built :=
  match tag with
  | .list | .set | .pairs => .unfilled lists
  | .mapping => if text = "" then ⟨.mapping [], []⟩ else .broken lists .badValue
  | tag => .scalar lists (scalarOf tag text)

mutual

/-- Builds a node. `lists` is the number of lists around it. -/
def build (lists : Nat) : Node → Built
  | .text tag text => builtText lists tag text
  | .again isList => ⟨.again isList, []⟩
  | .endless => .broken lists .malformed
  | .list tag items =>
    match tag with
    | .list =>
      let (items, faults) := buildItems (lists + 1) items
      ⟨.list items, faults⟩
    | .mapping => if items.isEmpty then ⟨.mapping [], []⟩ else .broken lists .compoundKey
    | .pairs =>
      let (pairs, faults) := buildPairs (lists + 1) items
      ⟨.list pairs, faults⟩
    | .set => .unfilled lists
    | _ => .broken lists .malformed
  | .mapping tag entries =>
    match tag with
    | .mapping =>
      let (entries, faults) := buildEntries lists [] entries
      ⟨.mapping entries, faults⟩
    | .set =>
      let (members, faults) := buildMembers (lists + 1) entries
      ⟨.set members.reverse, faults⟩
    | .list | .pairs => .unfilled lists
    | .default | .merge | .other => .broken lists .malformed
    | tag =>
      match ownText? entries with
      | some text => .scalar lists (scalarOf tag text)
      | none => .broken lists .malformed

def buildItems (lists : Nat) : List Node → List Document × List (Nat × Fault)
  | [] => ([], [])
  | item :: items =>
    let first := build lists item
    let (rest, faults) := buildItems lists items
    (first.document :: rest, first.faults ++ faults)

/-- Builds the entries of a mapping behind those already built. -/
def buildEntries (lists : Nat) (before : List (Scalar × Document)) :
    List (Node × Node) → List (Scalar × Document) × List (Nat × Fault)
  | [] => (before, [])
  | (key, value) :: entries =>
    let builtKey := build lists key
    let (key, keyFaults) := keyOf lists before builtKey.document
    let builtValue := build lists value
    let before := match key with
      | some key => before ++ [(key, builtValue.document)]
      | none => before
    let (entries, faults) := buildEntries lists before entries
    (entries, builtKey.faults ++ keyFaults ++ builtValue.faults ++ faults)

/-- Builds the members of a set, last first; the values beside them do not count. -/
def buildMembers (lists : Nat) : List (Node × Node) → List Scalar × List (Nat × Fault)
  | [] => ([], [])
  | (key, value) :: entries =>
    let builtKey := match key with
      | .text .default text => Built.scalar lists (.ok (.text text))
      | key => build lists key
    let builtValue := build lists value
    let (rest, faults) := buildMembers lists entries
    match builtKey.document with
    | .scalar member =>
      (if rest.any (· == member) then rest else rest ++ [member],
        builtKey.faults ++ builtValue.faults ++ faults)
    | _ => (rest, builtKey.faults ++ (lists, .malformed) :: faults)

/-- Builds a list of pairs, each of which is written as a mapping of one entry. -/
def buildPairs (lists : Nat) : List Node → List Document × List (Nat × Fault)
  | [] => ([], [])
  | .mapping _ [(key, value)] :: items =>
    let key := build lists key
    let value := build lists value
    let (rest, faults) := buildPairs lists items
    (.pair key.document value.document :: rest, key.faults ++ value.faults ++ faults)
  | _ :: _ => ([], [(lists, .malformed)])

end

/-- The fault inside the fewest lists, and of those the first. -/
def firstFault? (faults : List (Nat × Fault)) : Option Fault :=
  (faults.foldl (fun (best : Option (Nat × Fault)) fault =>
    match best with
    | none => some fault
    | some best => if fault.1 < best.1 then some fault else some best) none).map Prod.snd

/-- May the character stand in the text of a document? -/
def isAllowed (c : Char) : Bool :=
  let n := c.toNat
  n == 9 || n == 10 || n == 13 || (0x20 ≤ n && n ≤ 0x7E) || n == 0x85 ||
    (0xA0 ≤ n && n != 0xFFFE && n != 0xFFFF)

/-- The document that a text stands for. An empty text stands for nothing. -/
def read (text : String) : Except Fault Document :=
  if !text.toList.all isAllowed then .error .malformed
  else
    match rootOf text with
    | .error fault => .error fault
    | .ok none => .ok (.scalar .null)
    | .ok (some node) =>
      let built := build 0 node
      match firstFault? built.faults with
      | some fault => .error fault
      | none => .ok built.document

end Telemetry.Document
