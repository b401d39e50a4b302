import Telemetry.Document.Scalars
import Telemetry.Document.Tag

/-!
Cutting a document into tokens.

Whether a text is a key shows only at the colon behind it. So the lexer remembers where a key may have
begun, one place for each level of brackets, and at a colon puts the token for a key in front of the
tokens that it has given since.
-/

namespace Telemetry.Document

/-- A place where a key may have begun: how many tokens there were, and where it stands in the text. A
key that is required must come to its colon. -/
structure KeyPlace where
  tokens : Nat
  required : Bool
  index : Nat
  line : Nat
  column : Nat
deriving DecidableEq, Repr

structure Lexer where
  cursor : Cursor
  /-- The tokens so far, last first. -/
  tokens : List Token := []
  /-- How many brackets are open. -/
  depth : Nat := 0
  indent : Int := -1
  /-- The indentations of the blocks around the innermost one. -/
  outer : List Int := []
  /-- May a key begin here? -/
  keyAllowed : Bool := true
  /-- Where keys may have begun, by depth. -/
  places : List (Nat × KeyPlace) := []
deriving Repr

namespace Lexer

def give (lexer : Lexer) (token : Token) : Lexer :=
  { lexer with tokens := token :: lexer.tokens }

/-- Gives a token in front of those that were given after the first `count`. -/
def giveAt (lexer : Lexer) (count : Nat) (token : Token) : Lexer :=
  let later := lexer.tokens.length - count
  { lexer with tokens := lexer.tokens.take later ++ token :: lexer.tokens.drop later }

/-- Closes the blocks that are indented farther than a column. -/
def closeBlocks (column : Int) (lexer : Lexer) : List Int → Lexer
  | [] => lexer
  | outer :: outers =>
    if column < lexer.indent then
      closeBlocks column { lexer.give .blockEnd with indent := outer, outer := outers } outers
    else lexer

/-- Closes the blocks that are indented farther than a column, unless within brackets. -/
def unindent (lexer : Lexer) (column : Int) : Lexer :=
  if 0 < lexer.depth then lexer else closeBlocks column lexer lexer.outer

/-- Does a column open a block? -/
def opens (lexer : Lexer) (column : Nat) : Bool :=
  decide (lexer.indent < column)

/-- Makes a column the indentation. -/
def indentTo (lexer : Lexer) (column : Nat) : Lexer :=
  { lexer with indent := column, outer := lexer.indent :: lexer.outer }

/-- Opens a block at the cursor by a token, if its column is deeper than the indentation. -/
def openBlock (lexer : Lexer) (token : Token) : Lexer :=
  if lexer.depth = 0 ∧ lexer.opens lexer.cursor.column then
    (lexer.give token).indentTo lexer.cursor.column
  else lexer

/-- Can the key that may have begun at a place no longer come to its colon? -/
def isStale (cursor : Cursor) (place : KeyPlace) : Bool :=
  place.line != cursor.line || decide (place.index + 1024 < cursor.index)

/-- Forgets the places of keys that cannot come to their colons any more. -/
def dropStale (lexer : Lexer) : Except Fault Lexer :=
  if lexer.places.any fun (_, place) => isStale lexer.cursor place && place.required
  then .error .malformed
  else .ok { lexer with places := lexer.places.filter fun (_, place) => !isStale lexer.cursor place }

/-- Forgets the place of a key at the present depth. -/
def dropPlace (lexer : Lexer) : Except Fault Lexer :=
  match lexer.places.lookup lexer.depth with
  | some place =>
    if place.required then .error .malformed
    else .ok { lexer with places := lexer.places.filter (·.1 != lexer.depth) }
  | none => .ok lexer

/-- Remembers the cursor as a place where a key may begin. -/
def keepPlace (lexer : Lexer) : Except Fault Lexer :=
  if lexer.keyAllowed then do
    let cursor := lexer.cursor
    let required := lexer.depth = 0 ∧ lexer.indent = cursor.column
    let lexer ← lexer.dropPlace
    let place : KeyPlace := ⟨lexer.tokens.length, required, cursor.index, cursor.line, cursor.column⟩
    pure { lexer with places := (lexer.depth, place) :: lexer.places }
  else .ok lexer

/-- Passes spaces, comments and line ends. Behind a line end a key may begin, unless within
brackets. -/
def passSpace : (fuel : Nat) → Lexer → Lexer
  | 0, lexer => lexer
  | fuel + 1, lexer =>
    let cursor := (lexer.cursor.pass (· == ' ')).passComment
    if isLineEnd cursor.rest && !cursor.atEnd then
      passSpace fuel { lexer with
        cursor := cursor.takeBreak.2, keyAllowed := lexer.keyAllowed || lexer.depth == 0 }
    else { lexer with cursor }

/-- A byte order mark at the very beginning is passed. -/
def passMark (lexer : Lexer) : Lexer :=
  if lexer.cursor.index = 0 ∧ lexer.cursor.peek? = some '\ufeff' then
    { lexer with cursor := lexer.cursor.next }
  else lexer

/-- Gives a token for some characters at the cursor. -/
def giveSign (lexer : Lexer) (token : Token) (length : Nat) (keyAllowed : Bool) : Lexer :=
  { lexer.give token with cursor := lexer.cursor.skip length, keyAllowed }

/-- The end of the text closes everything. -/
def finish (lexer : Lexer) : Except Fault Lexer := do
  let lexer ← (lexer.unindent (-1)).dropPlace
  pure ({ lexer with keyAllowed := false, places := [] }.give .streamEnd)

def directive (lexer : Lexer) : Except Fault Lexer := do
  let lexer ← (lexer.unindent (-1)).dropPlace
  let (token, cursor) ← takeDirective lexer.cursor
  pure { lexer.give token with cursor, keyAllowed := false }

def separator (lexer : Lexer) (token : Token) : Except Fault Lexer := do
  let lexer ← (lexer.unindent (-1)).dropPlace
  pure (lexer.giveSign token 3 false)

def openBracket (lexer : Lexer) (token : Token) : Except Fault Lexer := do
  let lexer ← lexer.keepPlace
  pure ({ lexer with depth := lexer.depth + 1 }.giveSign token 1 true)

def closeBracket (lexer : Lexer) (token : Token) : Except Fault Lexer := do
  let lexer ← lexer.dropPlace
  pure ({ lexer with depth := lexer.depth - 1 }.giveSign token 1 false)

def comma (lexer : Lexer) : Except Fault Lexer := do
  let lexer ← lexer.dropPlace
  pure (lexer.giveSign .flowEntry 1 true)

def entry (lexer : Lexer) : Except Fault Lexer :=
  if lexer.depth = 0 ∧ !lexer.keyAllowed then .error .malformed
  else do
    let lexer ← (lexer.openBlock .blockList).dropPlace
    pure (lexer.giveSign .blockEntry 1 true)

def explicitKey (lexer : Lexer) : Except Fault Lexer :=
  if lexer.depth = 0 ∧ !lexer.keyAllowed then .error .malformed
  else do
    let lexer ← (lexer.openBlock .blockMapping).dropPlace
    pure (lexer.giveSign .key 1 (lexer.depth == 0))

/-- Puts the token for a key, and for its block if it opens one, where the key began. -/
def giveKey (lexer : Lexer) (place : KeyPlace) : Lexer :=
  let lexer := { lexer with places := lexer.places.filter (·.1 != lexer.depth) }
  let lexer := lexer.giveAt place.tokens .key
  if lexer.depth = 0 ∧ lexer.opens place.column then
    (lexer.giveAt place.tokens .blockMapping).indentTo place.column
  else lexer

def value (lexer : Lexer) : Except Fault Lexer :=
  match lexer.places.lookup lexer.depth with
  | some place => .ok ((lexer.giveKey place).giveSign .value 1 false)
  | none =>
    if lexer.depth = 0 ∧ !lexer.keyAllowed then .error .malformed
    else do
      let lexer ← (lexer.openBlock .blockMapping).dropPlace
      pure (lexer.giveSign .value 1 (lexer.depth == 0))

/-- A node property or a text that a key may begin with. -/
def named (lexer : Lexer) (take : Cursor → Except Fault (Token × Cursor)) : Except Fault Lexer := do
  let lexer ← lexer.keepPlace
  let (token, cursor) ← take lexer.cursor
  pure { lexer.give token with cursor, keyAllowed := false }

/-- A block of text. -/
def block (lexer : Lexer) (fold : Bool) : Except Fault Lexer := do
  let lexer ← lexer.dropPlace
  let (text, cursor) ← takeBlock fold lexer.indent lexer.cursor.next
  pure { lexer.give (.text (String.ofList text) false) with cursor, keyAllowed := true }

def quotedToken (double : Bool) (cursor : Cursor) : Except Fault (Token × Cursor) := do
  let (text, cursor) ← takeQuoted double cursor.fuel cursor.next
  pure (.text (String.ofList text) false, cursor)

def plain (lexer : Lexer) : Except Fault Lexer := do
  let lexer ← lexer.keepPlace
  let (text, cursor, keyAllowed) :=
    takePlain (0 < lexer.depth) (lexer.indent + 1) lexer.cursor.fuel [] false lexer.cursor
  pure { lexer.give (.text (String.ofList text) true) with cursor, keyAllowed }

/-- May a plain text begin so? -/
def beginsPlain (inFlow : Bool) (c : Char) (rest : List Char) : Bool :=
  !(isGap c || isBreak c || isFlowSign c ||
    c ∈ ['-', '?', ':', '#', '&', '*', '!', '|', '>', '\'', '"', '%', '@', '\x60']) ||
  (!isApart rest && (c == '-' || (!inFlow && (c == '?' || c == ':'))))

/-- The token for a character that always has the same meaning, or for a text. -/
def other (lexer : Lexer) (c : Char) (rest : List Char) : Except Fault Lexer :=
  match c with
  | '*' => lexer.named fun cursor => (takeAnchor cursor).map fun (name, cursor) => (.alias name, cursor)
  | '&' => lexer.named fun cursor => (takeAnchor cursor).map fun (name, cursor) => (.anchor name, cursor)
  | '!' => lexer.named fun cursor => (takeTag cursor).map fun (tag, cursor) => (.tag tag, cursor)
  | '\'' => lexer.named (quotedToken false)
  | '"' => lexer.named (quotedToken true)
  | _ =>
    if c = '|' ∧ lexer.depth = 0 then lexer.block false
    else if c = '>' ∧ lexer.depth = 0 then lexer.block true
    else if beginsPlain (0 < lexer.depth) c rest then lexer.plain
    else .error .malformed

/-- The next token, or several if blocks end before it. -/
def step (lexer : Lexer) : Except Fault Lexer := do
  let lexer ← (passSpace lexer.cursor.fuel lexer.passMark).dropStale
  let lexer := lexer.unindent lexer.cursor.column
  let inFlow := 0 < lexer.depth
  match lexer.cursor.rest with
  | [] => lexer.finish
  | c :: rest =>
    if lexer.cursor.column = 0 ∧ c = '%' then lexer.directive
    else if lexer.cursor.column = 0 ∧ lexer.cursor.atSeparator then
      lexer.separator (if c = '-' then .documentStart else .documentEnd)
    else
      match c with
      | '[' => lexer.openBracket .flowList
      | '\x7b' => lexer.openBracket .flowMapping
      | ']' => lexer.closeBracket .flowListEnd
      | '\x7d' => lexer.closeBracket .flowMappingEnd
      | ',' => lexer.comma
      | _ =>
        if c = '-' ∧ isApart rest then lexer.entry
        else if c = '?' ∧ (inFlow ∨ isApart rest) then lexer.explicitKey
        else if c = ':' ∧ (inFlow ∨ isApart rest) then lexer.value
        else lexer.other c rest

/-- The tokens to the end of the text, or to the first fault. -/
def run : (fuel : Nat) → Lexer → List Token × Option Fault
  | 0, lexer => (lexer.tokens.reverse, some .malformed)
  | fuel + 1, lexer =>
    match lexer.step with
    | .error fault => (lexer.tokens.reverse, some fault)
    | .ok lexer =>
      if lexer.tokens.head? = some .streamEnd then (lexer.tokens.reverse, none) else run fuel lexer

end Lexer

/-- The tokens of a text, and the fault that ends them early if there is one. Every step takes at
least one character. -/
def tokens (text : List Char) : List Token × Option Fault :=
  Lexer.run (text.length + 2) { cursor := { rest := text } }

end Telemetry.Document
