namespace Telemetry.Document

/-- Why a text is no document. -/
inductive Fault where
  | malformed
  | duplicateKey (key : String)
  /-- A key that is there already, but has too many digits to be told. -/
  | unwritableKey
  /-- A key that is no plain value. -/
  | compoundKey
  /-- A value that its type does not have. -/
  | badValue
  | emptyNumber
  | unknownWord
  | noTimestamp
  | hugeCharacter
  /-- A number in so many parts of sixty that one of them counts too much. -/
  | hugeUnit
deriving DecidableEq, Repr

/-- A place in a text. -/
structure Cursor where
  rest : List Char
  index : Nat := 0
  line : Nat := 0
  column : Nat := 0
deriving DecidableEq, Repr

def isBreak (c : Char) : Bool :=
  c == '\n' || c == '\r' || c == '\u0085' || c == '\u2028' || c == '\u2029'

def isGap (c : Char) : Bool :=
  c == ' ' || c == '\t'

/-- Does the end of the text, a line, or a space or tab come next? -/
def isApart : List Char → Bool
  | [] => true
  | c :: _ => isGap c || isBreak c

/-- Does the end of the text or of the line come next? -/
def isLineEnd : List Char → Bool
  | [] => true
  | c :: _ => isBreak c

/-- Does the end of the text, of the line, or a space come next? -/
def isSpaced : List Char → Bool
  | [] => true
  | c :: _ => c == ' ' || isBreak c

namespace Cursor

def peek? (cursor : Cursor) : Option Char :=
  cursor.rest.head?

def atEnd (cursor : Cursor) : Bool :=
  cursor.rest.isEmpty

/-- The cursor behind the next character. A carriage return and a line feed end one line together,
and a byte order mark takes no column. -/
def next (cursor : Cursor) : Cursor :=
  match cursor.rest with
  | [] => cursor
  | c :: rest =>
    if isBreak c && !(c == '\r' && rest.head? == some '\n') then
      ⟨rest, cursor.index + 1, cursor.line + 1, 0⟩
    else
      ⟨rest, cursor.index + 1, cursor.line, if c = '\ufeff' then cursor.column else cursor.column + 1⟩

/-- The cursor behind a number of characters. -/
def skip : (count : Nat) → Cursor → Cursor
  | 0, cursor => cursor
  | count + 1, cursor => skip count cursor.next

/-- The characters that satisfy a test, and the cursor behind them. -/
def span (test : Char → Bool) (cursor : Cursor) : List Char × Cursor :=
  let taken := cursor.rest.takeWhile test
  (taken, cursor.skip taken.length)

/-- The cursor behind the characters that satisfy a test. -/
def pass (test : Char → Bool) (cursor : Cursor) : Cursor :=
  (cursor.span test).2

/-- The line end that comes next, as it counts in a text, and the cursor behind it. -/
def takeBreak (cursor : Cursor) : List Char × Cursor :=
  match cursor.rest with
  | '\r' :: '\n' :: _ => (['\n'], cursor.skip 2)
  | c :: _ =>
    if c = '\u2028' ∨ c = '\u2029' then ([c], cursor.next)
    else if isBreak c then (['\n'], cursor.next)
    else ([], cursor)
  | [] => ([], cursor)

/-- The cursor behind a comment, if there is one. -/
def passComment (cursor : Cursor) : Cursor :=
  if cursor.peek? = some '#' then cursor.pass (!isBreak ·) else cursor

/-- Passes spaces, a comment and the end of the line; nothing else may be left on it. -/
def passLine (cursor : Cursor) : Except Fault Cursor :=
  let cursor := (cursor.pass (· == ' ')).passComment
  if isLineEnd cursor.rest then .ok cursor.takeBreak.2 else .error .malformed

/-- Does a mark stand here that separates documents? -/
def atSeparator (cursor : Cursor) : Bool :=
  match cursor.rest with
  | '-' :: '-' :: '-' :: rest => isApart rest
  | '.' :: '.' :: '.' :: rest => isApart rest
  | _ => false

/-- More steps than can be made before the text is at its end. -/
def fuel (cursor : Cursor) : Nat :=
  cursor.rest.length + 1

end Cursor

end Telemetry.Document
