import Telemetry.Document.Token

namespace Telemetry.Document

/-- May the character stand within brackets only as one that structures them? -/
def isFlowSign (c : Char) : Bool :=
  c == ',' || c == '[' || c == ']' || c == '\x7b' || c == '\x7d'

/-- Does a colon end a key where this follows? -/
def endsKey (inFlow : Bool) (rest : List Char) : Bool :=
  isApart rest || (inFlow && (rest.head?.map isFlowSign).getD false)

/-- The characters of a plain text up to the next space. A colon belongs to it unless it ends a key;
within brackets, so do not the characters that structure them. -/
def plainRun (inFlow : Bool) : List Char → List Char
  | [] => []
  | c :: rest =>
    if isGap c || isBreak c || (c == ':' && endsKey inFlow rest) ||
        (inFlow && (isFlowSign c || c == '?'))
    then [] else c :: plainRun inFlow rest

/-- What a line end and the empty lines after it stand for in a text. -/
def folded (first : List Char) (empty : List (List Char)) : List Char :=
  (if first ≠ ['\n'] then first else if empty.isEmpty then [' '] else []) ++ empty.flatten

/-- Passes spaces and empty lines; stops at a mark that separates documents, of which the last part
tells. -/
def plainBreaks : (fuel : Nat) → Cursor → List (List Char) × Cursor × Bool
  | 0, cursor => ([], cursor, false)
  | fuel + 1, cursor =>
    match cursor.rest with
    | [] => ([], cursor, false)
    | c :: _ =>
      if c = ' ' then plainBreaks fuel cursor.next
      else if isBreak c then
        let (text, cursor) := cursor.takeBreak
        if cursor.atSeparator then ([text], cursor, true)
        else
          let (more, cursor, stopped) := plainBreaks fuel cursor
          (text :: more, cursor, stopped)
      else ([], cursor, false)

/-- What the space between two parts of a plain text stands for, and the cursor behind it. The last
part tells whether a line ended. Nothing is left of a text that ends here. -/
def plainSpaces (cursor : Cursor) : List Char × Cursor × Bool :=
  let (spaces, cursor) := cursor.span (· == ' ')
  if !isLineEnd cursor.rest || cursor.atEnd then (spaces, cursor, false)
  else
    let (first, cursor) := cursor.takeBreak
    if cursor.atSeparator then ([], cursor, true)
    else
      let (empty, cursor, stopped) := plainBreaks cursor.fuel cursor
      if stopped then ([], cursor, true) else (folded first empty, cursor, true)

/-- A plain text: its characters, the cursor behind it, and whether a key may begin there. `spaces`
is what stands between it and the part before. -/
def takePlain (inFlow : Bool) (indent : Int) : (fuel : Nat) → (spaces : List Char) →
    (keyAllowed : Bool) → Cursor → List Char × Cursor × Bool
  | 0, _, keyAllowed, cursor => ([], cursor, keyAllowed)
  | fuel + 1, spaces, keyAllowed, cursor =>
    let run := if cursor.peek? = some '#' then [] else plainRun inFlow cursor.rest
    if run.isEmpty then ([], cursor, keyAllowed)
    else
      let (between, cursor, ended) := plainSpaces (cursor.skip run.length)
      if between.isEmpty || cursor.peek? == some '#' || (!inFlow && decide (cursor.column < indent)) then
        (spaces ++ run, cursor, ended)
      else
        let (more, cursor, keyAllowed) := takePlain inFlow indent fuel between ended cursor
        (spaces ++ run ++ more, cursor, keyAllowed)

/-- The characters that single letters stand for behind a backslash. -/
def escapes : List (Char × Char) := [
  ('0', '\x00'), ('a', '\x07'), ('b', '\x08'), ('t', '\t'), ('\t', '\t'), ('n', '\n'), ('v', '\x0b'),
  ('f', '\x0c'), ('r', '\r'), ('e', '\x1b'), (' ', ' '), ('"', '"'), ('\\', '\\'), ('/', '/'),
  ('N', '\u0085'), ('_', '\u00a0'), ('L', '\u2028'), ('P', '\u2029')]

/-- How many hexadecimal digits follow a letter behind a backslash. -/
def escapeWidths : List (Char × Nat) := [('x', 2), ('u', 4), ('U', 8)]

/-- The character of a code. A half of a surrogate pair is none; the last characters of all, which mean
nothing, stand for the halves. -/
def charOfCode (code : Nat) : Except Fault Char :=
  if 0x80000000 ≤ code then .error .hugeCharacter
  else if 0x10ffff < code then .error .badValue
  else if h : code.isValidChar then .ok (Char.ofNatAux code h)
  else .ok (Char.ofNat (0x10f800 + (code - 0xd800)))

/-- Passes the spaces and empty lines behind a line end in a quoted text, and gives the latter. -/
def quotedBreaks : (fuel : Nat) → Cursor → Except Fault (List (List Char) × Cursor)
  | 0, cursor => .ok ([], cursor)
  | fuel + 1, cursor =>
    if cursor.atSeparator then .error .malformed
    else
      let cursor := cursor.pass isGap
      if isLineEnd cursor.rest && !cursor.atEnd then do
        let (text, cursor) := cursor.takeBreak
        let (more, cursor) ← quotedBreaks fuel cursor
        pure (text :: more, cursor)
      else .ok ([], cursor)

/-- What an escape behind its backslash stands for. -/
def takeEscape (cursor : Cursor) : Except Fault (List Char × Cursor) :=
  match cursor.rest with
  | [] => .error .malformed
  | c :: rest =>
    match escapes.lookup c, escapeWidths.lookup c with
    | some meaning, _ => .ok ([meaning], cursor.next)
    | none, some width =>
      match hexNumber? width 0 rest with
      | none => .error .malformed
      | some code => do pure ([← charOfCode code], cursor.skip (width + 1))
    | none, none =>
      if isBreak c then do
        let cursor := cursor.takeBreak.2
        let (empty, cursor) ← quotedBreaks cursor.fuel cursor
        pure (empty.flatten, cursor)
      else .error .malformed

/-- What the space within a quoted text stands for. -/
def quotedSpaces (cursor : Cursor) : Except Fault (List Char × Cursor) :=
  let (spaces, cursor) := cursor.span isGap
  if cursor.atEnd then .error .malformed
  else if isLineEnd cursor.rest then do
    let (first, cursor) := cursor.takeBreak
    let (empty, cursor) ← quotedBreaks cursor.fuel cursor
    pure (folded first empty, cursor)
  else .ok (spaces, cursor)

/-- A quoted text behind its first quote, up to behind the last one. -/
def takeQuoted (double : Bool) : (fuel : Nat) → Cursor → Except Fault (List Char × Cursor)
  | 0, _ => .error .malformed
  | fuel + 1, cursor =>
    match cursor.rest with
    | [] => .error .malformed
    | c :: rest =>
      if isGap c || isBreak c then do
        let (spaces, cursor) ← quotedSpaces cursor
        let (more, cursor) ← takeQuoted double fuel cursor
        pure (spaces ++ more, cursor)
      else if double && c == '\\' then do
        let (text, cursor) ← takeEscape cursor.next
        let (more, cursor) ← takeQuoted double fuel cursor
        pure (text ++ more, cursor)
      else if !double && c == '\'' && rest.head? == some '\'' then do
        let (more, cursor) ← takeQuoted double fuel (cursor.skip 2)
        pure ('\'' :: more, cursor)
      else if c = (if double then '"' else '\'') then .ok ([], cursor.next)
      else do
        let (more, cursor) ← takeQuoted double fuel cursor.next
        pure (c :: more, cursor)

/-- What becomes of the line ends at the end of a block of text. -/
inductive Chomp where
  | clip
  | strip
  | keep
deriving DecidableEq, Repr

/-- The sign for what becomes of the line ends. -/
def takeChomp (cursor : Cursor) : Option (Chomp × Cursor) :=
  match cursor.peek? with
  | some '+' => some (.keep, cursor.next)
  | some '-' => some (.strip, cursor.next)
  | _ => none

/-- The digit for the indentation. -/
def takeIncrement (cursor : Cursor) : Except Fault (Option Nat × Cursor) :=
  match cursor.peek? with
  | some c =>
    if c = '0' then .error .malformed
    else if '1' ≤ c ∧ c ≤ '9' then .ok (some (c.toNat - 48), cursor.next)
    else .ok (none, cursor)
  | none => .ok (none, cursor)

/-- The first line of a block of text: what becomes of the line ends, and the indentation if it is
given, in either order. -/
def takeHeader (cursor : Cursor) : Except Fault (Chomp × Option Nat × Cursor) := do
  let (chomp, increment, cursor) ←
    match takeChomp cursor with
    | some (chomp, cursor) => do
      let (increment, cursor) ← takeIncrement cursor
      pure (chomp, increment, cursor)
    | none => do
      let (increment, cursor) ← takeIncrement cursor
      match increment, takeChomp cursor with
      | some increment, some (chomp, cursor) => pure (chomp, some increment, cursor)
      | _, _ => pure (Chomp.clip, increment, cursor)
  if isSpaced cursor.rest then pure (chomp, increment, ← cursor.passLine) else .error .malformed

/-- Passes spaces and empty lines at the beginning of a block, and gives the line ends and the
largest column reached. -/
def blockStart : (fuel : Nat) → (deepest : Nat) → Cursor → List (List Char) × Nat × Cursor
  | 0, deepest, cursor => ([], deepest, cursor)
  | fuel + 1, deepest, cursor =>
    match cursor.rest with
    | [] => ([], deepest, cursor)
    | c :: _ =>
      if c = ' ' then blockStart fuel (max deepest cursor.next.column) cursor.next
      else if isBreak c then
        let (text, cursor) := cursor.takeBreak
        let (more, deepest, cursor) := blockStart fuel deepest cursor
        (text :: more, deepest, cursor)
      else ([], deepest, cursor)

/-- Passes spaces up to a column. -/
def passIndent (indent : Int) : (fuel : Nat) → Cursor → Cursor
  | 0, cursor => cursor
  | fuel + 1, cursor =>
    if (cursor.column : Int) < indent ∧ cursor.peek? = some ' ' then passIndent indent fuel cursor.next
    else cursor

/-- Passes empty lines of a block and the indentation of the next line, and gives the line ends. -/
def blockBreaks (indent : Int) : (fuel : Nat) → Cursor → List (List Char) × Cursor
  | 0, cursor => ([], cursor)
  | fuel + 1, cursor =>
    let cursor := passIndent indent cursor.fuel cursor
    if isLineEnd cursor.rest && !cursor.atEnd then
      let (text, cursor) := cursor.takeBreak
      let (more, cursor) := blockBreaks indent fuel cursor
      (text :: more, cursor)
    else ([], cursor)

/-- The lines of a block and the line ends behind the last one, the latter apart: the end of that
line, and those of empty lines. -/
def blockLines (fold : Bool) (indent : Int) : (fuel : Nat) → (breaks : List (List Char)) → Cursor →
    List Char × List Char × List (List Char) × Cursor
  | 0, breaks, cursor => ([], [], breaks, cursor)
  | fuel + 1, breaks, cursor =>
    if (cursor.column : Int) ≠ indent ∨ cursor.atEnd then ([], [], breaks, cursor)
    else
      let startsDark := !(cursor.peek?.map isGap).getD false
      let (line, cursor) := cursor.span (!isBreak ·)
      let (lineBreak, cursor) := cursor.takeBreak
      let (empty, cursor) := blockBreaks indent cursor.fuel cursor
      if (cursor.column : Int) ≠ indent ∨ cursor.atEnd then
        (breaks.flatten ++ line, lineBreak, empty, cursor)
      else
        let joint :=
          if fold && lineBreak == ['\n'] && startsDark && !(cursor.peek?.map isGap).getD false then
            if empty.isEmpty then [' '] else []
          else lineBreak
        let (more, lineBreak, last, cursor) := blockLines fold indent fuel empty cursor
        (breaks.flatten ++ line ++ joint ++ more, lineBreak, last, cursor)

/-- A block of text behind its sign. `outer` is the indentation around it. -/
def takeBlock (fold : Bool) (outer : Int) (cursor : Cursor) : Except Fault (List Char × Cursor) := do
  let (chomp, increment, cursor) ← takeHeader cursor
  let least := max (outer + 1) 1
  let (indent, breaks, cursor) :=
    match increment with
    | some increment =>
      let indent := least + increment - 1
      let (breaks, cursor) := blockBreaks indent cursor.fuel cursor
      (indent, breaks, cursor)
    | none =>
      let (breaks, deepest, cursor) := blockStart cursor.fuel 0 cursor
      (max least deepest, breaks, cursor)
  let (text, lineBreak, last, cursor) := blockLines fold indent cursor.fuel breaks cursor
  let text := match chomp with
    | .strip => text
    | .clip => text ++ lineBreak
    | .keep => text ++ lineBreak ++ last.flatten
  pure (text, cursor)

end Telemetry.Document
