import Telemetry.Document.Token
import Telemetry.Text.Integer
import Telemetry.Text.Utf8

namespace Telemetry.Document

/-- May the character stand in a tag as it is? -/
def isTagChar (c : Char) : Bool :=
  isNameChar c || c ∈ [';', '/', '?', ':', '@', '&', '=', '+', '$', ',', '.', '!', '~', '*', '\'', '(', ')',
    '[', ']']

/-- Octets written as a percent sign and two hexadecimal digits each; `octets` are those read so far,
in reverse. -/
def takeOctets (octets : List UInt8) : List Char → Except Fault (List UInt8 × List Char)
  | '%' :: a :: b :: rest =>
    match hexNumber? 2 0 [a, b] with
    | some n => takeOctets (UInt8.ofNat n :: octets) rest
    | none => .error .malformed
  | '%' :: _ => .error .malformed
  | rest => .ok (octets.reverse, rest)

/-- The characters of a tag, and what follows them. Characters may be written as octets. -/
def takeTagChars : (fuel : Nat) → List Char → Except Fault (List Char × List Char)
  | 0, rest => .ok ([], rest)
  | fuel + 1, rest =>
    match rest with
    | '%' :: _ => do
      let (octets, rest) ← takeOctets [] rest
      match Text.decode? octets with
      | none => .error .malformed
      | some text =>
        let (more, rest) ← takeTagChars fuel rest
        pure (text.toList ++ more, rest)
    | c :: rest' =>
      if isTagChar c then do
        let (more, rest) ← takeTagChars fuel rest'
        pure (c :: more, rest)
      else .ok ([], rest)
    | [] => .ok ([], [])

/-- The text of a tag; there must be one. -/
def takeTagText (cursor : Cursor) : Except Fault (String × Cursor) := do
  let (text, rest) ← takeTagChars cursor.fuel cursor.rest
  let length := cursor.rest.length - rest.length
  if length = 0 then .error .malformed else .ok (String.ofList text, cursor.skip length)

/-- A handle: an exclamation mark, or a name between two. -/
def takeHandle (cursor : Cursor) : Except Fault (String × Cursor) :=
  match cursor.rest with
  | '!' :: rest =>
    if rest.head? = some ' ' then .ok ("!", cursor.next)
    else
      let name := rest.takeWhile isNameChar
      if (rest.dropWhile isNameChar).head? = some '!' then
        .ok (String.ofList ('!' :: name ++ ['!']), cursor.skip (name.length + 2))
      else .error .malformed
  | _ => .error .malformed

/-- A tag: between angle brackets, an exclamation mark alone, or a handle and a text. -/
def takeWrittenTag (cursor : Cursor) : Except Fault (WrittenTag × Cursor) :=
  let rest := cursor.rest.drop 1
  if rest.head? = some '<' then do
    let (suffix, cursor) ← takeTagText (cursor.skip 2)
    if cursor.peek? = some '>' then .ok (⟨none, suffix⟩, cursor.next) else .error .malformed
  else if isApart rest then .ok (⟨none, "!"⟩, cursor.next)
  else do
    let word := rest.takeWhile fun c => c ≠ ' ' ∧ !isBreak c
    let (handle, cursor) ← if '!' ∈ word then takeHandle cursor else .ok ("!", cursor.next)
    let (suffix, cursor) ← takeTagText cursor
    .ok (⟨some handle, suffix⟩, cursor)

/-- A tag that is set off from what follows. -/
def takeTag (cursor : Cursor) : Except Fault (WrittenTag × Cursor) := do
  let (tag, cursor) ← takeWrittenTag cursor
  if isSpaced cursor.rest then .ok (tag, cursor) else .error .malformed

/-- May the character follow the name of an anchor? -/
def endsAnchor : List Char → Bool
  | [] => true
  | c :: _ => isGap c || isBreak c || c ∈ ['?', ':', ',', ']', '\x7d', '%', '@', '\x60']

/-- The name behind the sign of an anchor or an alias. -/
def takeAnchor (cursor : Cursor) : Except Fault (String × Cursor) :=
  let (name, after) := cursor.next.span isNameChar
  if name.isEmpty || !endsAnchor after.rest then .error .malformed
  else .ok (String.ofList name, after)

def takeNumber (cursor : Cursor) : Except Fault (Nat × Cursor) :=
  let (digits, after) := cursor.span fun c => '0' ≤ c && c ≤ '9'
  if digits.isEmpty then .error .malformed
  else if Text.maxDigits < digits.length then .error .badValue
  else .ok (digits.foldl (fun total c => total * 10 + (c.toNat - 48)) 0, after)

/-- The rest of a directive that tells the version. -/
def takeVersion (cursor : Cursor) : Except Fault (Token × Cursor) := do
  let (major, cursor) ← takeNumber (cursor.pass (· == ' '))
  if cursor.peek? = some '.' then
    let (_, cursor) ← takeNumber cursor.next
    if isSpaced cursor.rest then .ok (.version major, cursor) else .error .malformed
  else .error .malformed

/-- The rest of a directive that defines a handle. -/
def takeHandleDirective (cursor : Cursor) : Except Fault (Token × Cursor) := do
  let (handle, cursor) ← takeHandle (cursor.pass (· == ' '))
  if cursor.peek? = some ' ' then
    let (text, cursor) ← takeTagText (cursor.pass (· == ' '))
    if isSpaced cursor.rest then .ok (.handle handle text, cursor) else .error .malformed
  else .error .malformed

/-- A directive, to the end of its line. One of another name is passed over. -/
def takeDirective (cursor : Cursor) : Except Fault (Token × Cursor) := do
  let (name, cursor) := cursor.next.span isNameChar
  if name.isEmpty || !isSpaced cursor.rest then .error .malformed
  else
    let (token, cursor) ←
      if name = ['Y', 'A', 'M', 'L'] then takeVersion cursor
      else if name = ['T', 'A', 'G'] then takeHandleDirective cursor
      else pure (Token.otherDirective, cursor.pass (!isBreak ·))
    pure (token, ← cursor.passLine)

end Telemetry.Document
