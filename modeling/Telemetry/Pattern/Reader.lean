import Telemetry.Keyed
import Telemetry.Pattern.Expr
import Telemetry.Text.CharName
import Telemetry.Text.Identifier
import Telemetry.Text.Integer

/-!
Reading a pattern from its text.

The text is cut into tokens first: a backslash belongs to the character behind it. Reading keeps the
tokens that are left, the groups met so far and the flags that hold for the whole pattern. Brackets may
be nested to any depth; there is no stack that a pattern could use up.
-/

namespace Telemetry.Pattern

/-- Why a text is no pattern. -/
inductive Fault where
  | malformed
  | tooManyRepetitions
  | numberTooLong
  | codeTooLarge
  | mixedAlphabets
deriving DecidableEq, Repr

/-- A character of a pattern, with the backslash before it if there is one. -/
inductive Token where
  | plain (c : Char)
  | escaped (c : Char)
  | dangling
deriving DecidableEq, Repr

/-- The tokens of a pattern; a backslash at the very end belongs to nothing. -/
def tokens : List Char → List Token
  | [] => []
  | ['\\'] => [.dangling]
  | '\\' :: c :: rest => .escaped c :: tokens rest
  | c :: rest => .plain c :: tokens rest

def Token.chars : Token → List Char
  | plain c => [c]
  | escaped c => ['\\', c]
  | dangling => ['\\']

/-- The flags that change the meaning of what follows. -/
structure Flags where
  ignoreCase : Bool
  multiline : Bool
  dotAll : Bool
  verbose : Bool
  ascii : Bool
  unicode : Bool
  /-- Forbids repetitions. -/
  template : Bool
deriving DecidableEq, Repr

namespace Flags

def none : Flags := ⟨false, false, false, false, false, false, false⟩

/-- Sets or clears the flag of a letter. -/
def set (value : Bool) (flags : Flags) (letter : Char) : Flags :=
  match letter with
  | 'i' => { flags with ignoreCase := value }
  | 'm' => { flags with multiline := value }
  | 's' => { flags with dotAll := value }
  | 'x' => { flags with verbose := value }
  | 'a' => { flags with ascii := value }
  | 'u' => { flags with unicode := value }
  | 't' => { flags with template := value }
  | _ => flags

/-- The flags within a group that sets and clears some; its alphabet replaces the one outside. -/
def within (flags : Flags) (added removed : List Char) : Flags :=
  let flags :=
    if 'a' ∈ added ∨ 'u' ∈ added then { flags with ascii := false, unicode := false } else flags
  removed.foldl (set false) (added.foldl (set true) flags)

/-- How letters compare under the flags. -/
def folding (flags : Flags) : Folding :=
  if !flags.ignoreCase then .exact else if flags.ascii then .ascii else .unicode

end Flags

/-- The letters that set a flag. -/
def flagLetters : List Char := ['i', 'L', 'm', 's', 'x', 'a', 't', 'u']

/-- The state of reading. -/
structure Progress where
  tokens : List Token
  /-- The flags of the whole pattern. -/
  flags : Flags
  /-- The groups that have names. -/
  names : Keyed String Nat
  /-- The widths of the groups from number one on, as far as the groups have ended. -/
  widths : List (Option Width)
  /-- The number of groups and one when the outermost look behind began. -/
  behind : Option Nat
  /-- The groups by number that conditions ask for. -/
  conditions : List Nat

/-- Nothing has been read of the tokens yet. -/
def Progress.start (tokens : List Token) : Progress :=
  ⟨tokens, .none, [], [], none, []⟩

/-- What reading comes to from a state on; it gives no token back. -/
structure Step (α : Type) (before : Progress) where
  value : α
  after : Progress
  le : after.tokens.length ≤ before.tokens.length

structure Reader (α : Type) where
  run : (progress : Progress) → Except Fault (Step α progress)

namespace Reader

protected def pure {α : Type} (value : α) : Reader α :=
  ⟨fun progress => .ok ⟨value, progress, Nat.le_refl _⟩⟩

protected def bind {α β : Type} (reader : Reader α) (next : α → Reader β) : Reader β where
  run progress :=
    match reader.run progress with
    | .ok step =>
      match (next step.value).run step.after with
      | .ok last => .ok ⟨last.value, last.after, Nat.le_trans last.le step.le⟩
      | .error fault => .error fault
    | .error fault => .error fault

instance : Monad Reader where
  pure := Reader.pure
  bind := Reader.bind

end Reader

def fail {α : Type} (fault : Fault) : Reader α :=
  ⟨fun _ => .error fault⟩

def refuse {α : Type} : Reader α :=
  fail .malformed

def progress : Reader Progress :=
  ⟨fun progress => .ok ⟨progress, progress, Nat.le_refl _⟩⟩

/-- Changes the state, but not the tokens that are left. -/
def update (change : Progress → Progress)
    (keeps : ∀ progress, (change progress).tokens = progress.tokens := by intro; rfl) : Reader Unit :=
  ⟨fun progress => .ok ⟨(), change progress, Nat.le_of_eq (congrArg List.length (keeps progress))⟩⟩

/-- Drops tokens. A lone backslash is refused as soon as it comes next. -/
def skip (count : Nat) : Reader Unit where
  run progress :=
    if (progress.tokens.drop count).head? = some .dangling then .error .malformed
    else
      .ok ⟨(), { progress with tokens := progress.tokens.drop count },
        List.length_drop ▸ Nat.sub_le _ _⟩

def peek : Reader (Option Token) := do
  return (← progress).tokens.head?

def next : Reader (Option Token) := do
  let token ← peek
  skip 1
  return token

/-- Takes the next token, which must be there. -/
def need : Reader Token := do
  match ← next with
  | some token => return token
  | none => refuse

/-- Takes the next token if it is a certain character. -/
def accept (c : Char) : Reader Bool := do
  if (← peek) = some (.plain c) then
    skip 1
    return true
  else return false

/-- Takes the next token, which must be a certain character. -/
def expect (c : Char) : Reader Unit := do
  if !(← accept c) then refuse

/-- The characters that satisfy `p` at the beginning. -/
def spanPlain (p : Char → Bool) : List Token → List Char
  | .plain c :: rest => if p c then c :: spanPlain p rest else []
  | _ => []

/-- Takes up to `count` characters that satisfy `p`. -/
def takeWhile (p : Char → Bool) (count : Nat) : Reader (List Char) := do
  let taken := spanPlain p ((← progress).tokens.take count)
  skip taken.length
  return taken

/-- The tokens up to a terminator, which must come. -/
def before (terminator : Char) : Reader (List Token) := do
  let tokens := (← progress).tokens
  let taken := tokens.takeWhile (· != .plain terminator)
  if taken.length = tokens.length then refuse
  return taken

/-- Takes the text before a terminator, which may not be empty, and the terminator. -/
def takeName (terminator : Char) : Reader String := do
  let taken ← before terminator
  if taken.isEmpty then refuse
  skip (taken.length + 1)
  return String.ofList (taken.flatMap Token.chars)

def isOctal (c : Char) : Bool :=
  '0' ≤ c && c ≤ '7'

def isDigit (c : Char) : Bool :=
  '0' ≤ c && c ≤ '9'

/-- Takes exactly `count` hexadecimal digits. -/
def takeHex (count : Nat) : Reader Nat := do
  let digits ← takeWhile (fun c => (Text.hexValue? c).isSome) count
  if digits.length = count then return Text.numeral 16 digits else refuse

/-- A number of groups counted with the whole pattern as group zero. -/
def groupCount : Reader Nat := do
  return (← progress).widths.length + 1

def isClosed (index : Nat) : Reader Bool := do
  return index ≠ 0 ∧ ((← progress).widths.getD (index - 1) none).isSome

/-- A look behind may only ask for groups that ended before it began. -/
def checkBehind (index : Nat) : Reader Unit := do
  match (← progress).behind with
  | none => return
  | some limit =>
    if !(← isClosed index) then refuse
    if limit ≤ index then refuse

/-- The control characters that have a letter of their own. -/
def controls : List (Char × Nat) := [
  ('a', 7), ('b', 8), ('f', 12), ('n', 10), ('r', 13), ('t', 9), ('v', 11), ('\\', 92)]

/-- The categories that have a letter of their own; the capital letter negates. -/
def categories : List (Char × Category × Bool) := [
  ('d', .digit, false), ('D', .digit, true), ('s', .blank, false), ('S', .blank, true),
  ('w', .word, false), ('W', .word, true)]

/-- The code of a character given by its name in braces. -/
def readCharName : Reader Nat := do
  expect '\x7b'
  let name ← takeName '\x7d'
  match Text.codeOfName? name with
  | some code => return code
  | none => refuse

/-- The character that an escape stands for, if it is one by code, by name or by itself. -/
def readEscapedCode (c : Char) : Reader Nat := do
  match c with
  | 'x' => takeHex 2
  | 'u' => takeHex 4
  | 'U' => do
    let code ← takeHex 8
    if 0x80000000 ≤ code then fail .codeTooLarge
    if code ≤ 0x10FFFF then return code else refuse
  | 'N' => readCharName
  | c => if c.isAlpha then refuse else return c.toNat

/-- What an escape inside a character set stands for. -/
def readSetEscape (flags : Flags) (c : Char) : Reader SetItem := do
  match controls.lookup c, categories.lookup c with
  | some code, _ => return .range code code
  | none, some (category, negated) => return .ofCategory category negated flags.ascii
  | none, none =>
    if isOctal c then
      let code := Text.numeral 8 (c :: (← takeWhile isOctal 2))
      if 0o377 < code then refuse
      return .range code code
    else if isDigit c then refuse
    else
      let code ← readEscapedCode c
      return .range code code

/-- The code of an item that is a single character. -/
def SetItem.code? : SetItem → Option Nat
  | range low high => if low = high then some low else none
  | ofCategory .. => none

/-- One end of a range or a single item of a character set, its first token taken. -/
def readSetItem (flags : Flags) : Token → Reader SetItem
  | .plain c => return .range c.toNat c.toNat
  | .escaped c => readSetEscape flags c
  | .dangling => refuse

/-- The items of a character set up to its closing bracket; a bracket in the first place is an
item. Each item takes a token. -/
def readSet (flags : Flags) : (fuel : Nat) → (items : List SetItem) → Reader (List SetItem)
  | 0, _ => refuse
  | fuel + 1, items => do
    let token ← need
    if token = .plain ']' ∧ !items.isEmpty then return items
    let first ← readSetItem flags token
    if ← accept '-' then
      let token ← need
      if token = .plain ']' then return items ++ [first, .range 45 45]
      let second ← readSetItem flags token
      match first.code?, second.code? with
      | some low, some high =>
        if high < low then refuse
        readSet flags fuel (items ++ [.range low high])
      | _, _ => refuse
    else readSet flags fuel (items ++ [first])

/-- What an item of a sequence is, as far as a repetition behind it minds. -/
inductive Role where
  | plain
  | anchor
  | loop
deriving DecidableEq

/-- An item of a sequence. -/
structure Item where
  expr : Expr
  role : Role

/-- An item that may be repeated. -/
def Item.of (expr : Expr) : Item := ⟨expr, .plain⟩

/-- The sequence of items given in reverse. -/
def sequence (items : List Item) : Expr :=
  items.foldl (fun rest item =>
    match rest with
    | .empty => item.expr
    | rest => .seq item.expr rest) .empty

def literal (flags : Flags) (code : Nat) : Item :=
  .of (.one (.only flags.folding code))

/-- A reference back to a group, whose number may have a second digit. Three octal digits are a
character instead. -/
def readBack (flags : Flags) (c : Char) : Reader Item := do
  let more ← takeWhile isDigit 1
  let third ←
    match more with
    | [d] => if isOctal c && isOctal d then takeWhile isOctal 1 else pure []
    | _ => pure []
  if !third.isEmpty then
    let code := Text.numeral 8 (c :: more ++ third)
    if 0o377 < code then refuse
    return literal flags code
  else
    let index := Text.numeral 10 (c :: more)
    if (← groupCount) ≤ index then refuse
    if !(← isClosed index) then refuse
    checkBehind index
    return .of (.back index flags.folding)

/-- What an escape outside character sets stands for. -/
def readEscape (flags : Flags) (c : Char) : Reader Item := do
  match c, controls.lookup c, categories.lookup c with
  | 'A', _, _ => return ⟨.anchor .start, .anchor⟩
  | 'Z', _, _ => return ⟨.anchor .finish, .anchor⟩
  | 'b', _, _ => return ⟨.anchor (.boundary flags.ascii), .anchor⟩
  | 'B', _, _ => return ⟨.anchor (.noBoundary flags.ascii), .anchor⟩
  | _, some code, _ => return literal flags code
  | _, none, some (category, negated) =>
    return .of (.one (.within false flags.folding [.ofCategory category negated flags.ascii]))
  | '0', none, none => return literal flags (Text.numeral 8 (← takeWhile isOctal 2))
  | c, none, none =>
    if isDigit c then readBack flags c else return literal flags (← readEscapedCode c)

/-- The greatest count of a repetition, plus one. -/
def repetitionLimit : Nat := 4294967295

/-- The digits of the counts of a repetition in braces, and how many tokens they are with the comma and
the closing brace; nothing if the brace stands for itself. -/
def braces? (tokens : List Token) : Option (List Char × List Char × Nat) :=
  let low := spanPlain isDigit tokens
  match tokens.drop low.length with
  | .plain '\x7d' :: _ => if low.isEmpty then none else some (low, low, low.length + 1)
  | .plain ',' :: rest =>
    let high := spanPlain isDigit rest
    if rest[high.length]? = some (.plain '\x7d') then some (low, high, low.length + high.length + 2)
    else none
  | _ => none

/-- A count of a repetition, if digits are given. -/
def readCount (digits : List Char) : Reader (Option Nat) := do
  if digits.isEmpty then return none
  if Text.maxDigits < digits.length then fail .numberTooLong
  let count := Text.numeral 10 digits
  if repetitionLimit ≤ count then fail .tooManyRepetitions
  return some count

/-- The least and the greatest number of times. -/
abbrev Counts := Nat × Option Nat

/-- The counts that a repetition sign stands for; nothing if the sign stands for itself. -/
def readCounts (c : Char) : Reader (Option Counts) := do
  match c with
  | '?' => return some (0, some 1)
  | '*' => return some (0, none)
  | '+' => return some (1, none)
  | _ =>
    match braces? (← progress).tokens with
    | none => return none
    | some (low, high, count) => do
      skip count
      let least := (← readCount low).getD 0
      let most ← readCount high
      if (most.map (decide <| · < least)).getD false then refuse
      return some (least, most)

/-- In which order a repetition tries its counts, by the sign behind it. -/
def readGreed : Reader Greed := do
  if ← accept '?' then return .lazy
  if ← accept '+' then return .possessive
  return .greedy

/-- Repeats the latest item. -/
def readRepetition (counts : Counts) : List Item → Reader (List Item)
  | ⟨expr, .plain⟩ :: items => do
    return ⟨.loop counts.1 counts.2 (← readGreed) expr, .loop⟩ :: items
  | _ => refuse

/-- Flag letters up to a character that ends them. -/
def spanFlags (ends : List Char) : List Token → Option (List Char × Char)
  | .plain c :: rest =>
    if c ∈ ends then some ([], c)
    else if c ∈ flagLetters ∧ c ≠ 'L' then
      (spanFlags ends rest).map fun (letters, stop) => (c :: letters, stop)
    else none
  | _ => none

/-- Takes flag letters and the character that ends them. -/
def takeFlags (ends : List Char) : Reader (List Char × Char) := do
  match spanFlags ends (← progress).tokens with
  | none => refuse
  | some (letters, stop) =>
    skip (letters.length + 1)
    return (letters, stop)

/-- Flags for the whole pattern, or flags set and cleared for one group. -/
inductive FlagChange where
  | whole (added : List Char)
  | scoped (added removed : List Char)

/-- The flags behind a question mark. -/
def readFlags : Reader FlagChange := do
  let (added, stop) ← takeFlags [')', '-', ':']
  if 'a' ∈ added ∧ 'u' ∈ added then refuse
  if stop = ')' then
    if added.isEmpty then refuse
    return .whole added
  if 't' ∈ added then refuse
  if stop = ':' then return .scoped added []
  let (removed, _) ← takeFlags [':']
  if removed.isEmpty then refuse
  if removed.any (· ∈ ['a', 'u', 't']) then refuse
  if removed.any (· ∈ added) then refuse
  return .scoped added removed

def openGroup (name : Option String) : Reader Nat := do
  let index ← groupCount
  match name with
  | none => pure ()
  | some name =>
    if (← progress).names.has name then refuse
    update fun progress => { progress with names := progress.names.put name index }
  update fun progress => { progress with widths := progress.widths ++ [none] }
  return index

/-- The widths of the groups that have ended. -/
def Progress.width (progress : Progress) (index : Nat) : Width :=
  ((progress.widths.getD (index - 1) none)).getD ⟨0, 0⟩

def closeGroup (index : Nat) (body : Expr) : Reader Unit :=
  update fun progress =>
    { progress with widths := progress.widths.set (index - 1) (some (body.width progress.width)) }

/-- The number that a group may not reach. -/
def groupLimit : Nat := 1073741823

/-- The group that a condition asks for. -/
def readCondition : Reader Nat := do
  let name ← takeName ')'
  let index ←
    if Text.isIdentifier name then
      match (← progress).names.lookup name with
      | some index => pure index
      | none => refuse
    else
      match Text.readInt name with
      | some number =>
        if number ≤ 0 ∨ groupLimit ≤ number then refuse
        update fun progress => { progress with conditions := number.toNat :: progress.conditions }
        pure number.toNat
      | none => refuse
  checkBehind index
  return index

def skipComment : Reader Unit := do
  skip ((← before ')').length + 1)

/-- Skips a comment up to the end of its line or of the pattern. -/
def skipLine : Reader Unit := do
  let comment := (← progress).tokens.takeWhile (· != .plain '\n')
  if .dangling ∈ comment then refuse
  skip (comment.length + 1)

/-- The blanks that a verbose pattern ignores. -/
def isIgnored (c : Char) : Bool :=
  c == ' ' || (9 ≤ c.toNat && c.toNat ≤ 13)

/-- Takes the name in a named group or a named reference back. -/
def readGroupName (terminator : Char) : Reader String := do
  let name ← takeName terminator
  if Text.isIdentifier name then return name else refuse

def readNamedBack (flags : Flags) : Reader Item := do
  let name ← readGroupName ')'
  match (← progress).names.lookup name with
  | none => refuse
  | some index =>
    if !(← isClosed index) then refuse
    checkBehind index
    return .of (.back index flags.folding)

/-- A bracket of which the body has not been read. -/
inductive Opening where
  | captured (name : Option String)
  /-- The flags within, and what the body is read as. -/
  | inner (flags : Flags) (meaning : Expr → Expr)
  | behind (negated : Bool)
  /-- A choice that depends on whether a group has matched. -/
  | given (index : Nat)

/-- What comes next in a sequence. -/
inductive Element where
  /-- A bar, a closing bracket or the end. -/
  | finish
  /-- Something that stands for nothing; the flags for what follows it. -/
  | nothing (flags : Flags)
  | item (item : Item)
  | repetition (counts : Counts)
  | opening (opening : Opening)

/-- What an opening bracket with a question mark begins. Flags for the whole pattern may be set only as
long as it has no items. -/
def readExtension (flags : Flags) (first : Bool) : Reader Element := do
  match ← peek with
  | some (.plain 'P') => do
    skip 1
    if ← accept '<' then return .opening (.captured (some (← readGroupName '>')))
    expect '='
    return .item (← readNamedBack flags)
  | some (.plain ':') => do
    skip 1
    return .opening (.inner flags id)
  | some (.plain '>') => do
    skip 1
    return .opening (.inner flags .atomic)
  | some (.plain '#') => do
    skip 1
    skipComment
    return .nothing flags
  | some (.plain '=') => do
    skip 1
    return .opening (.inner flags (.ahead false))
  | some (.plain '!') => do
    skip 1
    return .opening (.inner flags (.ahead true))
  | some (.plain '<') => do
    skip 1
    match ← need with
    | .plain '=' => return .opening (.behind false)
    | .plain '!' => return .opening (.behind true)
    | _ => refuse
  | some (.plain '(') => do
    skip 1
    return .opening (.given (← readCondition))
  | _ =>
    match ← readFlags with
    | .whole added => do
      if !first then refuse
      update fun progress => { progress with flags := added.foldl (Flags.set true) progress.flags }
      return .nothing (← progress).flags
    | .scoped added removed => return .opening (.inner (flags.within added removed) id)

/-- What a character that has been taken begins. -/
def readPlain (flags : Flags) (first : Bool) (c : Char) : Reader Element := do
  if flags.verbose && isIgnored c then return .nothing flags
  if flags.verbose && c == '#' then
    skipLine
    return .nothing flags
  match c with
  | '[' =>
    let negated ← accept '^'
    let set ← readSet flags ((← progress).tokens.length + 1) []
    return .item (.of (.one (.within negated flags.folding set)))
  | '.' => return .item (.of (.one (if flags.dotAll then .any else .anyButNewline)))
  | '^' => return .item ⟨.anchor (if flags.multiline then .lineStart else .start), .anchor⟩
  | '$' => return .item ⟨.anchor (if flags.multiline then .lineEnd else .beforeLastBreak), .anchor⟩
  | '(' => if ← accept '?' then readExtension flags first else return .opening (.captured none)
  | c =>
    if c == '*' || c == '+' || c == '?' || c == '\x7b' then
      match ← readCounts c with
      | some counts => return .repetition counts
      | none => return .item (literal flags c.toNat)
    else return .item (literal flags c.toNat)

/-- What comes next; it is taken unless it ends the sequence. -/
def readElement (flags : Flags) (first : Bool) : Reader Element := do
  match ← peek with
  | none | some (.plain '|') | some (.plain ')') => return .finish
  | some token =>
    skip 1
    match token with
    | .plain c => readPlain flags first c
    | .escaped c => return .item (← readEscape flags c)
    | .dangling => refuse

mutual

/-- Alternatives up to a closing bracket or the end. At the top the first of them may set flags for
the whole pattern. -/
def readAlternatives (fuel : Nat) (flags : Flags) (top : Bool) : Reader Expr :=
  match fuel with
  | 0 => refuse
  | fuel + 1 => do
    let first ← readSequence fuel flags top []
    readMore fuel flags top first

/-- Further alternatives behind the first ones. -/
def readMore (fuel : Nat) (flags : Flags) (top : Bool) (left : Expr) : Reader Expr :=
  match fuel with
  | 0 => refuse
  | fuel + 1 => do
    if ← accept '|' then
      let progress ← progress
      let flags := if top then progress.flags else flags
      let right ← readSequence fuel flags false []
      return .alt left (← readMore fuel flags top right)
    else return left

/-- A sequence up to a bar, a closing bracket or the end; the items read so far are in reverse. -/
def readSequence (fuel : Nat) (flags : Flags) (top : Bool) (items : List Item) : Reader Expr :=
  match fuel with
  | 0 => refuse
  | fuel + 1 => do
    match ← readElement flags (top && items.isEmpty) with
    | .finish => return sequence items
    | .nothing flags => readSequence fuel flags top items
    | .item item => readSequence fuel flags top (item :: items)
    | .repetition counts => readSequence fuel flags top (← readRepetition counts items)
    | .opening opening =>
      let item ← readBracket fuel flags opening
      readSequence fuel flags top (item :: items)

/-- The body of a bracket and its end. -/
def readBracket (fuel : Nat) (flags : Flags) (opening : Opening) : Reader Item :=
  match fuel with
  | 0 => refuse
  | fuel + 1 =>
    match opening with
    | .captured name => do
      let index ← openGroup name
      let body ← readAlternatives fuel flags false
      expect ')'
      closeGroup index body
      return .of (.group index body)
    | .inner flags meaning => do
      let body ← readAlternatives fuel flags false
      expect ')'
      return .of (meaning body)
    | .behind negated => do
      let outer := (← progress).behind
      let count ← groupCount
      update ({ · with behind := some (outer.getD count) })
      let body ← readAlternatives fuel flags false
      update ({ · with behind := outer })
      expect ')'
      return .of (.behind negated (body.width (← progress).width).low body)
    | .given index => do
      let yes ← readSequence fuel flags false []
      let no ← if ← accept '|' then readSequence fuel flags false [] else pure .empty
      expect ')'
      return .of (.given index yes no)

end

/-- What a whole pattern is once all of it has been read. Flags are judged before anything else. -/
def Progress.conclude (progress : Progress) (expr : Expr) : Except Fault (Expr × Nat) :=
  if progress.flags.ascii && progress.flags.unicode then .error .mixedAlphabets
  else if !progress.tokens.isEmpty then .error .malformed
  else if progress.conditions.any (progress.widths.length < ·) then .error .malformed
  else if !expr.looksFixed progress.width then .error .malformed
  else if progress.flags.template && expr.hasLoop then .error .malformed
  else .ok (expr, progress.widths.length)

/-- Reads the tokens of a whole pattern: its structure and its number of groups. -/
def readTokens (fuel : Nat) (tokens : List Token) : Except Fault (Expr × Nat) :=
  if tokens.head? = some .dangling then .error .malformed
  else
    match (readAlternatives fuel .none true).run (.start tokens) with
    | .ok step => step.after.conclude step.value
    | .error fault => .error fault

/-- Reads a whole pattern. Each token is good for a sequence, a bracket and its alternatives. -/
def readPattern (text : List Char) : Except Fault (Expr × Nat) :=
  readTokens (3 * (tokens text).length + 2) (tokens text)

end Telemetry.Pattern
