import Telemetry.Document.Lexer
import Telemetry.Text.Lines

/-!
The nodes of a document: nested lists and mappings whose texts have types, but no values yet.

Names of nodes are gone: where a node is named, a copy of it stands. A node within itself is only
marked, for it can be told apart from a fault by where it stands: a list may hold itself, a mapping
may only with a list in between.
-/

namespace Telemetry.Document

inductive Tag where
  | null
  | truth
  | integer
  | real
  | octets
  | timestamp
  | text
  | list
  | mapping
  | set
  | pairs
  /-- The key that stands for the mapping's own value. -/
  | default
  /-- The key that stands for the entries of other mappings. -/
  | merge
  | other
deriving DecidableEq, Repr

inductive Node where
  | text (tag : Tag) (text : String)
  | list (tag : Tag) (items : List Node)
  | mapping (tag : Tag) (entries : List (Node × Node))
  | again (isList : Bool)
  | endless
deriving Repr, Inhabited

namespace Tag

/-- The beginning of the names of the types that every document knows. -/
def common : String := "tag:yaml.org,2002:"

def names : List (String × Tag) := [
  ("null", null), ("bool", truth), ("int", integer), ("float", real), ("binary", octets),
  ("timestamp", timestamp), ("str", text), ("seq", list), ("map", mapping), ("set", set),
  ("pairs", pairs), ("omap", pairs), ("value", default), ("merge", merge)]

def ofName (name : String) : Tag :=
  let cs := name.toList
  if common.toList.isPrefixOf cs then
    (names.lookup (String.ofList (cs.drop common.length))).getD other
  else other

end Tag

/-! ### The types of plain texts -/

/-- Is the character a decimal digit or an underscore? -/
def isDigitOrBar (c : Char) : Bool :=
  ('0' ≤ c && c ≤ '9') || c == '_'

def isDecimal (c : Char) : Bool :=
  '0' ≤ c && c ≤ '9'

/-- A text without a sign in front. -/
def unsigned : List Char → List Char
  | '+' :: rest => rest
  | '-' :: rest => rest
  | rest => rest

/-- Does the text begin with a digit, and go on with digits and underscores? Gives what follows. -/
def afterDigits? : List Char → Option (List Char)
  | c :: rest => if isDecimal c then some (rest.dropWhile isDigitOrBar) else none
  | [] => none

/-- Is there an exponent with a sign, or nothing? -/
def isExponent : List Char → Bool
  | [] => true
  | e :: sign :: digits =>
    (e == 'e' || e == 'E') && (sign == '+' || sign == '-') && !digits.isEmpty && digits.all isDecimal
  | _ => false

/-- One or two digits below sixty. -/
def isSixtieth : List Char → Bool
  | [a] => isDecimal a
  | [a, b] => '0' ≤ a && a ≤ '5' && isDecimal b
  | _ => false

/-- The parts of a text between colons. -/
def colonParts (cs : List Char) : List (List Char) :=
  Text.fieldsOf ':' cs

/-- Is the text a number in parts of sixty, its last one with a point if `pointed`? -/
def isSixties (pointed : Bool) (first : Char → Bool) (cs : List Char) : Bool :=
  match colonParts cs with
  | head :: part :: parts =>
    let parts := part :: parts
    let last := parts.getLastD []
    let whole := last.takeWhile isDecimal
    (head.head?.map first).getD false && head.all isDigitOrBar && parts.dropLast.all isSixtieth &&
      isSixtieth whole &&
      match last.dropWhile isDecimal with
      | [] => !pointed
      | c :: rest => pointed && c == '.' && rest.all isDigitOrBar
  | _ => false

/-- Is the text a number with a point? -/
def isPointed (cs : List Char) : Bool :=
  match afterDigits? (unsigned cs) with
  | some ('.' :: rest) => isExponent (rest.dropWhile isDigitOrBar)
  | _ =>
    match cs with
    | '.' :: rest => ((afterDigits? rest).map isExponent).getD false
    | _ => false

/-- Does the text stand for a floating-point number? -/
def isReal (cs : List Char) : Bool :=
  isPointed cs || isSixties true isDecimal (unsigned cs) ||
    unsigned cs ∈ [".inf".toList, ".Inf".toList, ".INF".toList] ||
    cs ∈ [".nan".toList, ".NaN".toList, ".NAN".toList]

/-- Is the character a digit that no number begins with zero by? -/
def isPositive (c : Char) : Bool :=
  '1' ≤ c && c ≤ '9'

def isInteger (cs : List Char) : Bool :=
  match unsigned cs with
  | '0' :: 'b' :: digits => !digits.isEmpty && digits.all fun c => c == '0' || c == '1' || c == '_'
  | '0' :: 'x' :: digits => !digits.isEmpty && digits.all fun c => (Text.hexValue? c).isSome || c == '_'
  | ['0'] => true
  | '0' :: digits => digits.all fun c => ('0' ≤ c && c ≤ '7') || c == '_'
  | c :: digits => isPositive c && (digits.all isDigitOrBar || isSixties false isPositive (c :: digits))
  | [] => false

/-- So many digits at the beginning, and what follows. -/
def takeDecimals : (count : Nat) → List Char → Option (List Char × List Char)
  | 0, rest => some ([], rest)
  | count + 1, c :: rest =>
    if isDecimal c then (takeDecimals count rest).map fun (digits, rest) => (c :: digits, rest) else none
  | _ + 1, [] => none

/-- One or two digits at the beginning, and what follows. -/
def takeUpToTwo (cs : List Char) : Option (List Char × List Char) :=
  (takeDecimals 2 cs).or (takeDecimals 1 cs)

/-- A given character at the beginning is passed. -/
def expect (c : Char) : List Char → Option (List Char)
  | d :: rest => if c = d then some rest else none
  | [] => none

/-- The parts of a timestamp, as digits. -/
structure TimestampParts where
  year : List Char
  month : List Char
  day : List Char
  /-- The hour, the minute, the second, and the digits behind the point. -/
  clock : Option (List Char × List Char × List Char × List Char) := none
  /-- The distance from universal time: is it negative, its hours, its minutes. -/
  offset : Option (Bool × List Char × List Char) := none
deriving Repr

/-- The distance from universal time at the end of a timestamp. -/
def takeOffset (cs : List Char) : Option (Option (Bool × List Char × List Char)) :=
  match cs.dropWhile isGap with
  | [] => if cs.isEmpty then some none else none
  | ['Z'] => some (some (false, ['0'], ['0']))
  | sign :: rest =>
    if sign = '+' ∨ sign = '-' then do
      let (hours, rest) ← takeUpToTwo rest
      match rest with
      | [] => pure (some (sign == '-', hours, ['0']))
      | ':' :: rest => do
        let (minutes, rest) ← takeDecimals 2 rest
        if rest.isEmpty then pure (some (sign == '-', hours, minutes)) else none
      | _ => none
    else none

/-- The time of day in a timestamp, and what follows. -/
def takeClock (cs : List Char) :
    Option ((List Char × List Char × List Char × List Char) × List Char) := do
  let (hour, rest) ← takeUpToTwo cs
  let (minute, rest) ← takeDecimals 2 (← expect ':' rest)
  let (second, rest) ← takeDecimals 2 (← expect ':' rest)
  match rest with
  | '.' :: rest => pure ((hour, minute, second, rest.takeWhile isDecimal), rest.dropWhile isDecimal)
  | rest => pure ((hour, minute, second, []), rest)

/-- The parts of a timestamp: a day, and possibly a time of day and an offset. -/
def timestampParts? (cs : List Char) : Option TimestampParts := do
  let (year, rest) ← takeDecimals 4 cs
  let (month, rest) ← takeUpToTwo (← expect '-' rest)
  let (day, rest) ← takeUpToTwo (← expect '-' rest)
  match rest with
  | [] => pure { year, month, day }
  | c :: rest => do
    if c = 'T' ∨ c = 't' ∨ isGap c then
      let rest := if isGap c then rest.dropWhile isGap else rest
      let (clock, rest) ← takeClock rest
      let offset ← takeOffset rest
      pure { year, month, day, clock := some clock, offset }
    else none

/-- Does the text stand for a timestamp? A day alone needs two digits for each of its parts. -/
def isTimestamp (cs : List Char) : Bool :=
  match timestampParts? cs with
  | some parts => parts.clock.isSome || (parts.month.length == 2 && parts.day.length == 2)
  | none => false

/-- The type of a plain text. A line feed at its end does not count. -/
def plainTag (text : String) : Tag :=
  let cs := text.toList
  let cs := if cs.getLast? = some '\n' then cs.dropLast else cs
  if isReal cs then .real
  else if isInteger cs then .integer
  else if cs = ['<', '<'] then .merge
  else if cs.isEmpty ∨ cs ∈ [['~'], "null".toList, "Null".toList, "NULL".toList] then .null
  else if isTimestamp cs then .timestamp
  else if cs = ['='] then .default
  else if cs ∈ [['!'], ['&'], ['*']] then .other
  else .text

/-! ### Entries taken over from other mappings -/

def Node.isMerge : Node → Bool
  | .text tag _ | .list tag _ | .mapping tag _ => tag = .merge
  | .again _ | .endless => false

mutual

/-- The entries that are taken over from other mappings, and the others. -/
def splitMerged : List (Node × Node) → Option (List (Node × Node) × List (Node × Node))
  | [] => some ([], [])
  | (key, value) :: entries => do
    let (taken, own) ← splitMerged entries
    if key.isMerge then pure ((← sharedEntries value) ++ taken, own)
    else pure (taken, (key, value) :: own)

def sharedEntries : Node → Option (List (Node × Node))
  | .mapping _ entries => do
    let (taken, own) ← splitMerged entries
    pure (taken ++ own)
  | .list _ items => allSharedEntries items
  | _ => none

/-- The entries of mappings, those of the last one first. -/
def allSharedEntries : List Node → Option (List (Node × Node))
  | [] => some []
  | .mapping _ entries :: items => do
    let later ← allSharedEntries items
    let (taken, own) ← splitMerged entries
    pure (later ++ taken ++ own)
  | _ :: _ => none

end

/-- The entries of a set with those that it takes over in front. -/
def memberEntries (entries : List (Node × Node)) : List (Node × Node) :=
  match splitMerged entries with
  | some (taken, own) => taken ++ own
  | none => [(.endless, .endless)]

/-! ### Nodes from tokens -/

/-- A named node: as it is, or not yet complete. -/
inductive Named where
  | complete (node : Node)
  /-- A list or mapping that is being read, and the number of lists around it. -/
  | incomplete (isList : Bool) (lists : Nat)
deriving Repr

/-- What is known while nodes are read: the tokens left, the fault behind them, the handles and the
named nodes. -/
structure Reading where
  tokens : List Token
  fault : Option Fault
  handles : List (String × String) := [("!", "!"), ("!!", Tag.common)]
  named : List (String × Named) := []

/-- A computation that reads nodes. -/
abbrev Composing := StateT Reading (Except Fault)

namespace Composing

/-- The next token. Where tokens end early, it is the fault that ended them. -/
def peek : Composing Token := do
  let reading ← get
  match reading.tokens with
  | token :: _ => pure token
  | [] => throw (reading.fault.getD .malformed)

def pass : Composing Unit :=
  modify fun reading => { reading with tokens := reading.tokens.drop 1 }

/-- Passes the next token if it is the given one. -/
def passIf (token : Token) : Composing Bool := do
  if (← peek) = token then
    pass
    pure true
  else pure false

/-- Passes the next token, which must be the given one. -/
def require (token : Token) : Composing Unit := do
  if !(← passIf token) then throw .malformed

def name (anchor : Option String) (named : Named) : Composing Unit :=
  match anchor with
  | some anchor => modify fun reading => { reading with named := (anchor, named) :: reading.named }
  | none => pure ()

/-- The type that a written tag stands for; none for one that leaves the type open. -/
def tagOf (written : WrittenTag) : Composing (Option Tag) := do
  match written.handle with
  | none => pure (if written.suffix = "!" then none else some (Tag.ofName written.suffix))
  | some handle =>
    match (← get).handles.lookup handle with
    | none => throw .malformed
    | some text =>
      let name := text ++ written.suffix
      pure (if name = "!" then none else some (Tag.ofName name))

/-- The name and the tag in front of a node, in either order. -/
def properties : Composing (Option String × Option WrittenTag) := do
  match ← peek with
  | .anchor anchor =>
    pass
    match ← peek with
    | .tag tag =>
      pass
      pure (some anchor, some tag)
    | _ => pure (some anchor, none)
  | .tag tag =>
    pass
    match ← peek with
    | .anchor anchor =>
      pass
      pure (some anchor, some tag)
    | _ => pure (none, some tag)
  | _ => pure (none, none)

/-- The node of a name. `lists` is the number of lists around the place where it is used. -/
def aliased (name : String) (lists : Nat) : Composing Node := do
  match (← get).named.lookup name with
  | none => throw .malformed
  | some (.complete node) => pure node
  | some (.incomplete isList outside) => pure (if outside < lists then .again isList else .endless)

/-- The empty text where a node is missing. -/
def empty : Node := .text .null ""

end Composing

/-- Where nodes stand: in a block, as the value of a key in one, or within brackets. -/
inductive Place where
  | block
  | blockValue
  | flow
deriving DecidableEq, Repr

/-- What is read: a node, or the rest of a list or of a mapping. -/
inductive Goal : Type → Type where
  | node (place : Place) : Goal Node
  | blockItems : Goal (List Node)
  | looseItems : Goal (List Node)
  | blockEntries : Goal (List (Node × Node))
  | flowItems (first : Bool) : Goal (List Node)
  | flowEntries (first : Bool) : Goal (List (Node × Node))

open Composing in
/-- Reads a goal. `lists` is the number of lists around it. -/
def compose : (fuel : Nat) → (lists : Nat) → {α : Type} → Goal α → Composing α
  | 0, _, _, _ => throw .malformed
  | fuel + 1, lists, _, .node place => do
    match ← peek with
    | .alias name =>
      pass
      aliased name lists
    | _ =>
      let (anchor, written) ← properties
      let explicit ← match written with
        | some written => tagOf written
        | none => pure none
      match anchor with
      | some anchor => if ((← get).named.lookup anchor).isSome then throw .malformed
      | none => pure ()
      let finish := fun (node : Node) => do
        name anchor (.complete node)
        pure node
      let listOf := fun (goal : Goal (List Node)) => do
        name anchor (.incomplete true lists)
        finish (.list (explicit.getD .list) (← compose fuel (lists + 1) goal))
      let mappingOf := fun (goal : Goal (List (Node × Node))) => do
        name anchor (.incomplete false lists)
        let entries ← compose fuel lists goal
        let tag := explicit.getD .mapping
        finish (.mapping tag (if tag = .set then memberEntries entries else entries))
      match ← peek with
      | .text text isPlain =>
        pass
        let isOpen := (isPlain && written.isNone) || (written.isSome && explicit.isNone)
        finish (.text (explicit.getD (if isOpen then plainTag text else .text)) text)
      | .flowList => do
        pass
        listOf (.flowItems true)
      | .flowMapping => do
        pass
        mappingOf (.flowEntries true)
      | .blockEntry =>
        if place = .blockValue then listOf .looseItems
        else if anchor.isSome ∨ written.isSome then finish (.text (explicit.getD .null) "")
        else throw .malformed
      | .blockList =>
        if place = .flow then
          if anchor.isSome ∨ written.isSome then finish (.text (explicit.getD .null) "")
          else throw .malformed
        else do
          pass
          listOf .blockItems
      | .blockMapping =>
        if place = .flow then
          if anchor.isSome ∨ written.isSome then finish (.text (explicit.getD .null) "")
          else throw .malformed
        else do
          pass
          mappingOf .blockEntries
      | _ =>
        if anchor.isSome ∨ written.isSome then finish (.text (explicit.getD .null) "")
        else throw .malformed
  | fuel + 1, lists, _, .blockItems => do
    if ← passIf .blockEntry then
      let next ← peek
      let item ← if next = .blockEntry ∨ next = .blockEnd then pure empty
        else compose fuel lists (.node .block)
      pure (item :: (← compose fuel lists .blockItems))
    else
      require .blockEnd
      pure []
  | fuel + 1, lists, _, .looseItems => do
    if ← passIf .blockEntry then
      let next ← peek
      let item ← if next ∈ [.blockEntry, .key, .value, .blockEnd] then pure empty
        else compose fuel lists (.node .block)
      pure (item :: (← compose fuel lists .looseItems))
    else pure []
  | fuel + 1, lists, _, .blockEntries => do
    let half := do
      if (← peek) ∈ [Token.key, .value, .blockEnd] then pure empty
      else compose fuel lists (.node .blockValue)
    if ← passIf .key then
      let key ← half
      let value ← if ← passIf .value then half else pure empty
      pure ((key, value) :: (← compose fuel lists .blockEntries))
    else
      require .blockEnd
      pure []
  | fuel + 1, lists, _, .flowItems first => do
    if ← passIf .flowListEnd then pure []
    else
      if !first then require .flowEntry
      if ← passIf .key then
        let key ← if (← peek) ∈ [Token.value, .flowEntry, .flowListEnd] then pure empty
          else compose fuel lists (.node .flow)
        let value ← if ← passIf .value then
            if (← peek) ∈ [Token.flowEntry, .flowListEnd] then pure empty
            else compose fuel lists (.node .flow)
          else pure empty
        pure (.mapping .mapping [(key, value)] :: (← compose fuel lists (.flowItems false)))
      else if ← passIf .flowListEnd then pure []
      else
        let item ← compose fuel lists (.node .flow)
        pure (item :: (← compose fuel lists (.flowItems false)))
  | fuel + 1, lists, _, .flowEntries first => do
    if ← passIf .flowMappingEnd then pure []
    else
      if !first then require .flowEntry
      if ← passIf .key then
        let key ← if (← peek) ∈ [Token.value, .flowEntry, .flowMappingEnd] then pure empty
          else compose fuel lists (.node .flow)
        let value ← if ← passIf .value then
            if (← peek) ∈ [Token.flowEntry, .flowMappingEnd] then pure empty
            else compose fuel lists (.node .flow)
          else pure empty
        pure ((key, value) :: (← compose fuel lists (.flowEntries false)))
      else if ← passIf .flowMappingEnd then pure []
      else
        let key ← compose fuel lists (.node .flow)
        pure ((key, empty) :: (← compose fuel lists (.flowEntries false)))

namespace Composing

/-- Passes marks for the end of a document. -/
def passEnds : (fuel : Nat) → Composing Unit
  | 0 => pure ()
  | fuel + 1 => do
    if ← passIf .documentEnd then passEnds fuel

/-- The directives in front of a document: at most one version, which must be the first, and handles,
each of them once. -/
def directives : (fuel : Nat) → (versioned : Bool) → (handles : List (String × String)) →
    Composing (List (String × String))
  | 0, _, handles => pure handles
  | fuel + 1, versioned, handles => do
    match ← peek with
    | .version major =>
      pass
      if versioned ∨ major ≠ 1 then throw .malformed else directives fuel true handles
    | .handle name text =>
      pass
      if (handles.lookup name).isSome then throw .malformed
      else directives fuel versioned ((name, text) :: handles)
    | .otherDirective =>
      pass
      directives fuel versioned handles
    | _ => pure handles

/-- The root of the only document; nothing for an empty text. -/
def root (fuel : Nat) : Composing (Option Node) := do
  let content := do
    let node ← compose fuel 0 (.node .block)
    pure (some node)
  let node ← match ← peek with
    | .streamEnd => pure none
    | .version _ | .handle _ _ | .otherDirective | .documentStart =>
      let handles ← directives fuel false []
      modify fun reading => { reading with handles := handles ++ reading.handles }
      require .documentStart
      match ← peek with
      | .version _ | .handle _ _ | .otherDirective | .documentStart | .documentEnd | .streamEnd =>
        pure (some empty)
      | _ => content
    | _ => content
  passEnds fuel
  if (← peek) = .streamEnd then pure node else throw .malformed

end Composing

/-- The root node of a text; nothing for an empty one. -/
def rootOf (text : String) : Except Fault (Option Node) :=
  let (tokens, fault) := tokens text.toList
  let fuel := 4 * tokens.length + 8
  ((Composing.root fuel).run { tokens, fault }).map Prod.fst

end Telemetry.Document
