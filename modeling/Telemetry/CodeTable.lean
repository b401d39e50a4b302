import Telemetry.Network
import Telemetry.Pattern
import Telemetry.Refresh
import Telemetry.Text.Lines
import Telemetry.Text.Quoted

/-!
Code tables tell what codes stand for. A table is a page whose lines match a pattern; each group of the
pattern has a relation's name, and a value is decoded from one relation to another. The lines that
matched are cached, and the line found last is remembered as well.
-/

namespace Telemetry

structure CodeTable where
  name : String
  url : Option String := none
  pattern : Option Pattern := none
  /-- The names of the pattern's groups. -/
  relations : List String := []
  /-- The declared types of the relations. -/
  types : List String := []
  /-- The refresh interval in milliseconds. -/
  refresh : Int
  cached : Bool
  /-- The timeout of requests in milliseconds. -/
  timeout : Int
  /-- When the page was last fetched; zero for never. -/
  lastFetch : Int := 0
  /-- The line found last. -/
  lastLine : Option String := none
  /-- The lines that matched when the page was last fetched. -/
  lines : Option (List String) := none
deriving DecidableEq, Repr

namespace CodeTable

/-- The most lines of a page that are looked at. -/
def maxLines : Nat := 1000

def relationType (table : CodeTable) (relation : String) : Option String :=
  (table.relations.idxOf? relation).bind (table.types[·]?)

/-- Must the page be fetched again? -/
def isStale (table : CodeTable) (now : Int) : Bool :=
  !table.cached || Refresh.isStale table.lastFetch table.refresh now

/-- Must the page be fetched again by now? The clock is only read where pages are cached. -/
def isStaleNow (table : CodeTable) : Online Bool := do
  if table.cached then return table.isStale (← Online.now) else return true

@[simp] theorem run_isStaleNow (table : CodeTable) (network : Network) :
    table.isStaleNow.run network =
      (table.isStale network.reading, network.readIf table.cached) := by
  unfold isStaleNow isStale Network.readIf
  cases table.cached with
  | false => rfl
  | true => rfl

/-- Between which two groups of a pattern a decoding goes. -/
structure Direction where
  pattern : Pattern
  input : Nat
  output : Nat
deriving DecidableEq, Repr

/-- Why a table cannot decode between two relations. -/
inductive Fault where
  | noPattern
  | unknownRelation
  | tooFewGroups (groups needed : Nat)
deriving DecidableEq, Repr

def direction (table : CodeTable) (source target : String) : Except Fault Direction :=
  match table.pattern with
  | none => .error .noPattern
  | some pattern =>
    match table.relations.idxOf? source, table.relations.idxOf? target with
    | some input, some output =>
      let needed := max input output + 1
      if pattern.groups < needed then .error (.tooFewGroups pattern.groups needed)
      else .ok ⟨pattern, input, output⟩
    | _, _ => .error .unknownRelation

def Fault.entry (table : CodeTable) (source target : String) : Fault → Log.Entry
  | noPattern => ⟨.error, .codeTable, "Transformer " ++ table.name ++ " has no expression configured"⟩
  | unknownRelation => ⟨.error, .codeTable, "Can not find relations " ++ source ++ " and " ++ target ++
      " in expression group variables " ++ Text.quotedList table.relations ++ " of transformer " ++
      table.name⟩
  | tooFewGroups groups needed => ⟨.error, .codeTable, "Expression of transformer " ++ table.name ++
      " has " ++ toString groups ++ " groups, relation " ++ source ++ "/" ++ target ++ " needs " ++
      toString needed⟩

namespace Direction

/-- The input and the output on a line, if the line matches with both. -/
def pair? (way : Direction) (line : String) : Option (String × String) := do
  let groups ← way.pattern.fullMatch? line
  let input ← groups[way.input]?.join
  let output ← groups[way.output]?.join
  pure (input, output)

/-- The output on a line that has the given input. -/
def output? (way : Direction) (input line : String) : Option String := do
  let (found, output) ← way.pair? line
  if found = input then some output else none

/-- The first line with the given input, and its output. -/
def find? (way : Direction) (input : String) (lines : List String) : Option (String × String) :=
  lines.findSome? fun line => (way.output? input line).map (line, ·)

end Direction

def pageLines (page : String) : List String :=
  (Text.lines page).take maxLines

/-- How far a scan of a page has come. -/
structure Scan where
  output : Option String := none
  /-- The line found last. -/
  lastLine : Option String
  /-- The lines that matched so far. -/
  kept : List String := []

namespace Scan

/-- The scan after a line that matched, which is kept where pages are cached. -/
def keep (scan : Scan) (cached : Bool) (line : String) : Scan :=
  if cached then { scan with kept := scan.kept ++ [line] } else scan

def found (scan : Scan) (line output : String) : Scan :=
  { scan with output := some output, lastLine := some line }

/-- Looks through lines for an input. Without caching they are looked through only as far as the first
hit. -/
def run (way : Direction) (input : String) (cached : Bool) (scan : Scan) : List String → Scan
  | [] => scan
  | line :: lines =>
    match way.pair? line with
    | none => run way input cached scan lines
    | some (found, output) =>
      let scan := scan.keep cached line
      if scan.output.isNone ∧ found = input then
        if cached then run way input cached (scan.found line output) lines
        else scan.found line output
      else run way input cached scan lines

end Scan

/-- The table after a page was fetched, and the output for an input. -/
def load (table : CodeTable) (way : Direction) (input page : String) (now : Int) :
    CodeTable × Option String :=
  let scan := Scan.run way input table.cached { lastLine := table.lastLine } (pageLines page)
  let table := { table with
    lines := if table.cached then some scan.kept else none
    lastLine := scan.lastLine
    lastFetch := now }
  (table, scan.output)

def resolveFetched (table : CodeTable) (way : Direction) (input : String) :
    Online (CodeTable × Option String) := do
  match table.url with
  | none =>
    Online.note ⟨.error, .codeTable, "Transformer " ++ table.name ++ " has no url configured"⟩
    pure (table, none)
  | some url =>
    match ← Online.fetch url table.timeout with
    | none =>
      Online.note ⟨.error, .codeTable, "Could not fetch " ++ url ++ " for transformer " ++ table.name⟩
      pure (table, none)
    | some page =>
      let (table, output) := table.load way input page (← Online.now)
      if output.isNone then
        Online.note ⟨.debug, .codeTable, "No entry for " ++ input ++ " in transformer " ++ table.name⟩
      pure (table, output)

def resolveCached (table : CodeTable) (way : Direction) (input : String) :
    Log.Noting (CodeTable × Option String) := do
  match way.find? input (table.lines.getD []) with
  | some (line, output) =>
    Log.note ⟨.debug, .codeTable, "2nd level cache hit for " ++ input ++ " in transformer " ++
      table.name⟩
    pure ({ table with lastLine := some line }, some output)
  | none => pure (table, none)

def hitEntry (table : CodeTable) (source target input output : String) : Log.Entry :=
  ⟨.debug, .codeTable, "1st level cache hit for " ++ source ++ " == " ++ input ++ " -> " ++ target ++
    " = " ++ output ++ " in transformer " ++ table.name⟩

def missEntry (table : CodeTable) (source input : String) : Log.Entry :=
  ⟨.debug, .codeTable, "1st level cache miss for " ++ source ++ " != " ++ input ++ " in transformer " ++
    table.name ++ ", searching 2nd level cache"⟩

/-- Decodes an input by what is cached: by the line found last if it has the input, else by all
lines. -/
def resolveFresh (table : CodeTable) (way : Direction) (source target input : String) :
    Log.Noting (CodeTable × Option String) := do
  match table.lastLine with
  | none => table.resolveCached way input
  | some line =>
    match way.output? input line with
    | some output =>
      Log.note (table.hitEntry source target input output)
      pure (table, some output)
    | none =>
      Log.note (table.missEntry source input)
      table.resolveCached way input

/-- Decodes an input from one relation to another. -/
def resolve (table : CodeTable) (input source target : String) :
    Online (CodeTable × Option String) := do
  match table.direction source target with
  | .error fault =>
    Online.note (fault.entry table source target)
    pure (table, none)
  | .ok way =>
    if ← table.isStaleNow then table.resolveFetched way input
    else table.resolveFresh way source target input

end CodeTable

end Telemetry
