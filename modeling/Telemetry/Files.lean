import Telemetry.Keyed
import Telemetry.Text.Lines
import Telemetry.Text.Order
import Telemetry.Text.Utf8

namespace Telemetry

inductive FileEntry where
  | file (octets : List UInt8)
  | folder
deriving DecidableEq, Repr

/-- A tree of files. A path is a folder also if something lies below it. -/
abbrev Files := Keyed String FileEntry

namespace Path

/-- The parts of a path that count. -/
def parts (path : String) : List String :=
  (Text.fields '/' path).filter fun part => part ≠ "" ∧ part ≠ "."

def isAbsolute (path : String) : Bool :=
  path.toList.head? == some '/'

/-- A path with single slashes between its parts. -/
def ofParts (absolute : Bool) (parts : List String) : String :=
  let text := "/".intercalate parts
  if absolute then "/" ++ text else if text = "" then "." else text

def normal (path : String) : String :=
  ofParts (isAbsolute path) (parts path)

def below (folder path : String) : String :=
  if isAbsolute path then normal path else normal (folder ++ "/" ++ path)

/-- The last part of a path behind its last point, with the point. A point at either end does not
count. -/
def suffix (name : String) : String :=
  let back := name.toList.reverse
  let ending := back.takeWhile (· ≠ '.')
  let front := back.drop (ending.length + 1)
  if ending.length = back.length ∨ ending.isEmpty ∨ front.isEmpty then ""
  else String.ofList ('.' :: ending.reverse)

/-- Parts in which each `..` has taken the part before it away; `done` is what came before, last
first. -/
def climb (done : List String) : List String → List String
  | [] => done.reverse
  | ".." :: rest => climb (done.drop 1) rest
  | part :: rest => climb (part :: done) rest

def target (path : String) : String :=
  ofParts (isAbsolute path) (climb [] (parts path))

end Path

namespace Files

/-- The names of the parts that follow a folder's path in the paths of a tree. -/
def namesBelow (files : Files) (folder : String) : List String :=
  let start := (folder ++ "/").toList
  files.keys.filterMap fun path =>
    if start.isPrefixOf path.toList then
      some (String.ofList ((path.toList.drop start.length).takeWhile (· ≠ '/')))
    else none

def at? (files : Files) (path : String) : Option FileEntry :=
  let path := Path.target path
  match files.lookup path with
  | some entry => some entry
  | none => if path = "." ∨ !(files.namesBelow path).isEmpty then some .folder else none

/-- The names in a folder in ascending order. -/
def names (files : Files) (folder : String) : List String :=
  Text.sortedSet (files.namesBelow (Path.target folder))

/-- Line ends of every kind as line feeds. -/
def withLineFeeds : List Char → List Char
  | [] => []
  | '\r' :: '\n' :: rest => '\n' :: withLineFeeds rest
  | '\r' :: rest => '\n' :: withLineFeeds rest
  | c :: rest => c :: withLineFeeds rest

inductive Fault where
  | missing
  | folder
  | notText
deriving DecidableEq, Repr

def text (files : Files) (path : String) : Except Fault String :=
  match files.at? path with
  | none => .error .missing
  | some .folder => .error .folder
  | some (.file octets) =>
    match Text.decode? octets with
    | some text => .ok (String.ofList (withLineFeeds text.toList))
    | none => .error .notText

end Files

/-- The folders that the program looks into: for its configuration, for data, and for what comes with
it. -/
structure Folders where
  config : String
  data : String
  package : String
deriving DecidableEq, Repr

namespace Folders

/-- The folders of a user: as set, or in the home folder. -/
def ofHome (config data : Option String) (home package : String) : Folders where
  config := config.getD (Path.below home ".config")
  data := data.getD (Path.below home ".local/share")
  package

/-- The folders with the user's profiles. -/
def profiles (folders : Folders) : List String :=
  [Path.below folders.config "webcsv/profiles", Path.below folders.data "webcsv/profiles"]

/-- The configuration that is used where none is named. -/
def defaultConfig (folders : Folders) : String :=
  Path.below folders.config "webcsv/config.yaml"

end Folders

end Telemetry
