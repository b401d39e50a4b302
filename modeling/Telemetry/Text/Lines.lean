import Telemetry.Text.Blank

namespace Telemetry.Text

/-- The characters that end a line on their own. -/
def isLineBreak (c : Char) : Bool :=
  let n := c.toNat
  (10 ≤ n && n ≤ 13) || (28 ≤ n && n ≤ 30) || n == 0x85 || n == 0x2028 || n == 0x2029

/-- The lines of a text, with `line` holding the characters read so far in reverse. A carriage
return and the line feed after it end one line together, and nothing after the last line end is
no line. -/
def linesFrom (line : List Char) : List Char → List (List Char)
  | [] => if line.isEmpty then [] else [line.reverse]
  | '\r' :: '\n' :: rest => line.reverse :: linesFrom [] rest
  | c :: rest => if isLineBreak c then line.reverse :: linesFrom [] rest else linesFrom (c :: line) rest

/-- The lines of a text without their ends. -/
def lines (text : String) : List String :=
  (linesFrom [] text.toList).map String.ofList

/-- The fields between the occurrences of `separator`; there is always one more field than there
are separators. -/
def fieldsOf (separator : Char) : List Char → List (List Char)
  | [] => [[]]
  | c :: rest =>
    if c = separator then [] :: fieldsOf separator rest
    else
      match fieldsOf separator rest with
      | [] => [[c]]
      | field :: fields => (c :: field) :: fields

/-- The fields of a text between the occurrences of a separator. -/
def fields (separator : Char) (text : String) : List String :=
  (fieldsOf separator text.toList).map String.ofList

/-- The items of a comma-separated list, each without the blanks around it. -/
def items (text : String) : List String :=
  (fields ',' text).map strip

end Telemetry.Text
