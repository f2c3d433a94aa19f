import PadScribe.Real.Shortest
import PadScribe.Text.Literal
import PadScribe.Text.Point

/-!
# `Json.Basic` — JSON values and writing them

The value of a configuration file. Whole numbers are unbounded and kept apart from doubles, and an object
keeps its fields in order with every name at most once.

A value is written on one line, or with each item and field on a line of its own, two spaces further in
than what holds it. The text is plain ASCII: every other character is escaped by its 16-bit units. Doubles
are written with the fewest digits that read back.

## Contents

* `Json` — the values
* `Json.setField`, `Json.field?` — objects as rows of named values
* `ShapeError` — a value of the wrong shape
* `Json.elements` — the values that a list-like value holds
* `Json.escapeChar`, `Json.escapePoint`, `Json.quoted` — written texts
* `Json.realText` — written doubles
* `Json.compact` — one line
* `Json.indented` — one line for each item and field
-/

namespace PadScribe

/-! ## Values -/

/-- A JSON value. -/
inductive Json where
  | null
  | bool (b : Bool)
  | int (n : Int)
  | real (x : Float)
  | str (s : String)
  | arr (items : List Json)
  | obj (fields : List (String × Json))
  deriving Inhabited

/-- A value that cannot be used where it stands: a name that an object lacks, a kind of value that does not
support what is asked of it, or a kind of value that lacks the part asked for. -/
inductive ShapeError where
  | missingField
  | wrongKind
  | missingPart
  deriving DecidableEq, Repr

namespace Json

/-- The fields with `name` set to `value`: in place when the name is there, at the end when it is new. -/
def setField (name : String) (value : Json) : List (String × Json) → List (String × Json)
  | [] => [(name, value)]
  | (n, v) :: rest => if n = name then (name, value) :: rest else (n, v) :: setField name value rest

/-- The value of a field. -/
def field? (name : String) (fields : List (String × Json)) : Option Json :=
  fields.lookup name

/-- What a value holds when it is read as a list: the items of a list, the code points of a text, the names
of an object's fields. -/
def elements : Json → Except ShapeError (List Json)
  | arr items => .ok items
  | str s => .ok ((Text.points s).map fun p => str (Text.ofPoints [p]))
  | obj fields => .ok (fields.map fun f => str f.1)
  | _ => .error .wrongKind

/-- The text that a value is, where only a text will do. -/
def text : Json → Except ShapeError String
  | str s => .ok s
  | _ => .error .missingPart

end Json

/-! ## Writing -/

namespace Json

/-- The escape of a 16-bit unit. -/
def unitEscape (n : Nat) : List Char :=
  '\\' :: 'u' :: Text.hexDigits 4 n

/-- A character inside a written text. -/
def escapeChar (c : Char) : List Char :=
  if c = '"' then ['\\', '"']
  else if c = '\\' then ['\\', '\\']
  else if c = '\n' then ['\\', 'n']
  else if c = '\r' then ['\\', 'r']
  else if c = '\t' then ['\\', 't']
  else if c = '\x08' then ['\\', 'b']
  else if c = '\x0c' then ['\\', 'f']
  else if 0x20 ≤ c.toNat ∧ c.toNat < 0x7F then [c]
  else if c.toNat < 0x10000 then unitEscape c.toNat
  else
    let n := c.toNat - 0x10000
    unitEscape (0xD800 + n / 0x400) ++ unitEscape (0xDC00 + n % 0x400)

/-- A code point inside a written text. -/
def escapePoint : Text.Point → List Char
  | .char c => escapeChar c
  | p => unitEscape p.code

/-- A written text. -/
def quoted (s : String) : String :=
  String.ofList ('"' :: ((Text.points s).flatMap escapePoint ++ ['"']))

/-- A written double. -/
def realText (x : Float) : String :=
  if x.isNaN then "NaN"
  else if x.isInf then (if x < 0 then "-Infinity" else "Infinity")
  else Shortest.text x

mutual

/-- A value on one line. -/
def compact : Json → String
  | null => "null"
  | bool b => if b then "true" else "false"
  | int n => toString n
  | real x => realText x
  | str s => quoted s
  | arr items => "[" ++ String.intercalate ", " (compactItems items) ++ "]"
  | obj fields => "\x7b" ++ String.intercalate ", " (compactFields fields) ++ "\x7d"

/-- The items of a list, each on one line. -/
def compactItems : List Json → List String
  | [] => []
  | v :: rest => compact v :: compactItems rest

/-- The fields of an object, each on one line. -/
def compactFields : List (String × Json) → List String
  | [] => []
  | (name, v) :: rest => (quoted name ++ ": " ++ compact v) :: compactFields rest

end

/-- The start of a line at the given depth. -/
def newline (depth : Nat) : String :=
  String.ofList ('\n' :: List.replicate (2 * depth) ' ')

/-- What is held, one line each at the given depth, between an opening and a closing bracket. -/
def block (depth : Nat) (opening closing : String) (held : List String) : String :=
  if held.isEmpty then opening ++ closing
  else
    opening ++ newline (depth + 1) ++ String.intercalate ("," ++ newline (depth + 1)) held
      ++ newline depth ++ closing

mutual

/-- A value that stands at the given depth. -/
def indentedAt (depth : Nat) : Json → String
  | arr items => block depth "[" "]" (indentedItems depth items)
  | obj fields => block depth "\x7b" "\x7d" (indentedFields depth fields)
  | null => "null"
  | bool b => if b then "true" else "false"
  | int n => toString n
  | real x => realText x
  | str s => quoted s

/-- The items of a list that stands at the given depth. -/
def indentedItems (depth : Nat) : List Json → List String
  | [] => []
  | v :: rest => indentedAt (depth + 1) v :: indentedItems depth rest

/-- The fields of an object that stands at the given depth. -/
def indentedFields (depth : Nat) : List (String × Json) → List String
  | [] => []
  | (name, v) :: rest => (quoted name ++ ": " ++ indentedAt (depth + 1) v) :: indentedFields depth rest

end

/-- A value with each item and field on a line of its own. -/
def indented (v : Json) : String :=
  indentedAt 0 v

end Json

end PadScribe
