import PadScribe.Text.CharClass
import PadScribe.Text.LetterCase

/-!
# `Speech.CaseStyle` — letter case of typed words

A case tag changes how the words that follow it are typed. Camel and snake case first cut the words into
parts: at blanks, underscores, dashes and points, and where a small letter or digit is followed by a capital.

## Contents

* `CaseStyle`, `CaseStyle.tag` — the styles and the tags that ask for them
* `humps`, `parts` — the parts of some words
* `toCamel`, `toSnake`, `toUpper`, `toTitle`, `CaseStyle.apply` — the styles
-/

namespace PadScribe

/-- A way to write a row of words. -/
inductive CaseStyle where
  | camel
  | upper
  | snake
  | title
  deriving DecidableEq, Repr

namespace CaseStyle

/-- Every style. -/
def all : List CaseStyle := [camel, upper, snake, title]

/-- The tag that asks for a style. -/
def tag : CaseStyle → String
  | camel => "[camel]"
  | upper => "[upper]"
  | snake => "[snake]"
  | title => "[title]"

/-- The style that a tag asks for. -/
def ofTag? (s : String) : Option CaseStyle :=
  all.find? (·.tag == s)

/-- Whether `c` separates the parts of words. -/
def isSeparator (c : Char) : Bool :=
  Text.isBlank c || c = '_' || c = '-' || c = '.'

/-- Whether a part ends between two characters. -/
def isHump (before after : Char) : Bool :=
  (before.isLower || before.isDigit) && after.isUpper

/-- A text cut at its humps. -/
def humps : List Char → List (List Char)
  | [] => []
  | [c] => [[c]]
  | c :: d :: rest =>
    if isHump c d then [c] :: humps (d :: rest)
    else
      match humps (d :: rest) with
      | [] => [[c]]
      | p :: ps => (c :: p) :: ps

/-- The parts of some words. -/
def parts (words : List String) : List (List Char) :=
  (Text.chunks isSeparator (String.intercalate " " words).toList).flatMap humps

/-- A part with its first character in lower case. -/
def lowerFirst : List Char → List Char
  | [] => []
  | c :: rest => (Text.lower (String.ofList [c])).toList ++ rest

/-- A part with its first character in upper case. -/
def upperFirst : List Char → List Char
  | [] => []
  | c :: rest => Text.upperChar c ++ rest

/-- One word of all parts, the first starting small and the others with a capital. -/
def toCamel (words : List String) : List String :=
  match parts words with
  | [] => [""]
  | p :: ps => [String.ofList (lowerFirst p ++ ps.flatMap upperFirst)]

/-- One word of all parts in lower case, joined by underscores. -/
def toSnake (words : List String) : List String :=
  [String.intercalate "_" ((parts words).map fun p => Text.lower (String.ofList p))]

/-- Every word in upper case. -/
def toUpper (words : List String) : List String :=
  words.map Text.upper

/-- The words with capitals in the first of them: one at its start and one after each space in it. -/
def toTitle : List String → List String
  | [] => []
  | w :: rest =>
    String.intercalate " "
      ((Text.pieces (· = ' ') w.toList).map fun p => String.ofList (upperFirst p)) :: rest

/-- The words in a style. -/
def apply : CaseStyle → List String → List String
  | camel => toCamel
  | upper => toUpper
  | snake => toSnake
  | title => toTitle

end CaseStyle

end PadScribe
