/-!
# `Text.CharClass` — blanks, line ends and digits of every script

Spoken text is a row of words. Any blank of any script separates words, and a zero-width space does not.

What is printed is read line by line. The line ends of every script count, and a carriage return with a line
feed after it is one line end.

Numbers in rules and in speech may be written with the decimal digits of any script. Each script has its
ten digits in a row, so a table of the zeros is enough. Signs that only look like numbers (superscripts,
fractions, circled figures) are not decimal digits.

## Contents

* `isBlank`, `words`, `strip` — the blanks, the words of a text, and a text without the blanks at its ends
* `isLineEnd`, `lines`, `printedLines` — the lines of a text, and of printed messages
* `zeros`, `digitValue?` — the code points of the digit zero, and the value of a decimal digit
* `isDecimal`, `decimalValue?` — texts made of decimal digits only
-/

namespace PadScribe.Text

/-! ## Words -/

/-- The code points that separate words. -/
def blanks : List Nat :=
  [0x09, 0x0A, 0x0B, 0x0C, 0x0D, 0x1C, 0x1D, 0x1E, 0x1F, 0x20, 0x85, 0xA0, 0x1680, 0x2000, 0x2001,
    0x2002, 0x2003, 0x2004, 0x2005, 0x2006, 0x2007, 0x2008, 0x2009, 0x200A, 0x2028, 0x2029, 0x202F,
    0x205F, 0x3000]

/-- Whether `c` separates words. -/
def isBlank (c : Char) : Bool :=
  blanks.contains c.toNat

/-- Cuts a text at every separator: between two separators in a row stands an empty piece. -/
def pieces (sep : Char → Bool) : List Char → List (List Char)
  | [] => [[]]
  | c :: rest =>
    if sep c then [] :: pieces sep rest
    else
      match pieces sep rest with
      | [] => [[c]]
      | p :: ps => (c :: p) :: ps

/-- The non-empty pieces between separators, in order. -/
def chunks (sep : Char → Bool) (s : List Char) : List (List Char) :=
  (pieces sep s).filter (!·.isEmpty)

/-- The words of a text. -/
def words (s : String) : List String :=
  (chunks isBlank s.toList).map String.ofList

/-- A text without the blanks at its two ends. -/
def strip (s : String) : String :=
  String.ofList ((s.toList.dropWhile isBlank).reverse.dropWhile isBlank).reverse

/-! ## Lines -/

/-- The code points that end a line. -/
def lineEnds : List Nat :=
  [0x0A, 0x0B, 0x0C, 0x0D, 0x1C, 0x1D, 0x1E, 0x85, 0x2028, 0x2029]

/-- Whether `c` ends a line. -/
def isLineEnd (c : Char) : Bool :=
  lineEnds.contains c.toNat

/-- The lines of a row of characters, without their ends. -/
def linesFrom : List Char → List (List Char)
  | [] => []
  | '\r' :: '\n' :: rest => [] :: linesFrom rest
  | c :: rest =>
    if isLineEnd c then [] :: linesFrom rest
    else
      match linesFrom rest with
      | [] => [[c]]
      | l :: ls => (c :: l) :: ls

/-- The lines of a text, without their ends. What follows the last line end is a line if it is not empty. -/
def lines (s : String) : List String :=
  (linesFrom s.toList).map String.ofList

/-- The lines of printed messages: every message ends its last line, so an empty one is an empty line. -/
def printedLines (messages : List String) : List String :=
  messages.flatMap fun m => lines (m ++ "\n")

/-! ## Decimal digits -/

/-- The code points of the digit zero of each script. -/
def zeros : List Nat :=
   [0x0030, 0x0660, 0x06F0, 0x07C0, 0x0966, 0x09E6, 0x0A66, 0x0AE6, 0x0B66, 0x0BE6, 0x0C66,
    0x0CE6, 0x0D66, 0x0DE6, 0x0E50, 0x0ED0, 0x0F20, 0x1040, 0x1090, 0x17E0, 0x1810, 0x1946,
    0x19D0, 0x1A80, 0x1A90, 0x1B50, 0x1BB0, 0x1C40, 0x1C50, 0xA620, 0xA8D0, 0xA900, 0xA9D0,
    0xA9F0, 0xAA50, 0xABF0, 0xFF10, 0x104A0, 0x10D30, 0x11066, 0x110F0, 0x11136, 0x111D0, 0x112F0,
    0x11450, 0x114D0, 0x11650, 0x116C0, 0x11730, 0x118E0, 0x11950, 0x11C50, 0x11D50, 0x11DA0,
    0x16A60, 0x16AC0, 0x16B50, 0x1D7CE, 0x1D7D8, 0x1D7E2, 0x1D7EC, 0x1D7F6, 0x1E140, 0x1E2F0,
    0x1E950, 0x1FBF0]

/-- The value of a decimal digit of any script. -/
def digitValue? (c : Char) : Option Nat :=
  if c.toNat < 0x80 then
    if '0' ≤ c ∧ c ≤ '9' then some (c.toNat - '0'.toNat) else none
  else
    (zeros.find? fun z => z ≤ c.toNat && c.toNat < z + 10).map (c.toNat - ·)

/-- Whether `c` is a decimal digit of some script. -/
def isDigit (c : Char) : Bool :=
  (digitValue? c).isSome

/-- Whether a text is non-empty and holds decimal digits only. -/
def isDecimal (s : List Char) : Bool :=
  !s.isEmpty && s.all isDigit

/-- The number that a row of digit values stands for, read from the left. -/
def ofDigits (ds : List Nat) : Nat :=
  ds.foldl (fun n d => 10 * n + d) 0

/-- The number that a text of decimal digits stands for; `none` for any other text. -/
def decimalValue? (s : List Char) : Option Nat :=
  if isDecimal s then some (ofDigits (s.filterMap digitValue?)) else none

end PadScribe.Text
