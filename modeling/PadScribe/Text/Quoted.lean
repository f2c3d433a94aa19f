/-!
# `Text.Quoted` — words with quoting, and lines with an arrow

A rule line is cut into words at spaces, tabs and line ends. Quotes keep blanks inside a word: between single
quotes every character stands for itself, between double quotes a backslash escapes a double quote or a
backslash and stands for itself before anything else. Outside quotes a backslash takes the next character
as it is. A quoted empty text is a word.

Rule lines and word-mapping lines have a left side, an arrow `->` and a right side. The arrow is looked for
before quotes are read, so an arrow inside quotes counts too.

## Contents

* `Quoted.QuotingError` — the two ways in which a text ends too early
* `Quoted.split` — the words of a text
* `Quoted.quote`, `Quoted.quoteAll` — one written form of a word and of a row of words, in double quotes
* `cutAtArrows` — the parts of a text between arrows
* `SideError`, `sides` — both sides as quoted words
* `join` — one written form of two sides
-/

namespace PadScribe.Text

/-! ## Quoted words -/

namespace Quoted

/-- A text that ends inside a quote or right after a backslash. -/
inductive QuotingError where
  | openQuote
  | openEscape
  deriving DecidableEq, Repr

/-- The wording of a quoting error. -/
def QuotingError.message : QuotingError → String
  | openQuote => "No closing quotation"
  | openEscape => "No escaped character"

/-- Whether `c` separates words. -/
def isGap (c : Char) : Bool :=
  c = ' ' || c = '\t' || c = '\r' || c = '\n'

/-- Where the reader stands: between words, inside a bare word, inside quotes, or after a backslash that
stands in a bare word or between double quotes. -/
inductive Place where
  | gap
  | bare
  | single
  | double
  | bareEscape
  | doubleEscape
  deriving DecidableEq, Repr

/-- Reads on from a place. `word` is the word so far, backwards; it has begun unless the place is a gap. -/
def splitFrom : Place → List Char → List Char → Except QuotingError (List (List Char))
  | .gap, _, [] => .ok []
  | .bare, word, [] => .ok [word.reverse]
  | .single, _, [] => .error .openQuote
  | .double, _, [] => .error .openQuote
  | .bareEscape, _, [] => .error .openEscape
  | .doubleEscape, _, [] => .error .openEscape
  | .gap, _, c :: rest =>
    if isGap c then splitFrom .gap [] rest
    else if c = '\\' then splitFrom .bareEscape [] rest
    else if c = '\'' then splitFrom .single [] rest
    else if c = '"' then splitFrom .double [] rest
    else splitFrom .bare [c] rest
  | .bare, word, c :: rest =>
    if isGap c then (splitFrom .gap [] rest).map (word.reverse :: ·)
    else if c = '\\' then splitFrom .bareEscape word rest
    else if c = '\'' then splitFrom .single word rest
    else if c = '"' then splitFrom .double word rest
    else splitFrom .bare (c :: word) rest
  | .single, word, c :: rest =>
    if c = '\'' then splitFrom .bare word rest else splitFrom .single (c :: word) rest
  | .double, word, c :: rest =>
    if c = '"' then splitFrom .bare word rest
    else if c = '\\' then splitFrom .doubleEscape word rest
    else splitFrom .double (c :: word) rest
  | .bareEscape, word, c :: rest => splitFrom .bare (c :: word) rest
  | .doubleEscape, word, c :: rest =>
    if c = '"' ∨ c = '\\' then splitFrom .double (c :: word) rest
    else splitFrom .double (c :: '\\' :: word) rest

/-- The words of a text. -/
def split (s : List Char) : Except QuotingError (List String) :=
  (splitFrom .gap [] s).map (·.map String.ofList)

/-- A word in double quotes, with a backslash before each double quote and backslash in it. -/
def quote (word : String) : List Char :=
  '"' :: (word.toList.flatMap (fun c => if c = '"' ∨ c = '\\' then ['\\', c] else [c]) ++ ['"'])

/-- A row of words, each in double quotes, with single spaces between them. -/
def quoteAll : List String → List Char
  | [] => []
  | [w] => quote w
  | w :: ws => quote w ++ ' ' :: quoteAll ws

end Quoted

/-! ## Lines with an arrow -/

/-- The parts of a text between arrows, of which there is always at least one. -/
def cutAtArrows : List Char → List (List Char)
  | [] => [[]]
  | '-' :: '>' :: rest => [] :: cutAtArrows rest
  | c :: rest =>
    match cutAtArrows rest with
    | [] => [[c]]
    | p :: ps => (c :: p) :: ps

/-- A line without exactly one arrow, or with a side that is quoted wrongly. -/
inductive SideError where
  | arrow
  | quoting (e : Quoted.QuotingError)
  deriving DecidableEq, Repr

/-- The quoted words on both sides of the one arrow of a line. -/
def sides (line : String) : Except SideError (List String × List String) :=
  match cutAtArrows line.toList with
  | [l, r] =>
    match Quoted.split l with
    | .error e => .error (.quoting e)
    | .ok lefts =>
      match Quoted.split r with
      | .error e => .error (.quoting e)
      | .ok rights => .ok (lefts, rights)
  | _ => .error .arrow

/-- The line that has the given words on its two sides, each word in double quotes. -/
def join (lefts rights : List String) : String :=
  String.ofList (Quoted.quoteAll lefts ++ [' ', '-', '>', ' '] ++ Quoted.quoteAll rights)

end PadScribe.Text
