import PadScribe.Real.Decimal

/-!
# `Speech.Duration` — spans of time in rules

A duration is a row of numbers, each with a unit right after it: `1m30s`, `.5s`, `500ms`. A number has
digits of any script with at most one point among them, and a point does not stand alone.

## Contents

* `Duration.units` — the units and their length in seconds
* `Duration.number?`, `Duration.unit?` — readers that return the rest of the text
* `Duration.parse?` — the sum of a whole text, in seconds
-/

namespace PadScribe.Duration

/-- The units, longest spelling first where one starts another, with their length in seconds. -/
def units : List (List Char × Float) :=
  [(['n', 's'], 1e-9), (['u', 's'], 1e-6), (['µ', 's'], 1e-6), (['m', 's'], 1e-3), (['s'], 1.0),
    (['m'], 60.0), (['h'], 3600.0)]

/-- The values of the digits, of any script, at the start of a text, and what follows them. -/
def digits (s : List Char) : List Nat × List Char :=
  ((s.takeWhile Text.isDigit).filterMap Text.digitValue?, s.dropWhile Text.isDigit)

/-- The number at the start of a text. -/
def number? (s : List Char) : Option (Float × List Char) :=
  match digits s with
  | ([], '.' :: rest) =>
    match digits rest with
    | ([], _) => none
    | (fraction, rest) => some (Decimal.ofFixed [] fraction, rest)
  | ([], _) => none
  | (whole, '.' :: rest) =>
    let (fraction, rest) := digits rest
    some (Decimal.ofFixed whole fraction, rest)
  | (whole, rest) => some (Decimal.ofFixed whole [], rest)

/-- A text without the given word at its start. -/
def afterWord? : List Char → List Char → Option (List Char)
  | [], s => some s
  | w :: ws, c :: s => if w = c then afterWord? ws s else none
  | _ :: _, [] => none

/-- The unit at the start of a text. -/
def unit? (s : List Char) : Option (Float × List Char) :=
  units.findSome? fun (word, seconds) => (afterWord? word s).map (seconds, ·)

/-- One number with its unit at the start of a text, in seconds. -/
def part? (s : List Char) : Option (Float × List Char) := do
  let (n, rest) ← number? s
  let (unit, rest) ← unit? rest
  return (n * unit, rest)

/-- The sum of the parts that make up a text, added to `total`. A part uses at least one character, so the
text's length bounds the number of parts. -/
def sumFrom? : Nat → Float → List Char → Option Float
  | _, total, [] => some total
  | 0, _, _ :: _ => none
  | n + 1, total, s => do
    let (seconds, rest) ← part? s
    sumFrom? n (total + seconds) rest

/-- The seconds that a text stands for. -/
def parse? (s : String) : Option Float :=
  if s = "" then none else sumFrom? s.length 0.0 s.toList

end PadScribe.Duration
