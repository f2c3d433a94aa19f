import PadScribe.Text.LetterCase

/-!
# `Speech.SpokenNumber` — numbers in words

A spoken number is a number word below one hundred, then possibly one or two multipliers, and then possibly
a conjunction and a smaller number: "two thousand n six hundred n five" is 2605. The number that follows is
added only when it is smaller than the first multiplier. A conjunction after a multiplier belongs to the
number even when nothing is added. Letter case does not matter.

## Contents

* `numberWord?`, `multiplier?`, `isConjunction` — the vocabulary
* `numberAt?` — the number at the start of some words, and how many words it uses
* `replaceNumbers` — every number in digits
-/

namespace PadScribe.SpokenNumber

/-- The number words. -/
def numberWords : List (String × Nat) :=
  [("zero", 0), ("one", 1), ("two", 2), ("three", 3), ("four", 4), ("five", 5), ("six", 6), ("seven", 7),
    ("eight", 8), ("nine", 9), ("ten", 10), ("eleven", 11), ("twelve", 12), ("thirteen", 13),
    ("fourteen", 14), ("fifteen", 15), ("sixteen", 16), ("seventeen", 17), ("eighteen", 18),
    ("nineteen", 19), ("twenty", 20), ("thirty", 30), ("forty", 40), ("fifty", 50), ("sixty", 60),
    ("seventy", 70), ("eighty", 80), ("ninety", 90)]

/-- The multipliers. -/
def multipliers : List (String × Nat) :=
  [("hundred", 100), ("thousand", 1000)]

/-- The words that may join two parts of a number. -/
def conjunctions : List String := ["n", "and"]

/-- The value of a number word. -/
def numberWord? (word : String) : Option Nat :=
  numberWords.lookup (Text.lower word)

/-- The value of a multiplier. -/
def multiplier? (word : String) : Option Nat :=
  multipliers.lookup (Text.lower word)

/-- Whether a word may join two parts of a number. -/
def isConjunction (word : String) : Bool :=
  conjunctions.contains (Text.lower word)

/-- Whether a value is one of the tens from twenty on, which a unit may follow. -/
def isTens (value : Nat) : Bool :=
  20 ≤ value && value % 10 == 0

/-- The unit that the words start with, after one of the tens. -/
def unitAfter (value : Nat) (words : List String) : Option Nat :=
  if isTens value then
    match words with
    | [] => none
    | w :: _ => (numberWord? w).filter fun u => 1 ≤ u && u ≤ 9
  else none

/-- The multiplier that the words start with. -/
def multiplierAt (words : List String) : Option Nat :=
  words.head?.bind multiplier?

/-- One when the words start with a conjunction, and zero otherwise. -/
def conjunctionCost (words : List String) : Nat :=
  if words.head?.any isConjunction then 1 else 0

/-- The number at the start of some words, and how many of them it uses. -/
def numberAt? : List String → Option (Nat × Nat)
  | [] => none
  | w :: rest =>
    match numberWord? w with
    | none => none
    | some base =>
      let unit := unitAfter base rest
      let value := base + unit.getD 0
      let unitCost := if unit.isSome then 1 else 0
      match multiplierAt (rest.drop unitCost) with
      | none => some (value, 1 + unitCost)
      | some first =>
        let second := multiplierAt (rest.drop (unitCost + 1))
        let value := value * first * second.getD 1
        let tailStart := unitCost + 1 + if second.isSome then 1 else 0
        let tailStart := tailStart + conjunctionCost (rest.drop tailStart)
        match numberAt? (rest.drop tailStart) with
        | none => some (value, 1 + tailStart)
        | some (tail, tailCost) =>
          if tail < first then some (value + tail, 1 + tailStart + tailCost)
          else some (value, 1 + tailStart)
  termination_by words => words.length
  decreasing_by simp +arith [List.length_drop]

/-- The number at the start of some words: its value, the words used, and whether there is one. Where there
is none, the first word counts as used. -/
def numberUntil (words : List String) : Nat × Nat × Bool :=
  match numberAt? words with
  | some (value, cost) => (value, cost, true)
  | none => (0, min 1 words.length, false)

/-- The words with every number replaced by its digits. -/
def replaceNumbers : List String → List String
  | [] => []
  | w :: rest =>
    match numberAt? (w :: rest) with
    | some (value, cost) => toString value :: replaceNumbers (rest.drop (cost - 1))
    | none => w :: replaceNumbers rest
  termination_by words => words.length
  decreasing_by all_goals simp +arith [List.length_drop]

end PadScribe.SpokenNumber
