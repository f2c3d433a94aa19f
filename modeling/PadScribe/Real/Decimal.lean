import PadScribe.Real.Binary64
import PadScribe.Text.CharClass

/-!
# `Real.Decimal` — reading a double

A number in a rule is written with a point, an exponent, both or neither, or as `inf`, `infinity` or `nan`
in any case. A sign may stand in front, single underscores may stand between digits, blanks may stand
around the whole, and digits may come from any script. What is read is the nearest double.

## Contents

* `Decimal.ofScientific` — the double nearest to `m · 10^e`
* `Decimal.ofFixed` — whole and fractional digits without sign or exponent
* `Decimal.read?` — the full grammar
-/

namespace PadScribe.Decimal

/-- The double nearest to `m · 10^e`. Magnitudes that are certainly beyond every double, or below half of
the least one, are settled before any power of ten is computed. -/
def ofScientific (m : Nat) (e : Int) : Float :=
  if m = 0 then 0.0
  else
    let magnitude : Int := (Nat.toDigits 10 m).length + e
    if magnitude > 310 then Binary64.infinity
    else if magnitude < -330 then 0.0
    else if 0 ≤ e then Float.ofScientific m false e.toNat
    else Float.ofScientific m true (-e).toNat

/-- The double that stands for digits before and after a point. -/
def ofFixed (whole fraction : List Nat) : Float :=
  ofScientific (Text.ofDigits (whole ++ fraction)) (-(fraction.length : Int))

/-- Whether `c` may stand around a number. -/
def isMargin (c : Char) : Bool :=
  Text.isBlank c && !(0x1C ≤ c.toNat && c.toNat ≤ 0x1F)

/-- A text without the blanks around it, and with every decimal digit in its plain form. -/
def plain (s : List Char) : List Char :=
  let body := ((s.dropWhile isMargin).reverse.dropWhile isMargin).reverse
  body.map fun c => ((Text.digitValue? c).map fun d => Char.ofNat ('0'.toNat + d)).getD c

/-- A text without underscores, each of which has to stand between two digits. `previous` says whether a
digit stands right before. -/
def dropUnderscores? : Bool → List Char → Option (List Char)
  | _, [] => some []
  | previous, '_' :: c :: rest =>
    if previous && c.isDigit then (dropUnderscores? true rest).map (c :: ·) else none
  | _, '_' :: [] => none
  | _, c :: rest => (dropUnderscores? c.isDigit rest).map (c :: ·)

/-- The values of the digits at the start of a text, and what follows them. -/
def digits (s : List Char) : List Nat × List Char :=
  ((s.takeWhile Char.isDigit).map (fun c => c.toNat - '0'.toNat), s.dropWhile Char.isDigit)

/-- A sign at the start of a text, if any, and what follows it. -/
def sign : List Char → Bool × List Char
  | '-' :: rest => (true, rest)
  | '+' :: rest => (false, rest)
  | s => (false, s)

/-- The exponent that makes up the whole of a text; an empty text is the exponent zero. -/
def exponent? : List Char → Option Int
  | [] => some 0
  | c :: rest =>
    if c = 'e' ∨ c = 'E' then
      let (negative, body) := sign rest
      match digits body with
      | (d :: ds, []) =>
        let n : Int := Text.ofDigits (d :: ds)
        some (if negative then -n else n)
      | _ => none
    else none

/-- An unsigned finite number: digits with an optional point among them, then an optional exponent. -/
def finite? (s : List Char) : Option Float :=
  let (whole, rest) := digits s
  let (fraction, rest) :=
    match rest with
    | '.' :: r => digits r
    | r => ([], r)
  if whole.isEmpty && fraction.isEmpty then none
  else
    (exponent? rest).map fun e =>
      ofScientific (Text.ofDigits (whole ++ fraction)) (e - fraction.length)

/-- The double that a text stands for. -/
def read? (s : String) : Option Float := do
  let (negative, body) := sign (← dropUnderscores? false (plain s.toList))
  let word := body.map Char.toLower
  let x ←
    if word = ['i', 'n', 'f'] ∨ word = ['i', 'n', 'f', 'i', 'n', 'i', 't', 'y'] then
      some Binary64.infinity
    else if word = ['n', 'a', 'n'] then some Binary64.nan
    else finite? body
  return if negative then -x else x

end PadScribe.Decimal
