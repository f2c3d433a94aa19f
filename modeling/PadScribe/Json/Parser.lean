import PadScribe.Json.Basic
import PadScribe.Real.Decimal

/-!
# `Json.Parser` — reading JSON

The grammar of JSON, with the numbers `NaN`, `Infinity` and `-Infinity` besides. A repeated field keeps its
first place and its last value. A whole number may have at most as many digits as are read elsewhere.

## Contents

* `ParseError` — why a text is no JSON value
* `stringBody`, `number`, `value` — readers that return the rest of the text
* `Json.parse` — a whole text
-/

namespace PadScribe.Json

/-- Why a text is no JSON value. -/
inductive ParseError where
  | malformed
  | conversion (e : ConversionError)
  deriving DecidableEq, Repr

namespace Parser

/-- Whether `c` may stand between tokens. -/
def isSpace (c : Char) : Bool :=
  c = ' ' || c = '\t' || c = '\n' || c = '\r'

/-- A text without the space at its start. -/
def skipSpace (s : List Char) : List Char :=
  s.dropWhile isSpace

/-- The value of a hexadecimal digit. -/
def hexValue? (c : Char) : Option Nat :=
  if c.isDigit then some (c.toNat - '0'.toNat)
  else if 'a' ≤ c ∧ c ≤ 'f' then some (c.toNat - 'a'.toNat + 10)
  else if 'A' ≤ c ∧ c ≤ 'F' then some (c.toNat - 'A'.toNat + 10)
  else none

/-- The number that four hexadecimal digits stand for. -/
def hexUnit? (a b c d : Char) : Option Nat := do
  return (((← hexValue? a) * 16 + (← hexValue? b)) * 16 + (← hexValue? c)) * 16 + (← hexValue? d)

/-- The character that a two-character escape stands for. -/
def escaped? : Char → Option Char
  | '"' => some '"'
  | '\\' => some '\\'
  | '/' => some '/'
  | 'b' => some '\x08'
  | 'f' => some '\x0c'
  | 'n' => some '\n'
  | 'r' => some '\r'
  | 't' => some '\t'
  | _ => none

/-- How the code point of a 16-bit unit on its own is held. -/
def unitHeld (n : Nat) : List Char :=
  (Text.Point.ofUnit n).held

/-- How the character of a surrogate pair is held. -/
def pairHeld (high low : Nat) : List Char :=
  (Text.Point.char (Char.ofNat (0x10000 + (high - 0xD800) * 0x400 + (low - 0xDC00)))).held

/-- A text from after its opening quote to its closing one, and the rest. -/
def stringBody : List Char → Except ParseError (List Char × List Char)
  | [] => .error .malformed
  | '"' :: rest => .ok ([], rest)
  | '\\' :: 'u' :: a :: b :: c :: d :: '\\' :: 'u' :: e :: f :: g :: h :: rest =>
    match hexUnit? a b c d, hexUnit? e f g h with
    | some high, some low =>
      if 0xD800 ≤ high ∧ high ≤ 0xDBFF ∧ 0xDC00 ≤ low ∧ low ≤ 0xDFFF then
        (stringBody rest).map fun (s, r) => (pairHeld high low ++ s, r)
      else
        (stringBody ('\\' :: 'u' :: e :: f :: g :: h :: rest)).map fun (s, r) => (unitHeld high ++ s, r)
    | some unit, none =>
      (stringBody ('\\' :: 'u' :: e :: f :: g :: h :: rest)).map fun (s, r) => (unitHeld unit ++ s, r)
    | none, _ => .error .malformed
  | '\\' :: 'u' :: a :: b :: c :: d :: rest =>
    match hexUnit? a b c d with
    | some unit => (stringBody rest).map fun (s, r) => (unitHeld unit ++ s, r)
    | none => .error .malformed
  | '\\' :: c :: rest =>
    match escaped? c with
    | some e => (stringBody rest).map fun (s, r) => (e :: s, r)
    | none => .error .malformed
  | c :: rest =>
    if c.toNat < 0x20 ∨ c = '\\' then .error .malformed
    else (stringBody rest).map fun (s, r) => (c :: s, r)

/-- The digits at the start of a text when there are any, and what follows them. -/
def digits? (s : List Char) : Option (List Nat × List Char) :=
  match Decimal.digits s with
  | ([], _) => none
  | r => some r

/-- The fraction at the start of a text, if there is one. -/
def fraction? : List Char → Option (List Nat × List Char)
  | '.' :: rest => digits? rest
  | _ => none

/-- The exponent at the start of a text, if there is one. -/
def exponent? : List Char → Option (Int × List Char)
  | c :: rest =>
    if c = 'e' ∨ c = 'E' then
      let (negative, body) := Decimal.sign rest
      (digits? body).map fun (ds, r) =>
        let n : Int := Text.ofDigits ds
        (if negative then -n else n, r)
    else none
  | [] => none

/-- An unsigned number, which does not start with a needless zero. -/
def unsigned? (s : List Char) : Option (List Nat × List Char) :=
  match s with
  | '0' :: rest => some ([0], rest)
  | _ => digits? s

/-- The number at the start of a text: whole without fraction and exponent, a double with either. -/
def number (negative : Bool) (s : List Char) : Except ParseError (Json × List Char) :=
  match unsigned? s with
  | none => .error .malformed
  | some (whole, rest) =>
    match fraction? rest, exponent? ((fraction? rest).elim rest Prod.snd) with
    | none, none =>
      if whole.length > ConversionError.digitLimit then
        .error (.conversion (.tooManyDigits whole.length))
      else
        let n : Int := Text.ofDigits whole
        .ok (.int (if negative then -n else n), rest)
    | f, e =>
      let fraction := f.elim [] Prod.fst
      let rest := e.elim (f.elim rest Prod.snd) Prod.snd
      let x := Decimal.ofScientific (Text.ofDigits (whole ++ fraction)) (e.elim 0 Prod.fst - fraction.length)
      .ok (.real (if negative then -x else x), rest)

/-- A text without a given word at its start. -/
def afterWord? : List Char → List Char → Option (List Char)
  | [], s => some s
  | w :: ws, c :: s => if w = c then afterWord? ws s else none
  | _ :: _, [] => none

/-- The words that stand for values. -/
def namedValues : List (String × Json) :=
  [("null", .null), ("true", .bool true), ("false", .bool false), ("NaN", .real Binary64.nan),
    ("Infinity", .real Binary64.infinity), ("-Infinity", .real (-Binary64.infinity))]

/-- The named value or number at the start of a text. -/
def atom (s : List Char) : Except ParseError (Json × List Char) :=
  match namedValues.findSome? fun (w, v) => (afterWord? w.toList s).map (v, ·) with
  | some r => .ok r
  | none =>
    match s with
    | '-' :: rest => number true rest
    | _ => number false s

mutual

/-- The value at the start of a text. The first argument bounds the number of nested calls. -/
def value : Nat → List Char → Except ParseError (Json × List Char)
  | 0, _ => .error .malformed
  | n + 1, s =>
    match s with
    | '"' :: rest => (stringBody rest).map fun (cs, r) => (.str (String.ofList cs), r)
    | '[' :: rest =>
      match skipSpace rest with
      | ']' :: r => .ok (.arr [], r)
      | r => items n [] r
    | '\x7b' :: rest =>
      match skipSpace rest with
      | '\x7d' :: r => .ok (.obj [], r)
      | r => fields n [] r
    | _ => atom s

/-- The items of a list up to its end; `done` holds those read so far, backwards. -/
def items : Nat → List Json → List Char → Except ParseError (Json × List Char)
  | 0, _, _ => .error .malformed
  | n + 1, done, s =>
    match value n s with
    | .error e => .error e
    | .ok (v, r) =>
      match skipSpace r with
      | ']' :: r => .ok (.arr (v :: done).reverse, r)
      | ',' :: r => items n (v :: done) (skipSpace r)
      | _ => .error .malformed

/-- The fields of an object up to its end; `done` holds those read so far. -/
def fields : Nat → List (String × Json) → List Char → Except ParseError (Json × List Char)
  | 0, _, _ => .error .malformed
  | n + 1, done, s =>
    match s with
    | '"' :: rest =>
      match stringBody rest with
      | .error e => .error e
      | .ok (name, r) =>
        match skipSpace r with
        | ':' :: r =>
          match value n (skipSpace r) with
          | .error e => .error e
          | .ok (v, r) =>
            let done := setField (String.ofList name) v done
            match skipSpace r with
            | '\x7d' :: r => .ok (.obj done, r)
            | ',' :: r => fields n done (skipSpace r)
            | _ => .error .malformed
        | _ => .error .malformed
    | _ => .error .malformed

end

end Parser

/-- The value that a whole text stands for. Every nested call is paid for by a character of the text. -/
def parse (s : String) : Except ParseError Json :=
  match Parser.value (2 * s.length + 2) (Parser.skipSpace s.toList) with
  | .error e => .error e
  | .ok (v, rest) => if (Parser.skipSpace rest).isEmpty then .ok v else .error .malformed

end PadScribe.Json
