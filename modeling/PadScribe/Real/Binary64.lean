/-!
# `Real.Binary64` — double-precision numbers and whole numbers

A finite double is `m · 2^q` up to its sign. Going from a double to a whole number drops the fraction and
is exact however large the double is. Going from a whole number to a double rounds to the nearest double
and fails when the number lies beyond the largest one.

A configured threshold may be a whole number or a double, and a stick position is compared with either.
The comparison is exact: neither side is rounded to the kind of the other.

## Contents

* `ConversionError` — why a number has no counterpart
* `Binary64.parts` — sign, significand and exponent
* `Binary64.truncate`, `Binary64.floor`, `Binary64.ceil` — to whole numbers
* `Binary64.ofInt` — from whole numbers
* `Number` — a whole number or a double
* `Number.le` — the exact comparison, also as `≤`
* `Number.neg`, `Number.isZero`, `Number.truncate`
-/

namespace PadScribe

/-- Why a number has no counterpart of the other kind. -/
inductive ConversionError where
  | notANumber
  | infinite
  | tooLarge
  | tooManyDigits (count : Nat)
  | beyondIndex
  deriving DecidableEq, Repr

namespace ConversionError

/-- The most decimal digits that are read as one whole number. -/
def digitLimit : Nat := 4300

/-- The wording of a conversion error. -/
def message : ConversionError → String
  | notANumber => "cannot convert float NaN to integer"
  | infinite => "cannot convert float infinity to integer"
  | tooLarge => "int too large to convert to float"
  | tooManyDigits n =>
    "Exceeds the limit (" ++ toString digitLimit ++ " digits) for integer string conversion: value has "
      ++ toString n ++ " digits; use sys.set_int_max_str_digits() to increase the limit"
  | beyondIndex => "cannot fit 'int' into an index-sized integer"

end ConversionError

namespace Binary64

/-- Sign, significand `m` and exponent `q` of a finite double, which is `m · 2^q` up to its sign. -/
def parts (x : Float) : Bool × Nat × Int :=
  let bits : Nat := x.toBits.toNat
  let exponent : Nat := (bits >>> 52) % 2048
  let fraction : Nat := bits % (1 <<< 52)
  (bits >>> 63 == 1,
    if exponent = 0 then (fraction, -1074) else (fraction + (1 <<< 52), (exponent : Int) - 1075))

/-- The whole part of `m · 2^q`, and whether nothing was dropped. -/
def wholePart (m : Nat) (q : Int) : Nat × Bool :=
  if 0 ≤ q then (m <<< q.toNat, true)
  else (m >>> (-q).toNat, m % (1 <<< (-q).toNat) == 0)

/-- A double without its fraction. -/
def truncate (x : Float) : Except ConversionError Int :=
  if x.isNaN then .error .notANumber
  else if x.isInf then .error .infinite
  else
    let (negative, m, q) := parts x
    let n : Int := (wholePart m q).1
    .ok (if negative then -n else n)

/-- The greatest whole number up to a finite double. -/
def floor (x : Float) : Int :=
  let (negative, m, q) := parts x
  let (n, exact) := wholePart m q
  if negative then (if exact then -(n : Int) else -(n : Int) - 1) else n

/-- The least whole number from a finite double on. -/
def ceil (x : Float) : Int :=
  let (negative, m, q) := parts x
  let (n, exact) := wholePart m q
  if negative then -(n : Int) else (if exact then (n : Int) else n + 1)

/-- The double nearest to a whole number. -/
def ofInt (n : Int) : Except ConversionError Float :=
  let x := Float.ofInt n
  if x.isInf then .error .tooLarge else .ok x

/-- A double as a whole number times a double, without its fraction. -/
def scale (n : Int) (factor : Float) : Except ConversionError Int := do
  truncate ((← ofInt n) * factor)

/-- The infinite double. -/
def infinity : Float := Float.ofBits 0x7FF0000000000000

/-- The double that is no number. -/
def nan : Float := Float.ofBits 0x7FF8000000000000

end Binary64

/-! ## Whole numbers and doubles together -/

/-- A whole number or a double. -/
inductive Number where
  | whole (n : Int)
  | real (x : Float)

namespace Number

/-- Whether one number is at most another; a value that is no number compares with nothing. -/
def le : Number → Number → Bool
  | whole m, whole n => m ≤ n
  | real x, real y => x ≤ y
  | whole n, real x =>
    if x.isNaN then false else if x.isInf then 0 < x else n ≤ Binary64.floor x
  | real x, whole n =>
    if x.isNaN then false else if x.isInf then x < 0 else Binary64.ceil x ≤ n

instance : LE Number := ⟨fun a b => a.le b = true⟩

instance (a b : Number) : Decidable (a ≤ b) :=
  inferInstanceAs (Decidable (a.le b = true))

/-- The number with the other sign. -/
def neg : Number → Number
  | whole n => whole (-n)
  | real x => real (-x)

instance : Neg Number := ⟨neg⟩

/-- Whether a number is zero. -/
def isZero : Number → Bool
  | whole n => n == 0
  | real x => x == 0

/-- A number without its fraction. -/
def truncate : Number → Except ConversionError Int
  | whole n => .ok n
  | real x => Binary64.truncate x

/-- The double nearest to a number. -/
def toFloat : Number → Except ConversionError Float
  | whole n => Binary64.ofInt n
  | real x => .ok x

end Number

end PadScribe
