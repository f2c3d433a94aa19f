import PadScribe.Real.Binary64

/-!
# `Real.Shortest` — the fewest digits that read back

The text of a double has the fewest decimal digits that read back as the same double, and of those the
ones nearest to it. The reals that read back as `m · 2^q` form an interval that reaches half way to each
neighbour, and its ends belong to it exactly when `m` is even. On the grid of the numbers with `n` digits
only the two neighbours of the double itself can be nearest.

## Contents

* `compareScaled` — `a · 10^i` against `b · 2^j`, exactly
* `digitsOf` — the digits and the exponent
* `text` — the layout: positional from `0.0001` up to below `10^16`, with an exponent elsewhere
-/

namespace PadScribe.Shortest

/-- `a · 10^i` compared with `b · 2^j`. -/
def compareScaled (a : Nat) (i : Int) (b : Nat) (j : Int) : Ordering :=
  compare ((a * Nat.pow 10 i.toNat) <<< (-j).toNat) ((b * Nat.pow 10 (-i).toNat) <<< j.toNat)

/-- The exponent `k` with `10^(k-1) ≤ m · 2^q < 10^k`, found from an estimate that is at most two low. -/
def magnitude (m : Nat) (q : Int) : Int :=
  let estimate := ((m.log2 : Int) + q) * 30103 / 100000
  if compareScaled 1 estimate m q = .gt then estimate
  else if compareScaled 1 (estimate + 1) m q = .gt then estimate + 1
  else estimate + 2

/-- The interval of reals that read back as `m · 2^q`, in quarters of `2^q`. Below a power of two the next
double is half as far away. -/
def interval (m : Nat) (q : Int) : Nat × Nat :=
  (if m = 1 <<< 52 ∧ -1074 < q then 4 * m - 1 else 4 * m - 2, 4 * m + 2)

/-- Whether `a · 10^i` reads back as `m · 2^q`. -/
def readsBack (m : Nat) (q : Int) (a : Nat) (i : Int) : Bool :=
  let (low, high) := interval m q
  let fromLow := compareScaled a i low (q - 2)
  let toHigh := compareScaled a i high (q - 2)
  if m % 2 = 0 then fromLow != .lt && toHigh != .gt else fromLow == .gt && toHigh == .lt

/-- The neighbour of `m · 2^q` on the grid of multiples of `10^i` that reads back, the nearer of two. -/
def neighbour? (m : Nat) (q : Int) (i : Int) : Option Nat :=
  let below := (m * Nat.pow 10 (-i).toNat) <<< q.toNat / (Nat.pow 10 i.toNat <<< (-q).toNat)
  match readsBack m q below i, readsBack m q (below + 1) i with
  | true, true =>
    match compareScaled (2 * below + 1) i (2 * m) q with
    | .lt => some (below + 1)
    | .gt => some below
    | .eq => some (if below % 2 = 0 then below else below + 1)
  | true, false => some below
  | false, true => some (below + 1)
  | false, false => none

/-- The first grid with a neighbour that reads back, searched from `n` digits on. -/
def search (m : Nat) (q : Int) (k : Int) : Nat → Nat → Nat × Int
  | 0, n => (m <<< q.toNat, k - n)
  | fuel + 1, n =>
    match neighbour? m q (k - n) with
    | some a => (a, k - n)
    | none => search m q k fuel (n + 1)

/-- A row of digits without the zeros at its end, and how many there were. -/
def dropZeros (ds : List Char) : List Char × Nat :=
  let kept := (ds.reverse.dropWhile (· == '0')).reverse
  (kept, ds.length - kept.length)

/-- The digits `d₁d₂…` and the exponent `k` of `0.d₁d₂… · 10^k`, for a positive `m · 2^q`. -/
def digitsOf (m : Nat) (q : Int) : List Char × Int :=
  let (a, i) := search m q (magnitude m q) 17 1
  let ds := Nat.toDigits 10 a
  ((dropZeros ds).1, (ds.length : Int) + i)

/-- An exponent with its sign and at least two digits. -/
def exponentText (e : Int) : List Char :=
  let ds := Nat.toDigits 10 e.natAbs
  'e' :: (if e < 0 then '-' else '+') :: (if ds.length < 2 then '0' :: ds else ds)

/-- The layout of `0.d₁d₂… · 10^k`. -/
def layout (ds : List Char) (k : Int) : List Char :=
  if -4 < k ∧ k ≤ 16 then
    if k ≤ 0 then '0' :: '.' :: (List.replicate (-k).toNat '0' ++ ds)
    else if ds.length ≤ k.toNat then ds ++ List.replicate (k.toNat - ds.length) '0' ++ ['.', '0']
    else ds.take k.toNat ++ '.' :: ds.drop k.toNat
  else
    match ds with
    | [] => []
    | [d] => d :: exponentText (k - 1)
    | d :: rest => d :: '.' :: (rest ++ exponentText (k - 1))

/-- The text of a finite double. -/
def text (x : Float) : String :=
  let (negative, m, q) := Binary64.parts x
  let body :=
    if m = 0 then ['0', '.', '0']
    else
      let (ds, k) := digitsOf m q
      layout ds k
  String.ofList (if negative then '-' :: body else body)

end PadScribe.Shortest
