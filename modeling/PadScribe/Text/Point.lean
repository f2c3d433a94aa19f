/-!
# `Text.Point` — the code points of a text, and its bytes

A text is a row of code points. Nearly all of them are characters. The halves of surrogate pairs are none, but
an escape can put one on its own into a text. Such a half is held as two characters, a mark and a stand-in for
the half; the mark is the last character there is, and where it is meant itself it is held twice. So texts
that differ are held differently, and they are joined, cut at words and compared for equality as they are.
Only what counts, orders, writes or encodes code points has to take them one by one.

The UTF-8 bytes of a text are those of its characters. Half of a surrogate pair on its own has none. The badge of a
mode takes its colour from a checksum of the mode's name, so that it stays the same from run to run: the reflected
CRC-32 with the polynomial `0xEDB88320` over the name's bytes.

## Contents

* `Point` — a character, or half of a surrogate pair on its own
* `Point.held`, `pointsOf` — how code points are held, and which ones are; `pointsOf_flatMap_held` says that
  nothing is lost on the way
* `points`, `ofPoints` — the same for whole texts, `points_ofPoints`
* `ofChars`, `shown` — texts from and for places that know characters only
* `isSingle`, `codes` — counting and ordering by code points
* `EncodingError` — where a text has no bytes, with its wording
* `utf8` — the bytes of a text
* `crcStep`, `crcByte`, `crc32` — the checksum of one bit, of one byte and of a whole text
-/

namespace PadScribe.Text

/-- A code point: a character, or half of a surrogate pair on its own, by its place among the halves. -/
inductive Point where
  | char (c : Char)
  | half (place : Fin 2048)
  deriving DecidableEq, Repr

/-- The character that announces a half: the last one there is. -/
def mark : Char :=
  Char.ofNat 0x10FFFF

/-- The first of the characters that stand in for halves. -/
def standIns : Nat := 0xF0000

namespace Point

/-- The number of a code point. -/
def code : Point → Nat
  | char c => c.toNat
  | half place => 0xD800 + place

/-- The code point of a 16-bit unit on its own. -/
def ofUnit (n : Nat) : Point :=
  if 0xD800 ≤ n ∧ n ≤ 0xDFFF then half (Fin.ofNat 2048 (n - 0xD800)) else char (Char.ofNat n)

/-- How a code point is held. -/
def held : Point → List Char
  | char c => if c = mark then [mark, mark] else [c]
  | half place => [mark, Char.ofNat (standIns + place)]

/-- The code point that a mark and the character after it hold. -/
def marked (c : Char) : Point :=
  if c = mark then char mark else half (Fin.ofNat 2048 (c.toNat - standIns))

end Point

/-- The code points that a row of characters holds. -/
def pointsOf : List Char → List Point
  | [] => []
  | [c] => [.char c]
  | c :: d :: rest => if c = mark then .marked d :: pointsOf rest else .char c :: pointsOf (d :: rest)

/-- A character that is not the mark holds itself. -/
theorem pointsOf_cons {c : Char} (h : c ≠ mark) (rest : List Char) :
    pointsOf (c :: rest) = .char c :: pointsOf rest := by
  cases rest with
  | nil => rfl
  | cons d rest => simp [pointsOf, h]

/-- The number of a stand-in. -/
theorem toNat_standIn (place : Fin 2048) : (Char.ofNat (standIns + place)).toNat = standIns + place := by
  have hv : (standIns + place : Nat).isValidChar := by
    have := place.isLt
    simp only [standIns, Nat.isValidChar]
    omega
  rw [Char.ofNat, dif_pos hv]
  rfl

/-- No stand-in is the mark. -/
theorem standIn_ne_mark (place : Fin 2048) : Char.ofNat (standIns + place) ≠ mark := by
  intro h
  have hn := congrArg Char.toNat h
  have hm : mark.toNat = 0x10FFFF := by decide
  rw [toNat_standIn, hm] at hn
  have := place.isLt
  simp only [standIns] at hn
  omega

/-- What is held of a code point is read back as that code point. -/
theorem pointsOf_held_append (p : Point) (rest : List Char) :
    pointsOf (p.held ++ rest) = p :: pointsOf rest := by
  cases p with
  | char c =>
    by_cases h : c = mark
    · simp [Point.held, pointsOf, Point.marked, h]
    · simp [Point.held, h, pointsOf_cons h]
  | half place =>
    have hn : (Char.ofNat (standIns + place)).toNat - standIns = place := by
      rw [toNat_standIn]
      omega
    simp [Point.held, pointsOf, Point.marked, standIn_ne_mark, hn]

/-- Every row of code points is read back from what is held of it. -/
theorem pointsOf_flatMap_held (ps : List Point) : pointsOf (ps.flatMap Point.held) = ps := by
  induction ps with
  | nil => rfl
  | cons p ps ih => rw [List.flatMap_cons, pointsOf_held_append, ih]

/-- The code points of a text. -/
def points (s : String) : List Point :=
  pointsOf s.toList

/-- The text of some code points. -/
def ofPoints (ps : List Point) : String :=
  String.ofList (ps.flatMap Point.held)

/-- A text has the code points that it was made of. -/
theorem points_ofPoints (ps : List Point) : points (ofPoints ps) = ps := by
  simp [points, ofPoints, pointsOf_flatMap_held]

/-- The text of some characters, as they come from outside. -/
def ofChars (s : String) : String :=
  ofPoints (s.toList.map .char)

/-- A text in characters, as it goes outside: a half becomes the replacement character. -/
def shown (s : String) : String :=
  String.ofList ((points s).map fun
    | .char c => c
    | .half _ => '\uFFFD')

/-- Whether a text is one code point. -/
def isSingle (s : String) : Bool :=
  (points s).length == 1

/-- The numbers of a text's code points, by which texts are ordered. -/
def codes (s : String) : List Nat :=
  (points s).map Point.code

/-! ## Bytes -/

/-- The first halves in a text that have no bytes: where they start, the first of them, and how many stand
in a row. -/
structure EncodingError where
  start : Nat
  first : Fin 2048
  count : Nat
  deriving DecidableEq, Repr

/-- The wording of an encoding error. -/
def EncodingError.message (e : EncodingError) : String :=
  let place :=
    if e.count = 1 then
      "character '\\u" ++ String.ofList (Nat.toDigits 16 (Point.half e.first).code) ++ "' in position "
        ++ toString e.start
    else "characters in position " ++ toString e.start ++ "-" ++ toString (e.start + e.count - 1)
  "'utf-8' codec can't encode " ++ place ++ ": surrogates not allowed"

/-- Whether a code point is half of a pair. -/
def Point.isHalf : Point → Bool
  | char _ => false
  | half _ => true

/-- The bytes of some code points, the first of which has the given place in its text. -/
def utf8From (place : Nat) : List Point → Except EncodingError (List UInt8)
  | [] => .ok []
  | .char c :: rest => (utf8From (place + 1) rest).map ((String.singleton c).toUTF8.toList ++ ·)
  | .half first :: rest => .error { start := place, first, count := (rest.takeWhile Point.isHalf).length + 1 }

/-- The bytes of a text. -/
def utf8 (s : String) : Except EncodingError (List UInt8) :=
  utf8From 0 (points s)

/-! ## Checksums -/

/-- One bit of the checksum register. -/
def crcStep (r : UInt32) : UInt32 :=
  if r &&& 1 = 1 then (r >>> 1) ^^^ 0xEDB88320 else r >>> 1

/-- One byte fed into the checksum register. -/
def crcByte (r : UInt32) (b : UInt8) : UInt32 :=
  Nat.repeat crcStep 8 (r ^^^ b.toUInt32)

/-- The checksum of a text, if the text has bytes. -/
def crc32 (s : String) : Except EncodingError Nat :=
  (utf8 s).map fun bytes => (bytes.foldl crcByte 0xFFFFFFFF ^^^ 0xFFFFFFFF).toNat

end PadScribe.Text
