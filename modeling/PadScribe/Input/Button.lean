/-!
# `Input.Button` — controller buttons

A controller reports its buttons as three bytes: the right cluster, the shared cluster and the left
cluster. Each button owns one bit of one byte. Reported bytes are read modulo 256, whatever whole numbers
they are given as.

## Contents

* `Button`, `Button.all`, `Button.name`, `Button.ofName?` — the buttons and their names
* `Button.cluster`, `Button.bit` — where a button is reported
* `ButtonState` — one report, with `has`, `down`, `up`
-/

namespace PadScribe

/-- A button of either controller half. -/
inductive Button where
  | y | x | b | a | rightSR | rightSL | r | zr
  | minus | plus | rightStick | leftStick | home | capture | unused | chargingGrip
  | down | up | right | left | leftSR | leftSL | l | zl
  deriving DecidableEq, Repr

/-- One of the three reported bytes. -/
inductive Cluster where
  | right
  | shared
  | left
  deriving DecidableEq, Repr

namespace Button

/-- Every button, in the order of the reported bits. -/
def all : List Button :=
  [y, x, b, a, rightSR, rightSL, r, zr, minus, plus, rightStick, leftStick, home, capture, unused,
    chargingGrip, down, up, right, left, leftSR, leftSL, l, zl]

/-- The name of a button in rules. -/
def name : Button → String
  | y => "Y" | x => "X" | b => "B" | a => "A" | rightSR => "R-SR" | rightSL => "R-SL" | r => "R" | zr => "ZR"
  | minus => "-" | plus => "+" | rightStick => "RStick" | leftStick => "LStick" | home => "Home"
  | capture => "Capture" | unused => "Unused1" | chargingGrip => "ChargingGrip"
  | down => "Down" | up => "Up" | right => "Right" | left => "Left" | leftSR => "L-SR" | leftSL => "L-SL"
  | l => "L" | zl => "ZL"

/-- The button of a name. -/
def ofName? (s : String) : Option Button :=
  all.find? (·.name == s)

/-- The byte that reports a button. -/
def cluster : Button → Cluster
  | y | x | b | a | rightSR | rightSL | r | zr => .right
  | minus | plus | rightStick | leftStick | home | capture | unused | chargingGrip => .shared
  | down | up | right | left | leftSR | leftSL | l | zl => .left

/-- The bit, counted from the lowest, that reports a button within its byte. -/
def bit : Button → Nat
  | y | minus | down => 0
  | x | plus | up => 1
  | b | rightStick | right => 2
  | a | leftStick | left => 3
  | rightSR | home | leftSR => 4
  | rightSL | capture | leftSL => 5
  | r | unused | l => 6
  | zr | chargingGrip | zl => 7

end Button

/-- One report of all buttons. -/
structure ButtonState where
  right : Int := 0
  shared : Int := 0
  left : Int := 0
  deriving DecidableEq, Repr

namespace ButtonState

/-- The low eight bits of a reported byte. -/
def low (n : Int) : Nat :=
  (n % 256).toNat

/-- The bits that are clear in `before` and set in `after`. -/
def rise (before after : Int) : Int :=
  ((low before ^^^ 0xFF) &&& low after : Nat)

/-- The byte of a cluster. -/
def byte (s : ButtonState) : Cluster → Int
  | .right => s.right
  | .shared => s.shared
  | .left => s.left

/-- Whether a button is reported as held. -/
def has (s : ButtonState) (button : Button) : Bool :=
  (low (s.byte button.cluster)).testBit button.bit

/-- The report with one more button held. -/
def press (s : ButtonState) (button : Button) : ButtonState :=
  let set (n : Int) : Int := (low n ||| 1 <<< button.bit : Nat)
  match button.cluster with
  | .right => { s with right := set s.right }
  | .shared => { s with shared := set s.shared }
  | .left => { s with left := set s.left }

/-- The report with exactly the given buttons held. -/
def ofButtons (bs : List Button) : ButtonState :=
  bs.foldl press {}

/-- The buttons that went down between two reports. -/
def down (before after : ButtonState) : ButtonState :=
  ⟨rise before.right after.right, rise before.shared after.shared, rise before.left after.left⟩

/-- The buttons that went up between two reports. -/
def up (before after : ButtonState) : ButtonState :=
  ⟨rise after.right before.right, rise after.shared before.shared, rise after.left before.left⟩

/-- Whether a report is all zero. -/
def isZero (s : ButtonState) : Bool :=
  s.right == 0 && s.shared == 0 && s.left == 0

end ButtonState

end PadScribe
