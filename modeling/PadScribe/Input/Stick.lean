/-!
# `Input.Stick` — stick positions and the zones they cross

A stick position has four edge zones and a neutral zone. A zone is left or entered when two positions in a
row disagree about it. Of all the zones that two positions disagree about, the first in the order up, right,
down, left, neutral is reported, and an unchanged position reports plain movement.

Everything here works over any numbers with an order and a sign, so that it applies to exact positions as
well as to reported ones.

## Contents

* `Side`, `Direction` — the stick and the event
* `Position` — where a stick is, with `atEdge` and `atNeutral`
* `Thresholds` — where the zones begin
* `Direction.between` — the event between two positions
-/

namespace PadScribe

/-- Which of the two sticks. -/
inductive Side where
  | left
  | right
  deriving DecidableEq, Repr

namespace Side

/-- Both sides. -/
def all : List Side := [left, right]

/-- The name of a side in rules. -/
def name : Side → String
  | left => "Left"
  | right => "Right"

/-- The side of a name. -/
def ofName? (s : String) : Option Side :=
  all.find? (·.name == s)

end Side

/-- What a stick report says: plain movement, or a zone entered or left. -/
inductive Direction where
  | plain
  | neutral
  | neutralLeave
  | up
  | upLeave
  | right
  | rightLeave
  | down
  | downLeave
  | left
  | leftLeave
  deriving DecidableEq, Repr

namespace Direction

/-- Every direction. -/
def all : List Direction :=
  [plain, neutral, neutralLeave, up, upLeave, right, rightLeave, down, downLeave, left, leftLeave]

/-- The name of a direction. -/
def name : Direction → String
  | plain => "None"
  | neutral => "Neutral"
  | neutralLeave => "NeutralLeave"
  | up => "Up"
  | upLeave => "UpLeave"
  | right => "Right"
  | rightLeave => "RightLeave"
  | down => "Down"
  | downLeave => "DownLeave"
  | left => "Left"
  | leftLeave => "LeftLeave"

/-- The direction of a name. -/
def ofName? (s : String) : Option Direction :=
  all.find? (·.name == s)

/-- Leaving a zone for entering it, and the other way round. -/
def reverse : Direction → Direction
  | plain => plain
  | neutral => neutralLeave
  | neutralLeave => neutral
  | up => upLeave
  | upLeave => up
  | right => rightLeave
  | rightLeave => right
  | down => downLeave
  | downLeave => down
  | left => leftLeave
  | leftLeave => left

/-- The four edge zones, in the order in which they are looked at. -/
def edges : List Direction := [up, right, down, left]

end Direction

/-- Where a stick is. Up and right are positive. -/
structure Position (α : Type) where
  x : α
  y : α
  deriving DecidableEq, Repr

/-- Where the zones of a stick begin. -/
structure Thresholds (α : Type) where
  neutral : α
  edge : α
  deriving DecidableEq, Repr

/-- The same position in other numbers. -/
def Position.map {α β : Type} (f : α → β) (p : Position α) : Position β :=
  ⟨f p.x, f p.y⟩

section
variable {α : Type} [LE α] [DecidableLE α] [Neg α]

/-- Whether a position lies in the neutral zone: both axes within the threshold of zero. -/
def Position.atNeutral (threshold : α) (p : Position α) : Bool :=
  p.x ≤ threshold && -p.x ≤ threshold && p.y ≤ threshold && -p.y ≤ threshold

/-- Whether a position lies in an edge zone. Only the four edges are zones of this kind. -/
def Position.atEdge (threshold : α) (p : Position α) : Direction → Bool
  | .up => threshold ≤ p.y
  | .right => threshold ≤ p.x
  | .down => threshold ≤ -p.y
  | .left => threshold ≤ -p.x
  | _ => false

/-- The event for a zone that a stick was in, or not, and now is in, or not. -/
def Direction.crossing (zone : Direction) (was now : Bool) : Direction :=
  if now && !was then zone else if was && !now then zone.reverse else .plain

/-- The first crossing among some edge zones. -/
def Direction.firstCrossing (threshold : α) (current previous : Position α) : List Direction → Direction
  | [] => .plain
  | d :: rest =>
    match d.crossing (previous.atEdge threshold d) (current.atEdge threshold d) with
    | .plain => firstCrossing threshold current previous rest
    | event => event

/-- The crossing of the neutral zone. -/
def Direction.neutralCrossing (threshold : α) (current previous : Position α) : Direction :=
  neutral.crossing (previous.atNeutral threshold) (current.atNeutral threshold)

/-- The event between two positions in a row. -/
def Direction.between (t : Thresholds α) (current previous : Position α) : Direction :=
  match firstCrossing t.edge current previous edges with
  | .plain => neutralCrossing t.neutral current previous
  | event => event

end

end PadScribe
