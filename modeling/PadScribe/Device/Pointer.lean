import PadScribe.Real.Binary64
import PadScribe.Studio.Effect

/-!
# `Device.Pointer` — the virtual pointer device

The pointer is driven by events of a virtual input device: relative movements along four axes and presses
and releases of three buttons. Every call ends with a synchronisation, and a call that names an unknown
button fails before it writes anything.

## Contents

* `Pointer.capabilities`, `Pointer.created` — the device
* `Pointer.move`, `Pointer.click`, `Pointer.toggle`, `Pointer.releaseAll` — the calls
* `Pointer.respond` — the requests of rules as calls
-/

namespace PadScribe.Pointer

/-- The event type of buttons. -/
def keyEvents : Nat := 1

/-- The event type of relative movements. -/
def relativeEvents : Nat := 2

/-- The axis from left to right. -/
def axisX : Nat := 0

/-- The axis from top to bottom. -/
def axisY : Nat := 1

/-- The axis of the wheel that scrolls sideways. -/
def axisWheelSideways : Nat := 6

/-- The axis of the wheel that scrolls up and down. -/
def axisWheel : Nat := 8

/-- The buttons that can be held, with their codes. -/
def buttonCodes : List (String × Nat) :=
  [("left", 272), ("center", 274), ("right", 273)]

/-- The wheel directions, with the axis and the direction of one tick. -/
def wheelTicks : List (String × Nat × Int) :=
  [("wheelUp", axisWheel, 1), ("wheelDown", axisWheel, -1), ("wheelLeft", axisWheelSideways, -1),
    ("wheelRight", axisWheelSideways, 1)]

/-- What the device can do. -/
def capabilities : List (Nat × List Nat) :=
  [(keyEvents, buttonCodes.map Prod.snd), (relativeEvents, [axisX, axisY, axisWheel, axisWheelSideways])]

/-- The creation of the device. -/
def created : List Effect :=
  [.device (.create "joytyping Virtual Mouse" capabilities)]

/-- The removal of the device. -/
def closed : List Effect :=
  [.device .close]

/-- A button going down or up. -/
def buttonEvents (code : Nat) (down : Bool) : List DeviceEvent :=
  [.write keyEvents code (if down then 1 else 0), .syn]

/-- One tick of a wheel. -/
def tickEvents (axis : Nat) (direction : Int) : List DeviceEvent :=
  [.write relativeEvents axis direction, .syn]

/-- Events as what came of a call. -/
def ofEvents (events : List DeviceEvent) : Response :=
  ⟨events.map .device, none⟩

/-- The movement along one axis: none when it is zero. -/
def axisEvents (axis : Nat) (n : Number) : Except ConversionError (List DeviceEvent) :=
  if n.isZero then .ok [] else n.truncate.map fun d => [.write relativeEvents axis d]

/-- Moves the pointer. -/
def move (dx dy : Number) : Response :=
  match axisEvents axisX dx with
  | .error e => ⟨[], some (.conversion e)⟩
  | .ok xs =>
    match axisEvents axisY dy with
    | .error e => ⟨xs.map .device, some (.conversion e)⟩
    | .ok ys => ofEvents (xs ++ ys ++ [.syn])

/-- Clicks a button or a wheel direction, once or twice. -/
def click (name : String) (double : Bool) : Response :=
  let times (events : List DeviceEvent) : Response :=
    ofEvents (if double then events ++ events else events)
  match wheelTicks.lookup name, buttonCodes.lookup name with
  | some (axis, direction), _ => times (tickEvents axis direction)
  | none, some code => times (buttonEvents code true ++ buttonEvents code false)
  | none, none => ⟨[], some (.unknownPointerButton name)⟩

/-- Presses or releases a button. -/
def toggle (name : String) (down : Bool) : Response :=
  match buttonCodes.lookup name with
  | some code => ofEvents (buttonEvents code down)
  | none => ⟨[], some (.unknownPointerButton name)⟩

/-- Releases every button, held or not. -/
def releaseAll : Response :=
  ofEvents (buttonCodes.flatMap fun b => buttonEvents b.2 false)

/-- What comes of a call on a button that its rule left empty. -/
def onButton (call : String → Response) : Option PointerButton → Response
  | some b => call b.name
  | none => ⟨[], some (.shape .wrongKind)⟩

/-- What comes of a request. -/
def respond : PointerRequest → Response
  | .move dx dy => move (.whole dx) (.whole dy)
  | .click button double => onButton (click · double) button
  | .toggle button down => onButton (toggle · down) button
  | .releaseAll => releaseAll

/-- What comes of a request when there is no device. -/
def ignore (_ : PointerRequest) : Response :=
  ⟨[], none⟩

end PadScribe.Pointer
