import PadScribe.Input.Button
import PadScribe.Input.Stick

/-!
# `Input.Basic` — one event

Controller reports and spoken text reach the modes as inputs. An input says what kind of event it is and
carries the event's own data; what an input carries is kept apart from its kind, so that data of another
kind, or none, is never mistaken for it.

## Contents

* `InputKind`, `ButtonReport`, `StickReport`, `GyroFrame`, `Utterance` — the events and their data
* `Device` — the controller an event came from
* `Input`, `Input.uttered`, `Input.spoken` — an event
-/

namespace PadScribe

/-- The kind of an event. -/
inductive InputKind where
  | none
  | button
  | stick
  | gyro
  | speech
  deriving DecidableEq, Repr

namespace InputKind

/-- Every kind. -/
def all : List InputKind := [none, button, stick, gyro, speech]

/-- The name of a kind. -/
def name : InputKind → String
  | none => "NONE"
  | button => "BUTTON"
  | stick => "STICK"
  | gyro => "GYRO"
  | speech => "SPEECH"

/-- The kind of a name. -/
def ofName? (s : String) : Option InputKind :=
  all.find? (·.name == s)

end InputKind

/-- The buttons that went down, that went up, and that are held now. -/
structure ButtonReport where
  down : ButtonState
  up : ButtonState
  current : ButtonState
  deriving DecidableEq, Repr

/-- A stick position and what it says about the zones. -/
structure StickReport where
  side : Side
  position : Position Float
  direction : Direction := .plain

/-- One sample of the motion sensors. -/
structure GyroFrame where
  x : Int := 0
  y : Int := 0
  z : Int := 0
  roll : Int := 0
  pitch : Int := 0
  yaw : Int := 0
  deriving DecidableEq, Repr

/-- What was spoken. A rule whose text option was left empty speaks no text (`none`). -/
structure Utterance where
  text : Option String
  deriving DecidableEq, Repr

/-- A connected controller half. When its motion stream cannot be switched, it says why. -/
structure Device where
  side : Side := .right
  gyroFailure : Option String := none
  deriving DecidableEq, Repr

/-- One event. -/
structure Input where
  kind : InputKind
  device : Option Device := none
  button : Option ButtonReport := none
  stick : Option StickReport := none
  gyro : Option GyroFrame := none
  speech : Option Utterance := none

/-- The event of an utterance. -/
def Input.uttered (u : Utterance) : Input :=
  { kind := .speech, speech := some u }

/-- The event of a spoken text. -/
def Input.spoken (text : String) : Input :=
  uttered ⟨some text⟩

end PadScribe
