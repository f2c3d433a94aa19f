import PadScribe.Rule.Basic

/-!
# `Mode.Basic` — modes

A mode holds switches and triggers. Every input that reaches it first passes the switches in order: each
latches on the input as the switches before it left it, and a modifier whose switch is on changes the input
for everything after it. Then every trigger looks at the changed input.

A switch of a mode does one of three things while it is on: it modifies inputs, it keeps the motion stream
on, or it holds a pointer button. A mode shift is a switch of the default mode that leads to another mode.

## Contents

* `SpeechLine`, `ModeKind` — what a mode listens to
* `Hold`, `ModeSwitch`, `Shift` — switches with what they do
* `Mode` — a mode
* `Task` — work put off until later
* `Mode.entered`, `Mode.left`, `Mode.enterTasks`, `Mode.exitTasks` — entering and leaving
* `ModeSwitch.passAll` — an input on its way through the switches
-/

namespace PadScribe

/-- A mode's line to its speech recognizer. -/
structure SpeechLine where
  recognizer : Option Nat
  host : Option String
  phrases : List Json
  flushOnExit : Bool
  paused : Bool := true

/-- What a mode listens to besides controller and speech inputs. -/
inductive ModeKind where
  | idle
  | gyro
  | speech (line : SpeechLine)

/-- What a mode's switch does while it is on. -/
inductive Hold where
  | modify (m : Modifier)
  | gyro
  | pointer (button : Option PointerButton)

/-- A switch of a mode. -/
structure ModeSwitch where
  switch : Switch
  hold : Hold

/-- A switch of the default mode that leads to another mode. -/
structure Shift where
  switch : Switch
  target : Option String

/-- A mode. -/
structure Mode where
  id : String
  kind : ModeKind := .idle
  switches : List ModeSwitch := []
  triggers : List Trigger := []

/-- Work put off until later. -/
inductive Task where
  /-- Moves the pointer. -/
  | move (dx dy : Int)
  /-- Presses or releases a pointer button. -/
  | toggle (button : Option PointerButton) (down : Bool)
  /-- Switches the motion stream of a device. -/
  | gyro (device : Device) (on : Bool)
  /-- Shows a notice. -/
  | notify (title text icon : Option String)
  /-- Shows a warning. -/
  | alert (title text : String)
  /-- Hands an input to the modes. -/
  | deliver (inp : Input)
  /-- Speaks a remembered utterance again. -/
  | replay (text : String)
  /-- Connects the recognizer of a mode. -/
  | connect (mode : String) (line : SpeechLine)
  /-- Asks the recognizer of a mode for its pending result. -/
  | flush (mode : String) (line : SpeechLine)

namespace Mode

/-- A kind with its speech line, if it has one, paused or not. -/
def setPaused (paused : Bool) : ModeKind → ModeKind
  | .speech line => .speech { line with paused }
  | kind => kind

/-- A mode that has just been entered: every switch is off, and its speech line is open. -/
def entered (m : Mode) : Mode :=
  { m with
    kind := setPaused false m.kind
    switches := m.switches.map fun s => { s with switch := s.switch.reset } }

/-- A mode that has just been left: its speech line is closed. -/
def left (m : Mode) : Mode :=
  { m with kind := setPaused true m.kind }

/-- The work of switching the motion stream of the device that an input came from. -/
def gyroTasks (inp : Option Input) (on : Bool) : List Task :=
  match inp.bind (·.device) with
  | some d => [.gyro d on]
  | none => []

/-- The work of entering a mode on an input. -/
def enterTasks (m : Mode) (inp : Option Input) : List Task :=
  match m.kind with
  | .idle => []
  | .gyro => gyroTasks inp true
  | .speech line => if line.recognizer.isSome then [.connect m.id line] else []

/-- The work of leaving a mode on an input. -/
def exitTasks (m : Mode) (inp : Option Input) : List Task :=
  match m.kind with
  | .idle => []
  | .gyro => gyroTasks inp false
  | .speech line => if line.flushOnExit && line.recognizer.isSome then [.flush m.id line] else []

end Mode

namespace ModeSwitch

/-- The work of a switch that an input turned on or off. -/
def tasks (s : ModeSwitch) (inp : Input) : List Task :=
  let turned (on : Bool) : List Task :=
    match s.hold with
    | .modify _ => []
    | .gyro => Mode.gyroTasks (some inp) on
    | .pointer button => [.toggle button on]
  match s.switch.change inp with
  | .on => turned true
  | .off => turned false
  | .none => []

/-- The input as a switch passes it on. -/
def modify (s : ModeSwitch) (inp : Input) : Except Fault Input :=
  match s.hold with
  | .modify m => if s.switch.isOn then m.apply inp else .ok inp
  | _ => .ok inp

/-- An input on its way through a row of switches: the switches after it, the work they ask for, and the
input that comes out. A modifier that fails ends the way; the switches after it have not seen the input. -/
def passAll : List ModeSwitch → Input → List ModeSwitch × List Task × Except Fault Input
  | [], inp => ([], [], .ok inp)
  | s :: rest, inp =>
    let s' := { s with switch := s.switch.step inp }
    match s'.modify inp with
    | .error e => (s' :: rest, s.tasks inp, .error e)
    | .ok changed =>
      let (rest', later, out) := passAll rest changed
      (s' :: rest', s.tasks inp ++ later, out)

end ModeSwitch

end PadScribe
