import PadScribe.Fault
import PadScribe.Input.Basic
import PadScribe.Rule.Key
import PadScribe.Speech.Vocabulary

/-!
# `Rule.Basic` — what rules are made of

A switch is turned on by one condition and off by another. For a button these are its press and its
release, for a stick direction entering the zone and leaving it. An input that meets both turns the switch on.

A modifier changes the inputs that pass a mode while the modifier's switch is on. A prefix is put before
spoken text, where a case tag is later read back as a change of letter case. A boost multiplies stick
positions and motion samples, the latter without their fractions.

An option that its rule left empty (`none` below) stays empty: an empty factor multiplies nothing, and an empty
prefix goes before no text.

## Contents

* `Condition`, `Condition.holds` — the conditions of rules, and whether an input meets one
* `Switch`, `Switch.ofButton`, `Switch.ofZone` — conditions that latch
* `Switch.Change`, `Switch.change`, `Switch.step` — what an input does to a switch
* `Modifier`, `Modifier.apply` — the modifiers, and the changed input
* `Action`, `Trigger` — what a trigger does, and a condition with an action
-/

namespace PadScribe

/-! ## Conditions -/

/-- A condition on an input. -/
inductive Condition where
  | button (button : Button) (pressed : Bool)
  | stickMove (side : Side)
  | stickZone (side : Side) (direction : Direction)
  | speech
  | gyro
  deriving DecidableEq, Repr

namespace Condition

/-- Whether an input meets a condition. -/
def holds (inp : Input) : Condition → Bool
  | button which pressed =>
    inp.kind == .button &&
      (inp.button.elim false fun r => (if pressed then r.down else r.up).has which)
  | stickMove side =>
    inp.kind == .stick &&
      (inp.stick.elim false fun r => r.side == side && r.direction == .plain)
  | stickZone side direction =>
    inp.kind == .stick &&
      (inp.stick.elim false fun r => r.side == side && r.direction == direction)
  | speech => inp.kind == .speech && (inp.speech.elim false fun u => u.text.any (· != ""))
  | gyro => inp.kind == .gyro

end Condition

/-! ## Switches -/

/-- A latch with the conditions that turn it on and off. -/
structure Switch where
  on : Condition
  off : Condition
  isOn : Bool := false
  deriving DecidableEq, Repr

namespace Switch

/-- The switch that is on while a button is held. -/
def ofButton (which : Button) : Switch :=
  { on := .button which true, off := .button which false }

/-- The switch that is on while a stick is in a zone, or out of it for a leaving direction. -/
def ofZone (side : Side) (direction : Direction) : Switch :=
  { on := .stickZone side direction, off := .stickZone side direction.reverse }

/-- What an input does to a switch. -/
inductive Change where
  | on
  | off
  | none
  deriving DecidableEq, Repr

/-- What an input does to a switch. -/
def change (s : Switch) (inp : Input) : Change :=
  if s.on.holds inp then .on else if s.off.holds inp then .off else .none

/-- The switch after an input. -/
def step (s : Switch) (inp : Input) : Switch :=
  match s.change inp with
  | .on => { s with isOn := true }
  | .off => { s with isOn := false }
  | .none => s

/-- The switch turned off. -/
def reset (s : Switch) : Switch :=
  { s with isOn := false }

end Switch

/-! ## Modifiers -/

/-- A change to inputs. -/
inductive Modifier where
  | addPrefix (text : Option String) (space : Bool)
  | boost (factor : Option Float)

namespace Modifier

/-- A motion sample with every value multiplied. -/
def boostFrame (factor : Float) (f : GyroFrame) : Except ConversionError GyroFrame := do
  return {
    x := ← Binary64.scale f.x factor
    y := ← Binary64.scale f.y factor
    z := ← Binary64.scale f.z factor
    roll := ← Binary64.scale f.roll factor
    pitch := ← Binary64.scale f.pitch factor
    yaw := ← Binary64.scale f.yaw factor }

/-- A boosted input: a stick report or a motion sample is multiplied, anything else stays as it is. -/
def applyBoost (factor : Option Float) (inp : Input) : Except Fault Input :=
  match inp.kind, inp.stick, inp.gyro, factor with
  | .stick, some r, _, some k =>
    .ok { inp with stick := some { r with position := r.position.map (· * k) } }
  | .stick, some _, _, none => .error (.shape .wrongKind)
  | .gyro, _, some f, some k =>
    match boostFrame k f with
    | .ok f => .ok { inp with gyro := some f }
    | .error e => .error (.conversion e)
  | .gyro, _, some f, none => .error (.ofEmptiedFactor f.x)
  | _, _, _, _ => .ok inp

/-- A text after a prefix, with a space between them where one is wanted. Where either was left empty, both
have to be, and there is no place for a space. -/
def prefixed (lead : Option String) (space : Bool) (text : Option String) : Except Fault (Option String) :=
  match lead, text with
  | some l, some t => .ok (some ((if space then l ++ " " else l) ++ t))
  | none, none => if space then .error (.shape .wrongKind) else .ok none
  | _, _ => .error (.shape .wrongKind)

/-- A prefixed input: spoken text is put after the prefix, anything else stays as it is. -/
def applyPrefix (lead : Option String) (space : Bool) (inp : Input) : Except Fault Input :=
  match inp.kind, inp.speech with
  | .speech, some u => (prefixed lead space u.text).map fun text => { inp with speech := some ⟨text⟩ }
  | _, _ => .ok inp

/-- The changed input. -/
def apply (inp : Input) : Modifier → Except Fault Input
  | addPrefix text space => applyPrefix text space inp
  | boost factor => applyBoost factor inp

end Modifier

/-! ## Actions -/

/-- What a trigger does when its condition holds. -/
inductive Action where
  /-- Moves the pointer by the stick position or the motion sample times a speed. -/
  | moveCursor (speed : Option Float)
  /-- Clicks a pointer button. -/
  | click (button : Option PointerButton) (double : Bool)
  /-- Enters a mode. -/
  | enterMode (id : Option String)
  /-- Shows a notice, or what was heard when the input is speech. -/
  | notify (title text icon : Option String)
  /-- Speaks a text as if it had been heard. -/
  | speak (text : Option String)
  /-- Taps the first key while the others are held. -/
  | hotkey (keys : List String)
  /-- Compiles what was heard and runs it. -/
  | speech (vocabulary : Vocabulary)
  /-- Asks the recognizer of the current mode for its pending result. -/
  | flush
  /-- Speaks the last utterance again. -/
  | replay

/-- A condition with an action. -/
structure Trigger where
  condition : Condition
  action : Action

end PadScribe
