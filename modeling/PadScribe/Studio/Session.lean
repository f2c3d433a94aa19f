import PadScribe.Config.File
import PadScribe.Mode.Compile
import PadScribe.Studio.Queue

/-!
# `Studio.Session` — the wired program

A gate stands between the sources of inputs and the modes. While the user has switched the program off, it
drops every input; when it first sees that the program is off, it releases every pointer button. Results of
recognizers and inputs put off earlier do not pass the gate.

Controller reports become inputs here: every stick report is a movement, followed by one more input when the
stick entered or left a zone.

A change of the configuration file reloads the program. A configuration that cannot be read or compiled is
reported, and the modes that run stay in place.

## Contents

* `guard`, `dispatch` — the gate
* `Settings.direction`, `stickMovement`, `stickEvent?` — the inputs of a stick report
* `Report`, `receive` — controller reports
* `speakLine`, `speakLines` — spoken text
* `install`, `reload`, `Studio.build` — configurations
* `reloadFrom`, `pollFile` — one reload with its outcome recorded, and one look at the configuration file
-/

namespace PadScribe

/-! ## The gate -/

section
variable (desk : Desk)

/-- Whether inputs may pass. Pointer buttons are released when the program is seen to be off after it was on. -/
def guard : Step Bool := do
  let s ← get
  let enabled := s.control.enabled
  if enabled = s.observedEnabled then return enabled
  else
    set { s with observedEnabled := enabled }
    if !enabled then respond (desk.pointer .releaseAll)
    return enabled

/-- Hands an input to the modes if it may pass. -/
def dispatch (inp : Input) : Step Unit := do
  if ← guard desk then handle desk inp

/-- Switches the program on or off. -/
def setEnabled (on : Bool) : Step Unit :=
  modify fun s => { s with control := { s.control with enabled := on } }

/-- Switches the program from on to off or from off to on, and says which. -/
def toggleEnabled : Step Bool := do
  let on := !(← get).control.enabled
  setEnabled on
  return on

/-! ## Controller reports -/

/-- What a controller reports. -/
inductive Report where
  | button (down up current : ButtonState)
  | stick (side : Side) (current previous : Position Float)
  | gyro (frame : GyroFrame)
  | battery (level : Int) (charging : Bool)
  | calibrated
  | readWriteError

/-- The movement of a stick report. -/
def stickMovement (device : Option Device) (side : Side) (position : Position Float) : Input :=
  { kind := .stick, device, stick := some { side, position } }

/-- The event between two positions under the thresholds of the settings. The neutral threshold is only
looked at when no edge was crossed. -/
def Settings.direction (s : Settings) (current previous : Position Number) : Except ShapeError Direction := do
  match Direction.firstCrossing (← s.edgeThreshold.toNumber) current previous Direction.edges with
  | .plain => return Direction.neutralCrossing (← s.neutralThreshold.toNumber) current previous
  | event => return event

/-- The zone event of a stick report, if there is one. -/
def stickEvent? (settings : Settings) (device : Option Device) (side : Side)
    (current previous : Position Float) : Except Fault (Option Input) :=
  match settings.direction (current.map .real) (previous.map .real) with
  | .error e => .error (.shape e)
  | .ok .plain => .ok none
  | .ok direction => .ok (some { kind := .stick, device, stick := some { side, position := current, direction } })

/-- The text of a battery report. -/
def batteryText (level : Int) (charging : Bool) : String :=
  if charging then "🔋" ++ toString level ++ ", ⚡ Charging" else "🔋" ++ toString level

/-- Shows a notice without an icon. -/
def showNotice (title text : String) : Step Unit :=
  respond (desk.notifier (.notify (some title) (some text) (some "")))

/-- The side of a device, which reports about the device itself have to come from. -/
def deviceSide : Option Device → Step String
  | some d => pure d.side.name
  | none => throw (.shape .missingPart)

/-- Takes in a report: its inputs go to `send`, and a report about the device itself is shown to the user. A
device that can no longer be read is disconnected. -/
def receive (send : Input → Step Unit) (device : Option Device) : Report → Step Unit
  | .button down up current =>
    send { kind := .button, device, button := some { down, up, current } }
  | .stick side current previous => do
    send (stickMovement device side current)
    match ← liftFault (stickEvent? (← get).settings device side current previous) with
    | some inp => send inp
    | none => return
  | .gyro frame => send { kind := .gyro, device, gyro := some frame }
  | .battery level charging => do
    showNotice desk (← deviceSide device) (batteryText level charging)
  | .calibrated => do
    showNotice desk "🔧 Calibrated" (← deviceSide device)
  | .readWriteError => do
    showNotice desk "R/W error" (← deviceSide device)
    emit .disconnect

/-! ## Spoken text -/

/-- Sends a spoken line through the gate, without the blanks around it; an empty line says nothing. -/
def speakLine (line : String) : Step Unit :=
  let text := Text.strip line
  if text = "" then pure () else dispatch desk (.spoken text)

/-- Sends a row of spoken lines through the gate. -/
def speakLines : List String → Step Unit
  | [] => pure ()
  | line :: rest => do
    speakLine desk line
    speakLines rest

/-! ## Configurations -/

/-- Compiles a configuration and installs its modes. One that does not compile leaves the modes that run in
place; recognizers that it made on the way are kept. -/
def install (cfg : Config) : Step Unit := do
  let s ← get
  let (made, result) := compileRules cfg s.hasRecognizers s.recognizers.length
  let fresh : List Recognizer :=
    List.replicate (made - s.recognizers.length) { failing := s.failing }
  set { s with recognizers := s.recognizers ++ fresh }
  let (modes, shifts) ← liftFault result
  setModes modes shifts

/-- Installs a configuration in place of the one that runs, with its settings. -/
def reload (cfg : Config) : Step Unit := do
  install cfg
  modify fun s => { s with settings := cfg.settings }

end

/-- The program on a configuration, before any input. -/
def Studio.build (cfg : Config) (start : Studio) : Except Fault Studio :=
  match (reload cfg).run start with
  | .ok _ s => .ok s
  | .error fault _ => .error fault

/-! ## The configuration file -/

/-- Reloads the program from what reading the file gave. -/
def reloadFrom (content : Except Fault Config) : Step Unit :=
  tryCatch
    (do
      reload (← liftFault content)
      emit .reloaded)
    fun fault => emit (.reloadFailed fault)

/-- Looks at the file once: the time of change to compare the next look with. -/
def pollFile (last : Option Int) (file : Option FileState) : Step (Option Int) := do
  match changed? last file with
  | none => return last
  | some f =>
    reloadFrom f.content
    return some f.modified

end PadScribe
