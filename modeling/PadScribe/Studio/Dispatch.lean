import PadScribe.Studio.Basic

/-!
# `Studio.Dispatch` — inputs on their way through the modes

Exactly one mode is current. While it is the default mode, an input first meets the shifts in order: one
that it turns on enters the shift's mode and takes the input; one that it turns off enters the default mode
anew and lets the input pass. While another mode is current, only the condition that turns off the shift it
was entered by leads back. What neither takes reaches the current mode.

## Contents

* `leaveCurrent`, `enterFound` — the hooks of modes
* `switchTo`, `restore`, `setModes` — changing the mode and installing modes
* `compileSpeech`, `utter` — compiling what was heard
* `Action.run`, `runTriggers` — triggers
* `tryShifts`, `passMode`, `handle` — one input
-/

namespace PadScribe

namespace Manager

/-- The mode of an id. -/
def find? (m : Manager) (id : String) : Option Mode :=
  m.modes.find? (·.id == id)

/-- The manager with the mode of an id changed. -/
def update (id : String) (f : Mode → Mode) (m : Manager) : Manager :=
  { m with modes := m.modes.map fun x => if x.id = id then f x else x }

/-- The current mode. -/
def currentMode? (m : Manager) : Option Mode :=
  m.current.bind m.find?

/-- The shifts with one of them on or off. -/
def setShift (i : Nat) (isOn : Bool) (m : Manager) : Manager :=
  { m with shifts := m.shifts.modify i fun s => { s with switch := { s.switch with isOn } } }

/-- The manager once the current mode has been left. -/
def leftCurrent (m : Manager) : Manager :=
  match m.current with
  | none => m
  | some id => m.update id Mode.left

/-- The work of leaving the current mode on an input. -/
def exitTasks (m : Manager) (inp : Option Input) : List Task :=
  match m.currentMode? with
  | none => []
  | some mode => mode.exitTasks inp

end Manager

/-! ## Changing the mode -/

/-- Leaves the current mode, if there is one. It stays the current mode until another one is entered. -/
def leaveCurrent (inp : Option Input) : Step Unit := do
  let m := (← get).manager
  submitAll (m.exitTasks inp)
  updateManager Manager.leftCurrent
  modify fun s => { s with hooks := s.hooks ++ m.current.toList.map (.exit s.retired.length) }

/-- Enters the mode that was found under an id. -/
def enterFound (id : String) (mode : Mode) (inp : Option Input) : Step Unit := do
  submitAll (mode.enterTasks inp)
  updateManager fun m => { m.update id Mode.entered with current := some id }
  modify fun s => { s with hooks := s.hooks ++ [.enter s.retired.length id] }

/-- Leaves the current mode and enters the one of an id. -/
def switchTo (id : String) (inp : Option Input) : Step Unit := do
  let m := (← get).manager
  match m.find? id with
  | none => throw (.mode (.unknown id))
  | some mode =>
    leaveCurrent inp
    enterFound id mode inp
    modify fun s => { s with control := { s.control with modeId := id } }
    emit (.switched m.current id)

/-- Enters the default mode, if there is one. -/
def restore (inp : Input) : Step Unit := do
  match (← get).manager.home with
  | none => return
  | some id => switchTo id (some inp)

/-- The first id that some modes use twice. -/
def duplicateId? : List String → List Mode → Option String
  | _, [] => none
  | seen, m :: rest => if seen.contains m.id then some m.id else duplicateId? (m.id :: seen) rest

/-- Installs modes and shifts in place of those there were, which are retired once their current mode has been
left. The first mode is the default mode and is entered. Modes that cannot be installed leave everything as it
was. -/
def setModes (modes : List Mode) (shifts : List Shift) : Step Unit := do
  match modes with
  | [] => throw (.mode .noneConfigured)
  | first :: _ =>
    match duplicateId? [] modes with
    | some id => throw (.mode (.duplicate id))
    | none =>
      leaveCurrent none
      modify fun s => { s with
        manager := { modes, shifts, home := some first.id }
        retired := s.retired ++ [s.manager.modes] }
      switchTo first.id none

/-! ## Triggers -/

/-- Compiles what was heard. Spoken errors are recorded and passed over. -/
def compileSpeech (v : Vocabulary) (text : String) : Step (List Command) := do
  let (compiled, last) := v.compile (← get).lastSpeech text
  modify fun s =>
    { s with lastSpeech := last, record := s.record ++ compiled.dropped.map .spokenError }
  match compiled.fault with
  | some fault => throw fault
  | none => return compiled.commands

/-- Compiles what was heard and puts off running it. -/
def utter (v : Vocabulary) (text : String) : Step Unit := do
  let commands ← compileSpeech v text
  modify fun s => { s with speech := s.speech ++ [commands] }

/-- How far an input moves the pointer at a speed; inputs without a position or a sample do not move it. -/
def pointerMove? (speed : Option Float) (inp : Input) : Except Fault (Option (Int × Int)) :=
  let pair (dx dy : Except ConversionError Int) : Except Fault (Option (Int × Int)) :=
    match dx, dy with
    | .ok dx, .ok dy => .ok (some (dx, dy))
    | .error e, _ => .error (.conversion e)
    | _, .error e => .error (.conversion e)
  match inp.kind, inp.stick, inp.gyro, speed with
  | .stick, some r, _, some k =>
    pair (Binary64.truncate (r.position.x * k)) (Binary64.truncate (-r.position.y * k))
  | .gyro, _, some f, some k => pair (Binary64.scale f.yaw k) (Binary64.scale (-f.pitch) k)
  | .stick, some _, _, none => .error (.shape .wrongKind)
  | .gyro, _, some f, none => .error (.ofEmptiedFactor f.yaw)
  | _, _, _, _ => .ok none

/-- A result of a computation as a step. -/
def liftFault {α : Type} : Except Fault α → Step α
  | .ok a => pure a
  | .error fault => throw fault

section
variable (desk : Desk)

/-- Enters a mode; when there is no such mode, a warning is put off instead. -/
def enterOrWarn (id : String) (inp : Input) : Step Unit :=
  tryCatch (switchTo id (some inp)) fun
    | .mode e => submit (.alert ("failed to switch to mode " ++ id) e.message)
    | fault => throw fault

/-- Taps keys in their normal form; without keys nothing happens. -/
def tapKeys (keys : List String) : Step Unit :=
  if keys.isEmpty then pure () else respond (desk.keyboard (.tap (keys.map Key.normalize)))

/-- What an action does on an input. -/
def Action.run (inp : Input) : Action → Step Unit
  | moveCursor speed => do
    match ← liftFault (pointerMove? speed inp) with
    | some (dx, dy) => submit (.move dx dy)
    | none => return
  | click button double => respond (desk.pointer (.click button double))
  | enterMode (some id) => enterOrWarn id inp
  | enterMode none => throw (.shape .wrongKind)
  | notify title text icon =>
    match inp.kind, inp.speech with
    | .speech, some heard => submit (.notify (some "speech") heard.text icon)
    | _, _ => submit (.notify title text icon)
  | speak text => submit (.deliver (.uttered ⟨text⟩))
  | hotkey keys => tapKeys desk keys
  | speech v =>
    match inp.kind, inp.speech with
    | .speech, some ⟨some heard⟩ => utter v heard
    | .speech, some ⟨none⟩ => throw (.shape .missingPart)
    | _, _ => return
  | flush => do
    match (← get).manager.currentMode? with
    | some { id, kind := .speech line, .. } => submit (.flush id line)
    | _ => return
  | replay => do
    let last := (← get).lastSpeech
    if last = "" then return else submit (.replay last)

/-- Runs the actions of the triggers whose conditions hold, in order. -/
def runTriggers (inp : Input) : List Trigger → Step Unit
  | [] => pure ()
  | t :: rest => do
    if t.condition.holds inp then t.action.run desk inp
    runTriggers inp rest

/-! ## One input -/

/-- An input on its way through the shifts from the given place on: whether one of them took it. -/
def tryShifts (inp : Input) : Nat → List Shift → Step Bool
  | _, [] => pure false
  | i, s :: rest =>
    match s.switch.change inp with
    | .on => do
      (Action.enterMode s.target).run desk inp
      updateManager fun m => { m.setShift i true with exit := some s.switch.off }
      return true
    | .off => do
      restore inp
      updateManager (Manager.setShift i false)
      tryShifts inp (i + 1) rest
    | .none => tryShifts inp (i + 1) rest

/-- An input in a mode: through its switches, then to its triggers. -/
def passMode (id : String) (inp : Input) : Step Unit := do
  match (← get).manager.find? id with
  | none => return
  | some mode =>
    let (switches, tasks, out) := ModeSwitch.passAll mode.switches inp
    updateManager (Manager.update id fun m => { m with switches })
    submitAll tasks
    runTriggers desk (← liftFault out) mode.triggers

/-- Whether the condition that leads back to the default mode holds; if so, that mode is entered. -/
def tryExit (inp : Input) : Step Bool := do
  match (← get).manager.exit with
  | none => return false
  | some condition =>
    if condition.holds inp then
      restore inp
      updateManager fun m => { m with exit := none }
      return true
    else return false

/-- One input. Without a current mode it goes nowhere. -/
def handle (inp : Input) : Step Unit := do
  emit (.delivered inp)
  let m := (← get).manager
  match m.current with
  | none => return
  | some id =>
    let taken ← if m.home = some id then tryShifts desk inp 0 m.shifts else tryExit inp
    if taken then return
    passMode desk id inp

end

end PadScribe
