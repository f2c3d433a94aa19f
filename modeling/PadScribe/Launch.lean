import PadScribe.Device.Desktop
import PadScribe.Studio.Session

/-!
# `Launch` — a whole run

A run reads the configuration, opens the pointer device, builds the program, takes in every line that is
spoken on the console, and ends when there are no more. A configuration that does not compile ends the run
with an explanation. At the end the program is switched off, so that no pointer button stays down; work that
was put off still runs.

A run without devices of its own writes down what it would have done, one line for each effect that reaches
a device or the user. Milestones inside the program are not written down.

## Contents

* `logLevelNames`, `logLevel` — how much is logged
* `Launch`, `Outcome` — what a run is given, and what comes of it
* `Launch.run` — the run
* `KeyStroke.line`, `Effect.line?`, `transcript` — effects in words
-/

namespace PadScribe

/-- The names of log levels, and the names that they are shown by. -/
def logLevelNames : List (String × String) :=
  [("CRITICAL", "CRITICAL"), ("FATAL", "CRITICAL"), ("ERROR", "ERROR"), ("WARN", "WARNING"),
    ("WARNING", "WARNING"), ("INFO", "INFO"), ("DEBUG", "DEBUG"), ("NOTSET", "NOTSET")]

/-- The log level: the one asked for, or the one of the settings. -/
def logLevel (asked : Option String) (settings : Settings) : Except Fault String := do
  let name ←
    match asked.filter (· != ""), settings.logLevel.text with
    | some name, _ => .ok name
    | none, .ok name => .ok name
    | none, .error e => .error (.shape e)
  match logLevelNames.lookup (Text.upper name) with
  | some shown => .ok shown
  | none => .error (.unknownLogLevel (Text.upper name))

/-- What a run is given: the configuration file and its text if it exists, the log level asked for, what is
spoken on the console, whether there is a pointer device, and whether the user interrupts. -/
structure Launch where
  path : String
  text : Option String
  level : Option String := none
  lines : List String := []
  hasPointer : Bool := true
  interrupted : Bool := false
  shell : List String → ShellResult := fun _ => .exited 0

/-- What comes of a run. -/
structure Outcome where
  code : Int
  level : String
  printed : List String
  effects : List Effect
  shutdowns : Nat

namespace Launch

/-- What is printed once the program runs. -/
def banner (path : String) : List String :=
  ["[joytyping] running, config: " ++ path, "  - Ctrl+Alt+Space toggles", "  - Ctrl+Alt+Esc PANIC OFF",
    "  - type a line to speak it, Ctrl+D to exit"]

/-- What is printed when the configuration does not compile. -/
def configErrorLine (path : String) (e : CompileError) : String :=
  "[joytyping] config error in " ++ path ++ ": " ++ e.message

/-- What is printed when the user interrupts, on a line of its own. -/
def interruptNotice : String :=
  "\n[joytyping] exiting"

/-- The most pieces of work that still run after the end. -/
def workLimit : Nat := 500

/-- From the first spoken line to the end. A line that fails ends the run. -/
def converse (l : Launch) : Step Unit := do
  let desk := Desk.desktop l.hasPointer l.shell
  emit (.watching l.path)
  speakLines desk l.lines
  setEnabled false
  let _ ← guard desk
  if l.hasPointer then respond ⟨Pointer.closed, none⟩
  settle desk workLimit

/-- A run. -/
def run (l : Launch) : Except Fault Outcome := do
  let cfg ← Config.load l.text
  let level ← logLevel l.level cfg.settings
  let created := if l.hasPointer then Pointer.created else []
  let closed := if l.hasPointer then Pointer.closed else []
  match Studio.build cfg { record := created } with
  | .error (.compile e) =>
    return { code := 1, level, printed := [configErrorLine l.path e], effects := created ++ closed,
             shutdowns := 1 }
  | .error fault => .error fault
  | .ok studio =>
    match l.converse.run studio with
    | .error fault _ => .error fault
    | .ok _ studio =>
      return { code := 0, level
               printed := banner l.path ++ (if l.interrupted then [interruptNotice] else [])
               effects := studio.record, shutdowns := 1 }

end Launch

/-! ## Effects in words -/

/-- A key stroke in words. -/
def KeyStroke.line : KeyStroke → String
  | typed text => "type " ++ text
  | press key => "press " ++ key
  | release key => "release " ++ key
  | tap key => "tap " ++ key

/-- An effect in words, if it is written down. -/
def Effect.line? : Effect → Option String
  | device (.write type code value) =>
    some ("pointer " ++ toString type ++ " " ++ toString code ++ " " ++ toString value)
  | keyboard stroke => some stroke.line
  | popup title text _ _ _ => some ("popup " ++ title.getD "" ++ ": " ++ text.getD "")
  | gyro on => some (if on then "gyro on" else "gyro off")
  | disconnect => some "disconnect"
  | shell command => some ("shell " ++ String.intercalate " " command)
  | spokenError e => some ("unclear: " ++ e.message)
  | taskFailed fault => some ("failed: " ++ fault.message)
  | _ => none

/-- A row of effects in words. -/
def transcript (effects : List Effect) : List String :=
  effects.filterMap Effect.line?

end PadScribe
