import PadScribe.Config.Basic
import PadScribe.Studio.Effect

/-!
# `Studio.Basic` — the whole state

A studio holds everything that changes while the program runs: the modes, the queues of work put off, the
recognizers, the shared ON/OFF flag, and the record of what reached the outside. There are two queues. One
takes short work of any kind; the other takes the commands of one utterance after another.

Modes that are replaced live on: audio may still be fed to them. They are kept as they were left.

A step that fails keeps what it did before it failed.

## Contents

* `Manager`, `Recognizer`, `Control`, `Hook`, `Studio` — the state
* `Step` — a step that may fail
* `emit`, `submit`, `respond` — the record, the queue and the desk
-/

namespace PadScribe

/-- The installed modes. `home` is the default mode, `exit` the condition that leads back to it. -/
structure Manager where
  modes : List Mode := []
  shifts : List Shift := []
  exit : Option Condition := none
  home : Option String := none
  current : Option String := none

/-- What a recognizer can be asked, as far as it can fail. -/
inductive RecognizerPart where
  | dial
  | close
  | phrases
  | send
  | flush
  | isAlive
  deriving DecidableEq, Repr

namespace RecognizerPart

/-- Every part. -/
def all : List RecognizerPart := [dial, close, phrases, send, flush, isAlive]

/-- The name of a part. -/
def name : RecognizerPart → String
  | dial => "dial"
  | close => "close"
  | phrases => "phrases"
  | send => "send"
  | flush => "flush"
  | isAlive => "is_alive"

/-- The part of a name. -/
def ofName? (s : String) : Option RecognizerPart :=
  all.find? (·.name == s)

end RecognizerPart

/-- A recognizer: whether it is connected, whether its results are listened to, and what fails. -/
structure Recognizer where
  alive : Bool := false
  heard : Bool := false
  failing : List RecognizerPart := []
  deriving DecidableEq, Repr

/-- The flag that the user switches, and the mode that is shown to the user. -/
structure Control where
  enabled : Bool := true
  modeId : String := ""
  deriving DecidableEq, Repr

/-- A hook of a mode that was run. Modes of different installations are different modes, also under one id:
`era` is the number of installations up to that of the mode. -/
inductive Hook where
  | enter (era : Nat) (id : String)
  | exit (era : Nat) (id : String)
  deriving DecidableEq, Repr

/-- Everything that changes while the program runs. `observedEnabled` is the flag as the gate last saw it,
`retired` the modes that each installation replaced, as they were left, and `hooks` what the modes were told. -/
structure Studio where
  manager : Manager := {}
  recognizers : List Recognizer := []
  hasRecognizers : Bool := false
  failing : List RecognizerPart := []
  lastSpeech : String := ""
  pool : List Task := []
  speech : List (List Command) := []
  control : Control := {}
  observedEnabled : Bool := true
  settings : Settings := {}
  retired : List (List Mode) := []
  hooks : List Hook := []
  record : List Effect := []

/-- A step that may fail. -/
abbrev Step := EStateM Fault Studio

/-- Records an effect. -/
def emit (e : Effect) : Step Unit :=
  modify fun s => { s with record := s.record ++ [e] }

/-- Puts work off. -/
def submit (t : Task) : Step Unit :=
  modify fun s => { s with pool := s.pool ++ [t] }

/-- Puts several pieces of work off. -/
def submitAll (ts : List Task) : Step Unit :=
  modify fun s => { s with pool := s.pool ++ ts }

/-- Changes the installed modes. -/
def updateManager (f : Manager → Manager) : Step Unit :=
  modify fun s => { s with manager := f s.manager }

/-- Records what came of a request, and fails if the request did. -/
def respond (r : Response) : Step Unit := do
  modify fun s => { s with record := s.record ++ r.effects }
  match r.fault with
  | none => return
  | some fault => throw fault

end PadScribe
