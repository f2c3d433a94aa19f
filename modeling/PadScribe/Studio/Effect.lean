import PadScribe.Mode.Basic

/-!
# `Studio.Effect` — what reaches the outside

## Contents

* `RecognizerCall` — what is asked of a recognizer
* `DeviceEvent`, `KeyStroke` — what reaches a virtual pointer and a keyboard
* `Effect` — everything that reaches the outside, and the milestones on the way there
* `PointerRequest`, `KeyRequest`, `Notice`, `ShellResult`, `Response`, `Desk` — where requests go
-/

namespace PadScribe

/-- What a recognizer is asked to do. -/
inductive RecognizerCall where
  | dial (host : Option String)
  | close
  | phrases (words : List Json)
  | send (audio : String)
  | flush

/-- What reaches the virtual pointer device. -/
inductive DeviceEvent where
  | create (name : String) (capabilities : List (Nat × List Nat))
  | write (type code : Nat) (value : Int)
  | syn
  | close
  deriving DecidableEq, Repr

/-- What reaches the keyboard. -/
inductive KeyStroke where
  | typed (text : String)
  | press (key : String)
  | release (key : String)
  | tap (key : String)
  deriving DecidableEq, Repr

/-- What reaches the outside, and the milestones on the way there. -/
inductive Effect where
  | move (dx dy : Int)
  | click (button : Option PointerButton) (double : Bool)
  | toggle (button : Option PointerButton) (down : Bool)
  | releaseAll
  | typeText (text : String)
  | tap (keys : List String)
  | notify (title text icon : Option String)
  | alert (title text : String)
  | device (event : DeviceEvent)
  | keyboard (stroke : KeyStroke)
  | popup (title text : Option String) (application : String) (icon : Option String) (timeout : Int)
  | gyro (on : Bool)
  | disconnect
  | recognizer (index : Nat) (call : RecognizerCall)
  | sleep (seconds : Float)
  | shell (command : List String)
  | switched (previous : Option String) (next : String)
  | spokenError (e : SpokenError)
  | taskFailed (fault : Fault)
  | limitReached
  | delivered (inp : Input)
  | reloaded
  | reloadFailed (fault : Fault)
  | watching (path : String)

/-- What the pointer is asked to do. -/
inductive PointerRequest where
  | move (dx dy : Int)
  | click (button : Option PointerButton) (double : Bool)
  | toggle (button : Option PointerButton) (down : Bool)
  | releaseAll

/-- What the keyboard is asked to do. -/
inductive KeyRequest where
  | typeText (text : String)
  | tap (keys : List String)

/-- What is shown to the user. -/
inductive Notice where
  | notify (title text icon : Option String)
  | alert (title text : String)

/-- How a program that was run ended. -/
inductive ShellResult where
  | exited (code : Int)
  | failed (reason : String)

/-- What comes of a request: what reached the outside, and the failure after it, if there was one. -/
structure Response where
  effects : List Effect
  fault : Option Fault := none

/-- Where requests go. -/
structure Desk where
  pointer : PointerRequest → Response
  keyboard : KeyRequest → Response
  notifier : Notice → Response
  shell : List String → ShellResult

/-- The desk at which every request reaches the outside as it is. -/
def Desk.plain (shell : List String → ShellResult) : Desk where
  pointer
    | .move dx dy => ⟨[.move dx dy], none⟩
    | .click button double => ⟨[.click button double], none⟩
    | .toggle button down => ⟨[.toggle button down], none⟩
    | .releaseAll => ⟨[.releaseAll], none⟩
  keyboard
    | .typeText text => ⟨[.typeText text], none⟩
    | .tap keys => ⟨[.tap keys], none⟩
  notifier
    | .notify title text icon => ⟨[.notify title text icon], none⟩
    | .alert title text => ⟨[.alert title text], none⟩
  shell := shell

end PadScribe
