import PadScribe.Device.Pointer
import PadScribe.Rule.Key
import PadScribe.Studio.Effect

/-!
# `Device.Desktop` — the keyboard, the popups and the desk of a running program

A hotkey presses its held keys in order, taps its first key, and releases the held keys in reverse, also
when the tap fails. A name that is no key fails before anything is pressed.

A notice is shown as a popup under the name of the application. A warning carries that name in its title
too. A popup that cannot be shown is passed over.

## Contents

* `Keyboard.members`, `Keyboard.key?` — the keys with names
* `Keyboard.typeText`, `Keyboard.tap`, `Keyboard.respond` — the calls, and the requests of rules as calls
* `Popup`, `Popup.notify`, `Popup.alert`, `Popup.respond` — notices
* `Desk.desktop` — requests become events of the pointer device, key strokes and popups
-/

namespace PadScribe

/-! ## The keyboard -/

namespace Keyboard

/-- The keys that have a name. -/
def members : List String :=
  ["alt", "alt_l", "alt_r", "alt_gr", "backspace", "caps_lock", "cmd", "cmd_l", "cmd_r", "ctrl", "ctrl_l",
    "ctrl_r", "delete", "down", "end", "enter", "esc", "home", "left", "page_down", "page_up", "right",
    "shift", "shift_l", "shift_r", "space", "tab", "up", "media_play_pause", "media_volume_mute",
    "media_volume_down", "media_volume_up", "media_previous", "media_next", "insert", "menu", "num_lock",
    "pause", "print_screen", "scroll_lock"] ++ Key.functionKeys

/-- The key of a name: a character is its own key. -/
def key? (name : String) : Option String :=
  let key := Key.normalize name
  if Text.isSingle key then some key else if members.contains key then some ("Key." ++ key) else none

/-- The keys of several names, if all of them are keys. -/
def keys? (names : List String) : Option (List String) :=
  names.mapM key?

/-- Types a text. -/
def typeText (text : String) : Response :=
  ⟨[.keyboard (.typed text)], none⟩

/-- Taps the first key while the others are held. `failure` says why tapping fails, if it does. -/
def tap (failure : Option String) (names : List String) : Response :=
  if names.isEmpty then ⟨[], none⟩
  else
    match keys? names with
    | some (main :: held) =>
      let tapped := if failure.isSome then [] else [KeyStroke.tap main]
      let strokes := held.map KeyStroke.press ++ tapped ++ held.reverse.map KeyStroke.release
      ⟨strokes.map .keyboard, failure.map .outside⟩
    | _ => ⟨[], some (.shape .missingPart)⟩

/-- What comes of a request. -/
def respond (failure : Option String) : KeyRequest → Response
  | .typeText text => typeText text
  | .tap names => tap failure names

end Keyboard

/-! ## Notices -/

/-- How popups are shown: under which name, for how many seconds, and whether they can be shown at all. -/
structure Popup where
  application : String := "joytyping"
  timeout : Int := 6
  works : Bool := true

namespace Popup

/-- Shows a notice. -/
def notify (p : Popup) (title text icon : Option String) : Response :=
  ⟨if p.works then [.popup title text p.application icon p.timeout] else [], none⟩

/-- Shows a warning. -/
def alert (p : Popup) (title text : String) : Response :=
  p.notify (some ("[" ++ p.application ++ "] " ++ title)) (some text) (some "")

/-- What comes of a notice. -/
def respond (p : Popup) : Notice → Response
  | .notify title text icon => p.notify title text icon
  | .alert title text => p.alert title text

end Popup

/-! ## The desk -/

/-- The desk at which requests become device events. Without a pointer device, pointer requests do nothing. -/
def Desk.desktop (hasPointer : Bool) (shell : List String → ShellResult) : Desk where
  pointer := if hasPointer then Pointer.respond else Pointer.ignore
  keyboard := Keyboard.respond none
  notifier := ({} : Popup).respond
  shell := shell

end PadScribe
