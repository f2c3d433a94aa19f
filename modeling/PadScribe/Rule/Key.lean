import PadScribe.Text.LetterCase
import PadScribe.Text.Point

/-!
# `Rule.Key` — key names and pointer buttons

A key is named by its one character, or by a name in any letter case. A few spoken names are aliases.

## Contents

* `Key.normalize` — the normal form of a name
* `Key.isModifier`, `Key.isKey` — the names that are accepted
* `PointerButton` — the buttons and wheel directions that rules can press
* `PointerButton.clickable`, `PointerButton.holdable` — which of them a rule may click or hold
-/

namespace PadScribe

/-! ## Keys -/

namespace Key

/-- The keys that are held while another is tapped. -/
def modifiers : List String := ["ctrl", "shift", "alt", "cmd"]

/-- Spoken and configured names for keys that have another normal name. -/
def aliases : List (String × String) :=
  [("control", "ctrl"), ("ctl", "ctrl"), ("option", "alt"), ("meta", "cmd"), ("super", "cmd"),
    ("win", "cmd"), ("command", "cmd"), ("escape", "esc"), ("return", "enter"), ("del", "delete"),
    ("pageup", "page_up"), ("pagedown", "page_down"), ("capslock", "caps_lock"),
    ("printscreen", "print_screen")]

/-- The function keys. -/
def functionKeys : List String :=
  (List.range 20).map fun i => "f" ++ toString (i + 1)

/-- The normal names of the keys that have a name and are no modifiers. -/
def named : List String :=
  ["enter", "esc", "tab", "space", "backspace", "delete", "insert", "up", "down", "left", "right", "home",
    "end", "page_up", "page_down", "caps_lock", "num_lock", "scroll_lock", "print_screen", "pause", "menu",
    "media_play_pause", "media_next", "media_previous", "media_volume_up", "media_volume_down",
    "media_volume_mute"] ++ functionKeys

/-- The normal form of a key name. A single character stays as it is. -/
def normalize (name : String) : String :=
  if Text.isSingle name then name
  else
    let low := Text.lower name
    (aliases.lookup low).getD low

/-- Whether a name is that of a modifier. -/
def isModifier (name : String) : Bool :=
  modifiers.contains (normalize name)

/-- Whether a name is that of any key. -/
def isKey (name : String) : Bool :=
  let key := normalize name
  Text.isSingle key || named.contains key || modifiers.contains key

end Key

/-! ## Pointer buttons -/

/-- A pointer button or a wheel direction. -/
inductive PointerButton where
  | left
  | center
  | right
  | wheelUp
  | wheelDown
  | wheelLeft
  | wheelRight
  deriving DecidableEq, Repr

namespace PointerButton

/-- What can be clicked. -/
def clickable : List PointerButton :=
  [left, center, right, wheelUp, wheelDown, wheelLeft, wheelRight]

/-- What can be held. -/
def holdable : List PointerButton :=
  [left, center, right]

/-- The name of a button. -/
def name : PointerButton → String
  | left => "left"
  | center => "center"
  | right => "right"
  | wheelUp => "wheelUp"
  | wheelDown => "wheelDown"
  | wheelLeft => "wheelLeft"
  | wheelRight => "wheelRight"

/-- The button of a name. -/
def ofName? (s : String) : Option PointerButton :=
  clickable.find? (·.name == s)

end PointerButton

end PadScribe
