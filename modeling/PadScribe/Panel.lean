import PadScribe.Text.Point

/-!
# `Panel` — switching the program from the keyboard and from the tray

While a control key and an alt key are held, a press of space switches the program on or off and a press of
escape switches it off. A key that repeats its press counts each time.

The tray shows whether the program is on and which mode is active: in its title, in its menu, and in an icon
that carries a badge in the mode's colour. The icon and the title change when the tray looks at the shared
state and finds it changed; the menu always shows the state as it is. A mode whose name has no bytes has no
badge, and the icon cannot be drawn.

## Contents

* `Hotkeys` — the held keys and the flag
* `Hotkeys.press`, `Hotkeys.release` — the events
* `badgeColor`, `trayTitle`, `drawingWith`, `drawing` — how a state is shown
* `MenuItem`, `Tray.menu` — the menu
* `Tray` — the tray and the state it shows
* `Tray.display`, `Tray.refresh`, `Tray.choose`, `Tray.poll` — what changes it
-/

namespace PadScribe

/-! ## The keyboard -/

/-- The keys that are held and the flag that they switch. -/
structure Hotkeys where
  held : List String := []
  enabled : Bool := true
  deriving DecidableEq, Repr

namespace Hotkeys

/-- The control keys. -/
def controlKeys : List String := ["Key.ctrl", "Key.ctrl_l", "Key.ctrl_r"]

/-- The alt keys. -/
def altKeys : List String := ["Key.alt", "Key.alt_l", "Key.alt_r", "Key.alt_gr"]

/-- Whether a control key and an alt key are held. -/
def comboHeld (h : Hotkeys) : Bool :=
  controlKeys.any h.held.contains && altKeys.any h.held.contains

/-- The held keys with one more. -/
def hold (key : String) (h : Hotkeys) : Hotkeys :=
  { h with held := if h.held.contains key then h.held else key :: h.held }

/-- A press of a key, and the lines it prints. -/
def press (key : String) (h : Hotkeys) : Hotkeys × List String :=
  let h := h.hold key
  if !h.comboHeld then (h, [])
  else if key = "Key.space" then
    let on := !h.enabled
    ({ h with enabled := on }, ["[joytyping] " ++ (if on then "ON" else "OFF") ++ " (Ctrl+Alt+Space)"])
  else if key = "Key.esc" then ({ h with enabled := false }, ["[joytyping] OFF (PANIC) (Ctrl+Alt+Esc)"])
  else (h, [])

/-- A release of a key. -/
def release (key : String) (h : Hotkeys) : Hotkeys :=
  { h with held := h.held.filter (· != key) }

end Hotkeys

/-! ## The tray -/

/-- The colours of badges. -/
def badgeColors : List (Nat × Nat × Nat) :=
  [(66, 165, 245), (102, 187, 106), (255, 167, 38), (171, 71, 188), (239, 83, 80), (38, 198, 218)]

/-- The colour of a mode's badge, if the mode's name has bytes. -/
def badgeColor (modeId : String) : Except Text.EncodingError (Nat × Nat × Nat) :=
  (Text.crc32 modeId).map fun sum => badgeColors.getD (sum % badgeColors.length) (0, 0, 0)

/-- The title of the tray icon. -/
def trayTitle (enabled : Bool) (modeId : String) : String :=
  let status := if enabled then "ON" else "OFF"
  if modeId = "" then "joytyping (" ++ status ++ ")" else "joytyping (" ++ status ++ ", " ++ modeId ++ ")"

/-- A colour with its opacity. -/
structure Paint where
  red : Nat
  green : Nat
  blue : Nat
  alpha : Nat
  deriving DecidableEq, Repr

/-- A box by its corners. -/
structure Box where
  left : Nat
  top : Nat
  right : Nat
  bottom : Nat
  deriving DecidableEq, Repr

/-- One stroke of the icon's drawing. -/
inductive Stroke where
  | canvas (mode : String) (width height : Nat) (fill : Paint)
  | roundedBox (box : Box) (radius : Nat) (outline : Paint) (width : Nat)
  | ellipse (box : Box) (fill : Paint)
  | line (box : Box) (fill : Paint) (width : Nat)
  deriving DecidableEq, Repr

/-- The drawing of the icon: a controller with its stick, the badge in its colour if there is one, and a
stroke through it all while the program is off. -/
def drawingWith (enabled : Bool) (badge : Option (Nat × Nat × Nat)) : List Stroke :=
  let alpha := if enabled then 230 else 90
  [.canvas "RGBA" 64 64 ⟨0, 0, 0, 0⟩,
    .roundedBox ⟨6, 14, 58, 50⟩ 12 ⟨255, 255, 255, alpha⟩ 3,
    .ellipse ⟨34, 22, 46, 34⟩ ⟨255, 255, 255, alpha⟩]
  ++ (badge.map fun (r, g, b) => Stroke.ellipse ⟨12, 30, 28, 46⟩ ⟨r, g, b, alpha⟩).toList
  ++ (if enabled then [] else [.line ⟨10, 54, 54, 10⟩ ⟨239, 83, 80, 255⟩ 4])

/-- The drawing of the icon with the badge of a mode, if there is a mode. -/
def drawing (enabled : Bool) (modeId : String) : Except Text.EncodingError (List Stroke) :=
  if modeId = "" then .ok (drawingWith enabled none)
  else (badgeColor modeId).map fun color => drawingWith enabled (some color)

/-- A line of the menu. -/
structure MenuItem where
  text : String
  checked : Option Bool := none
  active : Bool := true
  isDefault : Bool := false
  deriving DecidableEq, Repr

/-- The tray: the shared state, what the icon shows of it, and whether the tray or the program has ended. -/
structure Tray where
  enabled : Bool := true
  modeId : String := ""
  shown : Option (Bool × String) := none
  icon : List Stroke := []
  title : String := ""
  updates : Nat := 0
  stopped : Bool := false
  stopping : Bool := false
  deriving DecidableEq, Repr

namespace Tray

/-- The menu. -/
def menu (t : Tray) : List MenuItem :=
  [{ text := "Mode: " ++ (if t.modeId = "" then "-" else t.modeId), active := false },
    { text := "Enabled", checked := some t.enabled, isDefault := true },
    { text := "Turn ON" },
    { text := "Turn OFF" },
    { text := "-" },
    { text := "Quit" }]

/-- The tray with the shared state shown by an icon. -/
def display (icon : List Stroke) (t : Tray) : Tray :=
  { t with
    shown := some (t.enabled, t.modeId)
    icon
    title := trayTitle t.enabled t.modeId
    updates := t.updates + 1 }

/-- Shows the shared state, if it is not what is shown already and its icon can be drawn. -/
def refresh (t : Tray) : Except Text.EncodingError Tray :=
  if t.shown = some (t.enabled, t.modeId) then .ok t
  else (drawing t.enabled t.modeId).map fun icon => t.display icon

/-- The tray when it starts, without a mode. -/
def start : Tray :=
  ({} : Tray).display (drawingWith true none)

/-- Chooses a line of the menu by its place. -/
def choose (place : Nat) (t : Tray) : Except Text.EncodingError Tray :=
  match place with
  | 1 => ({ t with enabled := !t.enabled } : Tray).refresh
  | 2 => ({ t with enabled := true } : Tray).refresh
  | 3 => ({ t with enabled := false } : Tray).refresh
  | 5 => .ok { t with stopped := true, stopping := true }
  | _ => .ok t

/-- Looks at the shared state, unless the program is ending. -/
def poll (t : Tray) : Except Text.EncodingError Tray :=
  if t.stopping then .ok t else t.refresh

/-- What is printed when the tray fails. -/
def crashLine (reason : String) : String :=
  "[joytyping] Tray backend crashed: " ++ reason

end Tray

end PadScribe
