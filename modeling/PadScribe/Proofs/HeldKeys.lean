import Mathlib.Algebra.Group.Nat.Even
import Mathlib.Data.List.DropRight
import PadScribe.Panel

/-!
# `Proofs.HeldKeys` — the flag and the keys that repeat

A keyboard tells of presses and releases, and a key that is held down repeats its press as long as it is held. Which
keys are held can be read off what was told: those of which a press was told last. The flag is meant for one turn
each time that space goes down while a control key and an alt key are held, and for off each time that escape is
pressed then. But a repeated press of space turns it as well. So the flag stands as it is meant to exactly while the
repeats that came since the last escape have cancelled out.

## Contents

* `KeyEvent`, `Hotkeys.run` — what a keyboard tells, and a row of it
* `isHeld`, `isComboHeld`, `mem_held_run`, `comboHeld_run` — the keys that are held
* `Moment`, `moments` — every event with what was told before it
* `Moment.toggles`, `Moment.repeats`, `Moment.panics`, `wanted`, `repeatsSincePanic` — what events are meant to do
* `enabled_take` — one event
* **`wanted_iff_even_repeats`** — every row of events
-/

namespace PadScribe

/-- What a keyboard tells. A key that is held may repeat its press. -/
inductive KeyEvent where
  | press (key : String)
  | release (key : String)
  deriving DecidableEq, Repr

namespace Hotkeys

/-- The held keys and the flag after an event. -/
def take (h : Hotkeys) : KeyEvent → Hotkeys
  | .press key => (h.press key).1
  | .release key => h.release key

/-- The held keys and the flag after a row of events. -/
def run (events : List KeyEvent) (h : Hotkeys) : Hotkeys :=
  events.foldl take h

theorem run_concat (events : List KeyEvent) (e : KeyEvent) (h : Hotkeys) :
    run (events ++ [e]) h = (run events h).take e := by
  simp [run]

/-! ## The keys that are held -/

/-- What an event says about a key: whether it is down. -/
def about (key : String) : KeyEvent → Option Bool
  | .press k => if k = key then some true else none
  | .release k => if k = key then some false else none

/-- **A key is held** after some events: of those that are about it the last is a press. -/
def isHeld (events : List KeyEvent) (key : String) : Bool :=
  (events.filterMap (about key)).getLast? == some true

/-- Whether a control key and an alt key are held after some events. -/
def isComboHeld (events : List KeyEvent) : Bool :=
  controlKeys.any (isHeld events) && altKeys.any (isHeld events)

theorem isHeld_concat (events : List KeyEvent) (e : KeyEvent) (key : String) :
    isHeld (events ++ [e]) key = (about key e).getD (isHeld events key) := by
  unfold isHeld
  rw [List.filterMap_append, List.getLast?_append]
  cases h : about key e <;> simp [h]

/-- A press first holds its key; what it does to the flag hangs on the keys that are held then. -/
theorem press_fst (h : Hotkeys) (key : String) :
    (h.press key).1 = { h.hold key with enabled :=
      if (h.hold key).comboHeld then
        if key = "Key.space" then !h.enabled else if key = "Key.esc" then false else h.enabled
      else h.enabled } := by
  have hflag : (h.hold key).enabled = h.enabled := rfl
  unfold press
  cases hcombo : (h.hold key).comboHeld with
  | false => simp [hcombo, ← hflag]
  | true =>
      by_cases hspace : key = "Key.space"
      · subst hspace
        simp [hcombo, hflag]
      · by_cases hesc : key = "Key.esc"
        · subst hesc
          simp [hcombo]
        · simp [hcombo, hspace, hesc, ← hflag]

theorem mem_held_press (h : Hotkeys) (k key : String) : key ∈ (h.press k).1.held ↔ key = k ∨ key ∈ h.held := by
  rw [press_fst, hold]
  by_cases hk : k ∈ h.held
  · simp only [List.contains_iff_mem, hk, if_true]
    exact ⟨.inr, fun hor => hor.elim (fun he => he ▸ hk) id⟩
  · simp [hk]

/-- **The keys that are remembered** are those that are held. -/
theorem mem_held_run (flag : Bool) (events : List KeyEvent) (key : String) :
    key ∈ (run events { enabled := flag }).held ↔ isHeld events key = true := by
  induction events using List.reverseRecOn with
  | nil => simp [run, isHeld]
  | append_singleton events e ih =>
      rw [run_concat, isHeld_concat]
      cases e with
      | press k =>
          rw [take, mem_held_press, ih]
          by_cases hk : k = key
          · simp [about, hk]
          · simp [about, hk, Ne.symm hk]
      | release k =>
          rw [take, release, List.mem_filter, ih]
          by_cases hk : k = key
          · simp [about, hk]
          · simp [about, hk, Ne.symm hk]

theorem contains_held_run (flag : Bool) (events : List KeyEvent) :
    (run events { enabled := flag }).held.contains = isHeld events := by
  funext key
  rw [Bool.eq_iff_iff, List.contains_iff_mem, mem_held_run]

/-- A press of a key that is neither a control key nor an alt key holds no combination. -/
theorem comboHeld_hold (key : String) (hcontrol : key ∉ controlKeys) (halt : key ∉ altKeys) (h : Hotkeys) :
    (h.hold key).comboHeld = h.comboHeld := by
  have hany : ∀ keys : List String, key ∉ keys → keys.any (h.hold key).held.contains = keys.any h.held.contains := by
    intro keys hkeys
    rw [Bool.eq_iff_iff, List.any_eq_true, List.any_eq_true]
    have hother : ∀ k ∈ keys, (h.hold key).held.contains k = h.held.contains k := by
      intro k hk
      have hne : k ≠ key := fun he => hkeys (he ▸ hk)
      unfold hold
      split <;> simp [hne]
    exact exists_congr fun k => and_congr_right fun hk => by rw [hother k hk]
  unfold comboHeld
  rw [hany _ hcontrol, hany _ halt]

/-! ## Moments -/

/-- An event, and what was told before it. -/
structure Moment where
  before : List KeyEvent
  event : KeyEvent

/-- Every event of a row, with what was told before it. -/
def moments (events : List KeyEvent) : List Moment :=
  events.zipIdx.map fun p => ⟨events.take p.2, p.1⟩

theorem moments_concat (events : List KeyEvent) (e : KeyEvent) :
    moments (events ++ [e]) = moments events ++ [⟨events, e⟩] := by
  unfold moments
  rw [List.zipIdx_append, List.map_append]
  congr 1
  · apply List.map_congr_left
    intro p hp
    have hlt := List.snd_lt_of_mem_zipIdx hp
    rw [List.take_append_of_le_length (by omega)]
  · simp

namespace Moment

/-- Whether a key is pressed while a control key and an alt key are held. -/
def strikes (m : Moment) (key : String) : Bool :=
  m.event == .press key && isComboHeld m.before

/-- **The flag is meant to turn**: space goes down, which was not held before. -/
def toggles (m : Moment) : Bool :=
  m.strikes "Key.space" && !isHeld m.before "Key.space"

/-- **A press is repeated**: that of space, which is held already. -/
def repeats (m : Moment) : Bool :=
  m.strikes "Key.space" && isHeld m.before "Key.space"

/-- **The flag is meant to go off**: escape is pressed. -/
def panics (m : Moment) : Bool :=
  m.strikes "Key.esc"

/-- The flag as it is meant to be after a moment. -/
def turn (flag : Bool) (m : Moment) : Bool :=
  if m.toggles then !flag else if m.panics then false else flag

end Moment

/-- **The flag as it is meant to be** after some events. -/
def wanted (flag : Bool) (events : List KeyEvent) : Bool :=
  (moments events).foldl Moment.turn flag

/-- How many repeats of space there were since the flag was last meant to go off, or since the start. -/
def repeatsSincePanic (events : List KeyEvent) : Nat :=
  ((moments events).rtakeWhile (!·.panics)).countP Moment.repeats

theorem wanted_concat (flag : Bool) (events : List KeyEvent) (e : KeyEvent) :
    wanted flag (events ++ [e]) = Moment.turn (wanted flag events) ⟨events, e⟩ := by
  simp [wanted, moments_concat]

theorem repeatsSincePanic_concat (events : List KeyEvent) (e : KeyEvent) :
    repeatsSincePanic (events ++ [e]) =
      if Moment.panics ⟨events, e⟩ then 0
      else repeatsSincePanic events + if Moment.repeats ⟨events, e⟩ then 1 else 0 := by
  unfold repeatsSincePanic
  rw [moments_concat, List.rtakeWhile_concat]
  cases Moment.panics ⟨events, e⟩ <;> simp [List.countP_append, List.countP_singleton]

/-- Space and escape are different keys. -/
theorem panics_of_space {m : Moment} (h : m.strikes "Key.space" = true) : m.panics = false := by
  unfold Moment.strikes at h
  rw [Bool.and_eq_true, beq_iff_eq] at h
  unfold Moment.panics Moment.strikes
  rw [h.1]
  rfl

/-! ## What events do -/

/-- **One event** turns the flag with every press of space, repeated or not, and puts it off with every press of
escape, if a control key and an alt key are held. -/
theorem enabled_take (flag : Bool) (events : List KeyEvent) (e : KeyEvent) :
    let m : Moment := ⟨events, e⟩
    let h := run events { enabled := flag }
    (h.take e).enabled = if m.strikes "Key.space" then !h.enabled else if m.panics then false else h.enabled := by
  intro m h
  have hcombo : h.comboHeld = isComboHeld events := by
    unfold comboHeld isComboHeld
    rw [contains_held_run]
  cases e with
  | release k => simp [take, release, m, Moment.panics, Moment.strikes]
  | press k =>
      rw [take, press_fst]
      by_cases hspace : k = "Key.space"
      · subst hspace
        have hhold := comboHeld_hold "Key.space" (by decide) (by decide) h
        simp [hhold, hcombo, m, Moment.panics, Moment.strikes]
      · by_cases hesc : k = "Key.esc"
        · subst hesc
          have hhold := comboHeld_hold "Key.esc" (by decide) (by decide) h
          simp [hhold, hcombo, m, Moment.panics, Moment.strikes]
        · simp [m, Moment.panics, Moment.strikes, hspace, hesc]

/-- **The flag stands as it is meant to** after a row of events exactly when the presses of space that were repeated
since escape was pressed last are even in number. The keys that are remembered are those that are held. -/
theorem wanted_iff_even_repeats (flag : Bool) (events : List KeyEvent) :
    let after := run events { enabled := flag }
    (∀ key, key ∈ after.held ↔ isHeld events key = true) ∧
      (after.enabled = wanted flag events ↔ Even (repeatsSincePanic events)) := by
  refine ⟨mem_held_run flag events, ?_⟩
  induction events using List.reverseRecOn with
  | nil => simp [run, wanted, moments, repeatsSincePanic]
  | append_singleton events e ih =>
      rw [run_concat, enabled_take, wanted_concat, repeatsSincePanic_concat, Moment.turn]
      cases hspace : Moment.strikes ⟨events, e⟩ "Key.space" with
      | true =>
          -- the flag turns in any case, and is meant to only if space was not held
          have hpanics := panics_of_space hspace
          cases hheld : isHeld events "Key.space" with
          | true => simp [Moment.toggles, Moment.repeats, hspace, hheld, hpanics, Nat.even_add_one, ← ih, Bool.eq_not]
          | false => simp [Moment.toggles, Moment.repeats, hspace, hheld, hpanics, ih]
      | false =>
          cases hpanics : Moment.panics ⟨events, e⟩ with
          | true => simp [Moment.toggles, hspace]
          | false => simp [Moment.toggles, Moment.repeats, hspace, ih]

/-- **A repeated press turns the flag back**: space is held down long enough to repeat its press once, and the flag
is on again. -/
theorem repeat_turns_back :
    let events := [KeyEvent.press "Key.ctrl", .press "Key.alt", .press "Key.space", .press "Key.space"]
    wanted true events = false ∧ (run events {}).enabled = true := by
  decide

end Hotkeys

end PadScribe
