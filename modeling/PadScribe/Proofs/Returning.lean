import PadScribe.Proofs.Quiet

/-!
# `Proofs.Returning` — inputs that come to the default mode

While the default mode is current, an input that turns no shift on goes on to the default mode. But the shifts
that it turns off are looked at too, and each of them enters the default mode anew, whether or not it was on. So a
button that is let go late, after its mode was left by another one, turns every switch of the default mode off
before the input reaches them. Otherwise the switches latch on their own conditions, and only triggers enter a
mode.

## Contents

* `Manager.ends`, `ModeSwitch.anew`, `EntersOn` — shifts that end, switches that start again, triggers that enter
* `tryShifts_ends` — the shifts that an input turns off
* `steer_ends`, `ComesHome`, `home_input` — an input that comes to the default mode
-/

namespace PadScribe

/-- Whether a shift ends on an input. -/
def Shift.endsOn (inp : Input) (k : Shift) : Bool :=
  k.switch.off.holds inp

/-- How many shifts end on an input. -/
def Manager.ends (m : Manager) (inp : Input) : Nat :=
  m.shifts.countP (Shift.endsOn inp)

/-- The switches of a mode that has been entered a number of times since. -/
def ModeSwitch.anew (n : Nat) (switches : List ModeSwitch) : List ModeSwitch :=
  if n = 0 then switches else switches.map fun k => { k with switch := k.switch.reset }

/-- A trigger that an input meets, once it has passed switches, enters a mode. -/
def EntersOn (switches : List ModeSwitch) (triggers : List Trigger) (inp : Input) : Prop :=
  ∃ out, (ModeSwitch.passAll switches inp).2.2 = .ok out ∧
    ∃ t ∈ triggers, t.condition.holds out = true ∧ ∃ id, t.action = .enterMode (some id)

variable {desk : Desk} {s s' : Studio}

theorem anew_anew (n : Nat) (switches : List ModeSwitch) :
    ModeSwitch.anew n (switches.map fun k => { k with switch := k.switch.reset })
      = ModeSwitch.anew (n + 1) switches := by
  unfold ModeSwitch.anew
  split
  · simp
  · simp [Switch.reset]

/-- **Shifts that an input turns off** enter the default mode once each. -/
theorem tryShifts_ends (desk : Desk) {id : String} {inp : Input} {ks : List Shift} (i : Nat) {mode : Mode}
    (hon : ∀ k ∈ ks, k.switch.on.holds inp = false) (hh : s.manager.home = some id)
    (hf : s.manager.find? id = some mode) :
    ∃ t fresh, tryShifts desk inp i ks s = .ok false t ∧
      t.entrances = s.entrances ++ List.replicate (ks.countP (Shift.endsOn inp)) id ∧
      t.manager.find? id = some fresh ∧
      fresh.switches = ModeSwitch.anew (ks.countP (Shift.endsOn inp)) mode.switches ∧
      fresh.triggers = mode.triggers := by
  induction ks generalizing i s mode with
  | nil => exact ⟨s, mode, rfl, by simp, hf, rfl, rfl⟩
  | cons k rest ih =>
      have hrest : ∀ k ∈ rest, k.switch.on.holds inp = false := fun k hk => hon k (List.mem_cons_of_mem _ hk)
      have hk : k.switch.on.holds inp = false := hon k List.mem_cons_self
      simp only [tryShifts]
      by_cases hoff : k.endsOn inp = true
      · -- the shift ends, and the rest meets the input in the default mode as it starts again
        have hchange : k.switch.change inp = .off := by
          rw [Shift.endsOn] at hoff
          simp [Switch.change, hk, hoff]
        have hback : restore inp s = .ok () (switchedTo id mode (some inp) s) :=
          (restore_eq inp hh).trans (switchTo_found hf)
        have he : (switchedTo id mode (some inp) s).entrances = s.entrances ++ [id] := List.filterMap_append
        obtain ⟨fresh, hfresh, hswitches, htriggers⟩ := find_enteredOf hf
        obtain ⟨t, last, ht, het, hlast, hsw, htr⟩ := ih (i + 1)
          (s := { switchedTo id mode (some inp) s with
            manager := (s.manager.enteredOf id).setShift i false })
          hrest ((home_enteredOf s.manager id).trans hh) hfresh
        refine ⟨t, last, ?_, ?_, hlast, ?_, htr.trans htriggers⟩
        · simp only [hchange]
          rw [bind_apply, hback]
          simp only [bind_apply, updateManager_apply]
          exact ht
        · rw [het, List.countP_cons_of_pos hoff, List.replicate_succ, List.append_cons, ← he]
          rfl
        · rw [hsw, hswitches, anew_anew, List.countP_cons_of_pos hoff]
      · rw [List.countP_cons_of_neg hoff]
        have hchange : k.switch.change inp = .none := by
          rw [Shift.endsOn] at hoff
          simp [Switch.change, hk, hoff]
        simp only [hchange]
        exact ih (i + 1) hrest hh hf

/-- **An input that comes to the default mode**: the input goes to it, once it has been entered anew for every
shift that ends. -/
theorem steer_ends (desk : Desk) {id : String} {inp : Input} {mode : Mode} (hh : s.manager.home = some id)
    (hc : s.manager.current = some id) (hf : s.manager.find? id = some mode)
    (hon : ∀ k ∈ s.manager.shifts, k.switch.on.holds inp = false) :
    ∃ t fresh, steer desk inp s = .ok (some id) t ∧
      t.entrances = s.entrances ++ List.replicate (s.manager.ends inp) id ∧
      t.manager.find? id = some fresh ∧
      fresh.switches = ModeSwitch.anew (s.manager.ends inp) mode.switches ∧ fresh.triggers = mode.triggers := by
  obtain ⟨t, fresh, ht, hrest⟩ := tryShifts_ends desk 0 hon hh hf
  refine ⟨t, fresh, ?_, hrest⟩
  unfold steer
  rw [bind_apply, get_apply]
  simp only [hc, hh, if_true, bind_apply, ht]
  rfl

/-- **How an input comes to the default mode**: `id` and `mode` are the default mode before the input, and
`switches` are its switches as the input finds them. The mode is entered once for every shift that ends, and then
its switches are off; unless a trigger enters a mode, no other mode is entered, and the switches latch on their own
conditions, all of them or those up to a modifier that fails. -/
structure ComesHome (desk : Desk) (inp : Input) (s : Studio) (id : String) (mode : Mode)
    (switches : List ModeSwitch) : Prop where
  home : s.manager.home = some id
  found : s.manager.find? id = some mode
  start : switches = ModeSwitch.anew (s.manager.ends inp) mode.switches
  entered : s.entrances ++ List.replicate (s.manager.ends inp) id <+: (after (handle desk inp) s).entrances
  only : ¬ EntersOn switches mode.triggers inp →
    (after (handle desk inp) s).entrances = s.entrances ++ List.replicate (s.manager.ends inp) id
  latched : ¬ EntersOn switches mode.triggers inp →
    ∃ last n, (after (handle desk inp) s).manager.find? id = some last ∧
      last.switches = (switches.take n).map (ModeSwitch.latch inp) ++ switches.drop n ∧
      ∀ s', handle desk inp s = .ok () s' → switches.length ≤ n

theorem exists_comesHome (hd : desk.Shows) (hr : Running s) (hhome : s.manager.current = s.manager.home)
    {inp : Input} (hon : ∀ k ∈ s.manager.shifts, k.switch.on.holds inp = false) :
    ∃ id mode switches, ComesHome desk inp s id mode switches := by
  obtain ⟨mode, hmode⟩ := Option.isSome_iff_exists.mp hr.wired.current
  obtain ⟨id, hid, hf⟩ := Option.bind_eq_some_iff.mp hmode
  have hnoted := handed_running inp hr
  obtain ⟨t, fresh, ht, he, hfresh, hswitches, htriggers⟩ := steer_ends desk (s := handed inp s)
    (hhome.symm.trans hid) hid hf hon
  have hrt : Running t := by
    rw [← after_ok ht]
    have hm : Moves desk (fun _ => True) (handed inp s) _ := steer_moves (fun _ => trivial) inp _
    exact moves_running hm hnoted
  have hpass : handle desk inp s = passMode desk id inp t := by rw [handle_apply, ht]
  rw [(handed_still inp s).entrances] at he
  have hends : (handed inp s).manager.ends inp = s.manager.ends inp := rfl
  rw [hends] at he hswitches
  -- unless a trigger enters a mode, the triggers leave the modes alone
  have hunmarked : ¬ EntersOn fresh.switches mode.triggers inp →
      Moves desk (fun _ => False) (latched id fresh inp t) (after (passMode desk id inp) t) := by
    intro hno
    refine passMode_latched hrt.wired.nodup hfresh fun out hout trigger htrigger hc id' ha => ?_
    exact hno ⟨out, hout, trigger, htriggers ▸ htrigger, hc, id', ha⟩
  refine ⟨id, mode, fresh.switches, hhome.symm.trans hid, hf, hswitches, ?_, fun hno => ?_, fun hno => ?_⟩
  · have hrow : Moves desk (fun _ => True) (latched id fresh inp t) (after (passMode desk id inp) t) :=
      passMode_latched hrt.wired.nodup hfresh fun _ _ _ _ _ _ _ => trivial
    obtain ⟨ids, hids, _⟩ := moves_entrances hd hrow
    rw [after_eq hpass, hids, ← he]
    exact List.prefix_append _ _
  · rw [after_eq hpass, (unmarked_keep hd (hunmarked hno)).2, ← he]
    rfl
  · obtain ⟨n, hlatched, _, hall⟩ := passAll_latches (hrt.switches fresh (find_mem hfresh)) inp
    refine ⟨{ fresh with switches := (ModeSwitch.passAll fresh.switches inp).1 }, n, ?_, hlatched,
      fun s' hs' => ?_⟩
    · rw [after_eq hpass]
      unfold Manager.find?
      rw [(unmarked_keep hd (hunmarked hno)).1]
      exact find_latched inp hfresh
    · -- only a modifier that fails keeps switches from seeing the input
      have hp := passMode_found desk inp hfresh
      cases ho : (ModeSwitch.passAll fresh.switches inp).2.2 with
      | ok out => exact hall out ho
      | error fault =>
          rw [ho] at hp
          exact absurd (hp.symm.trans (hpass.symm.trans hs')) (by simp)

/-- **Inputs that come to the default mode.** In every run of the program, while the default mode is current, an
input that turns no shift on comes to the default mode. -/
theorem home_input (hd : desk.Shows) {cfg : Config} {start s : Studio} (hb : Studio.build cfg start = .ok s)
    (hpool : start.pool = []) (es : List Event)
    (hhome : (run desk es s).manager.current = (run desk es s).manager.home) {inp : Input}
    (hon : ∀ k ∈ (run desk es s).manager.shifts, k.switch.on.holds inp = false) :
    ∃ id mode switches, ComesHome desk inp (run desk es s) id mode switches :=
  exists_comesHome hd (run_running es (build_running hb hpool)) hhome hon

/-- Two buttons that lead to another mode, and one that holds a button of the pointer. -/
def twoWays : Config :=
  { modes := [
      { declaration := .str "[idle] -id a"
        rules := [.str "[switch] button -id ZR -> [mode] -id b", .str "[switch] button -id R -> [mode] -id b",
          .str "[switch] button -id Y -> [mouse_toggle]"] },
      { declaration := .str "[idle] -id b" }] }

/-- The first way is taken, the second button goes down too, the first way ends, and the third button goes
down. -/
def backEarly : List Event :=
  [.input (.press .zr []), .input (.press .r [.zr]), .input (.release .zr [.r]), .input (.press .y [.r])]

/-- Whether the switches of the current mode are on. -/
def Studio.latches (s : Studio) : List Bool :=
  s.manager.currentMode?.toList.flatMap fun mode => mode.switches.map (·.switch.isOn)

/-- Whether they are on after an input, by what their own conditions say. -/
def Studio.latchesOn (inp : Input) (s : Studio) : List Bool :=
  s.manager.currentMode?.toList.flatMap fun mode => mode.switches.map fun k => (k.latch inp).switch.isOn

/-- The late release of the second button meets no switch of the default mode, but enters it and turns off what
is held there. -/
theorem twoWays_ends : ∃ s, Studio.build twoWays {} = .ok s ∧
    ((run .quiet backEarly s).manager.current = (run .quiet backEarly s).manager.home ∧
      (∀ k ∈ (run .quiet backEarly s).manager.shifts, k.switch.on.holds (.release .r [.y]) = false)) ∧
    (run .quiet backEarly s).manager.actions.isEmpty ∧
    (run .quiet backEarly s).latchesOn (.release .r [.y]) = [true] ∧
    (after (handle .quiet (.release .r [.y])) (run .quiet backEarly s)).latches = [false] ∧
    (after (handle .quiet (.release .r [.y])) (run .quiet backEarly s)).entrances
      = (run .quiet backEarly s).entrances ++ ["a"] := by
  have h : (Studio.build twoWays {}).toOption.any (fun s =>
      decide (((run .quiet backEarly s).manager.current = (run .quiet backEarly s).manager.home ∧
          (∀ k ∈ (run .quiet backEarly s).manager.shifts, k.switch.on.holds (.release .r [.y]) = false)) ∧
        (run .quiet backEarly s).manager.actions.isEmpty ∧
        (run .quiet backEarly s).latchesOn (.release .r [.y]) = [true] ∧
        (after (handle .quiet (.release .r [.y])) (run .quiet backEarly s)).latches = [false] ∧
        (after (handle .quiet (.release .r [.y])) (run .quiet backEarly s)).entrances
          = (run .quiet backEarly s).entrances ++ ["a"])) = true := by decide +kernel
  obtain ⟨s, hs, ht⟩ := exists_built h
  exact ⟨s, hs, of_decide_eq_true ht⟩

theorem home_input_twoWays : ∃ s, Studio.build twoWays {} = .ok s ∧ Desk.quiet.Shows ∧
    (run .quiet backEarly s).manager.current = (run .quiet backEarly s).manager.home ∧
    (∀ k ∈ (run .quiet backEarly s).manager.shifts, k.switch.on.holds (.release .r [.y]) = false) ∧
    ∃ id mode switches, ComesHome .quiet (.release .r [.y]) (run .quiet backEarly s) id mode switches := by
  obtain ⟨s, hb, ⟨hhome, hon⟩, _⟩ := twoWays_ends
  exact ⟨s, hb, plain_shows _, hhome, hon, home_input (plain_shows _) hb rfl backEarly hhome hon⟩

/-- **The default mode may be entered anew**: it is not so, even where no trigger enters a mode, that an input
which comes to the default mode and turns no shift on enters no mode, nor that it leaves the latches of the default
mode as their own conditions say. -/
theorem home_entered_anew : ¬ ∀ (desk : Desk) (cfg : Config) (start s : Studio), desk.Shows →
    Studio.build cfg start = .ok s → start.pool = [] → ∀ (es : List Event) (inp : Input),
      (run desk es s).manager.current = (run desk es s).manager.home →
      (∀ k ∈ (run desk es s).manager.shifts, k.switch.on.holds inp = false) →
      (∀ a ∈ (run desk es s).manager.actions, ∀ id, a ≠ .enterMode id) →
        (after (handle desk inp) (run desk es s)).entrances = (run desk es s).entrances ∨
        (after (handle desk inp) (run desk es s)).latches = (run desk es s).latchesOn inp := by
  intro h
  obtain ⟨s, hb, ⟨hhome, hon⟩, hnone, hlatch, hreset, he⟩ := twoWays_ends
  have hacts : ∀ a ∈ (run .quiet backEarly s).manager.actions, ∀ id, a ≠ .enterMode id := by
    rw [List.isEmpty_iff.mp hnone]
    simp
  rcases h .quiet twoWays {} s (plain_shows _) hb rfl backEarly _ hhome hon hacts with hsame | hsame
  · rw [he] at hsame
    simp at hsame
  · rw [hreset, hlatch] at hsame
    exact absurd hsame (by decide)

end PadScribe
