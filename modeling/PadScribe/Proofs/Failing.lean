import PadScribe.Proofs.Rejecting
import PadScribe.Proofs.Replaying
import PadScribe.Proofs.Steering

/-!
# `Proofs.Failing` — inputs whose dispatch fails

An input goes to the shifts, or back to the default mode, or to the current mode: through its switches and then
to its triggers. A failure anywhere ends the dispatch there. This file says of the modes alone which inputs
fail: those that a shift without a mode takes, those that do not come through the modifiers that are on, and
those that a trigger cannot deal with once they have. At a desk that works nothing else fails.

## Contents

* `ModeSwitch.Blocks`, `passAll_ok_iff` — an input on its way through switches
* `runTriggers_ok_iff`, `FailsIn`, `passMode_ok_iff` — an input in a mode
* `Manager.Obstructs`, `handle_ok_iff` — an input
* **`input_ends_well`** — any input after any run, and **`input_fails`** — one that fails
-/

namespace PadScribe

variable {desk : Desk} {s s' : Studio}

/-! ## Modes -/

/-- A row of switches on which an input does not come through: a modifier that is on, once the input has turned
its switch, fails on what the switches before it made of the input. -/
inductive ModeSwitch.Blocks : List ModeSwitch → Input → Prop where
  | here {k : ModeSwitch} {m : Modifier} {inp : Input} (rest : List ModeSwitch) (hold : k.hold = .modify m)
      (on : (k.switch.step inp).isOn = true) (rejects : m.Rejects inp) : Blocks (k :: rest) inp
  | later {k : ModeSwitch} {rest : List ModeSwitch} {inp out : Input}
      (passed : { k with switch := k.switch.step inp }.modify inp = .ok out) (blocks : Blocks rest out) :
      Blocks (k :: rest) inp

/-- A switch passes an input on unless it is on and its modifier fails. -/
theorem modify_ok_iff (k : ModeSwitch) (inp : Input) :
    (∃ out, k.modify inp = .ok out) ↔ ∀ m, k.hold = .modify m → k.switch.isOn = true → ¬ m.Rejects inp := by
  unfold ModeSwitch.modify
  cases hold : k.hold with
  | modify m =>
    cases hon : k.switch.isOn with
    | true => simpa using m.apply_ok_iff inp
    | false => simp
  | _ => simp

/-- **An input comes through a row of switches** unless one of them blocks it. -/
theorem passAll_ok_iff (switches : List ModeSwitch) (inp : Input) :
    (∃ out, (ModeSwitch.passAll switches inp).2.2 = .ok out) ↔ ¬ ModeSwitch.Blocks switches inp := by
  induction switches generalizing inp with
  | nil => exact ⟨fun _ h => (nomatch h), fun _ => ⟨inp, rfl⟩⟩
  | cons k rest ih =>
    have hk := modify_ok_iff { k with switch := k.switch.step inp } inp
    unfold ModeSwitch.passAll
    dsimp only
    cases hmodify : { k with switch := k.switch.step inp }.modify inp with
    | error fault =>
      rw [hmodify] at hk
      have hfails : ModeSwitch.Blocks (k :: rest) inp := by
        by_contra hno
        obtain ⟨out, hout⟩ := hk.mpr fun m hold on hrejects => hno (.here rest hold on hrejects)
        cases hout
      simp [hfails]
    | ok changed =>
      rw [hmodify] at hk
      have hpass : ModeSwitch.Blocks (k :: rest) inp ↔ ModeSwitch.Blocks rest changed := by
        constructor
        · intro h
          cases h with
          | here _ hold on hrejects => exact absurd hrejects (hk.mp ⟨changed, rfl⟩ _ hold on)
          | later passed blocks =>
            cases hmodify.symm.trans passed
            exact blocks
        · exact .later hmodify
      rw [hpass]
      exact ih changed

/-- A row of two steps ends well when both do, where what the second needs is the same in every state. -/
theorem bind_ok_iff {x : Step Unit} {f : Unit → Step Unit} {p : Prop}
    (hf : ∀ t, (∃ u, f () t = .ok () u) ↔ p) :
    (∃ u, (x >>= f) s = .ok () u) ↔ (∃ t, x s = .ok () t) ∧ p := by
  rw [bind_apply]
  cases hx : x s with
  | error e t => simp
  | ok _ t => simpa using hf t

/-- **Triggers end well** unless one that the input meets fails on it. -/
theorem runTriggers_ok_iff (hd : desk.Works) (inp : Input) (ts : List Trigger) (s : Studio) :
    (∃ t, runTriggers desk inp ts s = .ok () t) ↔
      ¬ ∃ t ∈ ts, t.condition.holds inp = true ∧ t.action.Rejects inp := by
  induction ts generalizing s with
  | nil => simp [runTriggers]
  | cons t rest ih =>
    simp only [List.exists_mem_cons_iff, not_or]
    rw [runTriggers_cons]
    by_cases hc : t.condition.holds inp = true
    · rw [if_pos hc, bind_ok_iff ih, t.action.run_ok_iff hd inp s]
      simp [hc]
    · rw [if_neg hc, ih]
      simp [hc]

/-- Whether an input fails in a mode: a switch blocks it, or a trigger that it meets once it has come through the
switches fails on it. -/
def FailsIn (switches : List ModeSwitch) (triggers : List Trigger) (inp : Input) : Prop :=
  ModeSwitch.Blocks switches inp ∨
    ∃ out, (ModeSwitch.passAll switches inp).2.2 = .ok out ∧
      ∃ t ∈ triggers, t.condition.holds out = true ∧ t.action.Rejects out

/-- **An input in a mode** ends well unless it fails there. -/
theorem passMode_ok_iff (hd : desk.Works) {id : String} {mode : Mode} (inp : Input)
    (h : s.manager.find? id = some mode) :
    (∃ t, passMode desk id inp s = .ok () t) ↔ ¬ FailsIn mode.switches mode.triggers inp := by
  have hpass := passAll_ok_iff mode.switches inp
  unfold FailsIn
  rw [passMode_found desk inp h]
  cases hout : (ModeSwitch.passAll mode.switches inp).2.2 with
  | error fault =>
    rw [hout] at hpass
    have hblocks : ModeSwitch.Blocks mode.switches inp := by
      by_contra hno
      obtain ⟨out, h⟩ := hpass.mpr hno
      cases h
    simp [hblocks]
  | ok out =>
    rw [hout] at hpass
    have hblocks : ¬ ModeSwitch.Blocks mode.switches inp := hpass.mp ⟨out, rfl⟩
    dsimp only
    rw [runTriggers_ok_iff hd]
    simp [hblocks]

/-! ## Inputs -/

/-- **The inputs that fail.** In the default mode the first shift that the input turns on takes it, and fails if
its mode was left empty. What no shift takes, and what does not lead back from another mode, fails in the current
mode, whose switches are off there if a shift ended on the input. -/
def Manager.Obstructs (m : Manager) (inp : Input) : Prop :=
  ∃ id mode, m.current = some id ∧ m.find? id = some mode ∧
    if m.home = some id then
      match m.shifts.find? (·.switch.on.holds inp) with
      | some k => k.target = none
      | none => FailsIn (ModeSwitch.anew (m.ends inp) mode.switches) mode.triggers inp
    else
      (∀ c, m.exit = some c → c.holds inp = false) ∧ FailsIn mode.switches mode.triggers inp

/-- Whether an input fails, in terms of the current mode. -/
theorem obstructs_iff {m : Manager} {id : String} {mode : Mode} {inp : Input} (hc : m.current = some id)
    (hm : m.find? id = some mode) :
    m.Obstructs inp ↔
      if m.home = some id then
        match m.shifts.find? (·.switch.on.holds inp) with
        | some k => k.target = none
        | none => FailsIn (ModeSwitch.anew (m.ends inp) mode.switches) mode.triggers inp
      else
        (∀ c, m.exit = some c → c.holds inp = false) ∧ FailsIn mode.switches mode.triggers inp := by
  unfold Manager.Obstructs
  simp only [hc, Option.some.injEq, exists_and_left, exists_eq_left', hm]

/-- An input in the default mode. -/
theorem handle_ok_home (hd : desk.Works) (hb : s.manager.Sound) {id : String} (hhome : s.manager.home = some id)
    (hc : s.manager.current = some id) (inp : Input) :
    (∃ t, handle desk inp s = .ok () t) ↔ ¬ s.manager.Obstructs inp := by
  obtain ⟨mode, hmode⟩ := exists_homeMode hb hhome
  have hsound : (handed inp s).manager.Sound := hb
  rw [obstructs_iff hc hmode, if_pos hhome, handle_apply]
  cases hk : s.manager.shifts.find? (·.switch.on.holds inp) with
  | some k =>
    cases ht : k.target with
    | none =>
      obtain ⟨fault, t, hsteer, -⟩ := steer_nowhere desk hsound hhome hc hk ht
      rw [hsteer]
      simp [ht]
    | some target =>
      obtain ⟨t, hsteer, -⟩ := steer_led desk hsound hhome hc hk ht
      rw [hsteer]
      simp [ht]
  | none =>
    have hon : ∀ k ∈ s.manager.shifts, k.switch.on.holds inp = false := by
      intro k hmem
      simpa using List.find?_eq_none.mp hk k hmem
    obtain ⟨t, fresh, hsteer, -, hfresh, hswitches, htriggers⟩ :=
      steer_ends desk (s := handed inp s) hhome hc hmode hon
    rw [hsteer]
    dsimp only
    rw [passMode_ok_iff hd inp hfresh, hswitches, htriggers]
    rfl

/-- An input in another mode. -/
theorem handle_ok_away (hd : desk.Works) (hb : s.manager.Sound) {id : String} {mode : Mode}
    (hhome : s.manager.home ≠ some id) (hc : s.manager.current = some id)
    (hmode : s.manager.find? id = some mode) (inp : Input) :
    (∃ t, handle desk inp s = .ok () t) ↔ ¬ s.manager.Obstructs inp := by
  have hsound : (handed inp s).manager.Sound := hb
  rw [obstructs_iff hc hmode, if_neg hhome, handle_apply]
  by_cases hback : ∃ c, s.manager.exit = some c ∧ c.holds inp = true
  · obtain ⟨c, hx, hholds⟩ := hback
    obtain ⟨t, hsteer, -⟩ := steer_back desk hsound hc hhome hx hholds
    rw [hsteer]
    refine ⟨fun _ h => ?_, fun _ => ⟨t, rfl⟩⟩
    simp [h.1 c hx] at hholds
  · have hstays : ∀ c, s.manager.exit = some c → c.holds inp = false := by
      intro c hx
      by_contra hholds
      exact hback ⟨c, hx, by simpa using hholds⟩
    rw [steer_stays desk (s := handed inp s) hc hhome hstays, and_iff_right hstays]
    exact passMode_ok_iff (s := handed inp s) hd inp hmode

/-- **At a desk that works, an input ends well** unless it is one that fails. -/
theorem handle_ok_iff (hd : desk.Works) (hb : s.manager.Sound) (hw : Wired s) (inp : Input) :
    (∃ t, handle desk inp s = .ok () t) ↔ ¬ s.manager.Obstructs inp := by
  obtain ⟨mode, hcurrent⟩ := Option.isSome_iff_exists.mp hw.current
  obtain ⟨id, hc, hmode⟩ := Option.bind_eq_some_iff.mp hcurrent
  by_cases hhome : s.manager.home = some id
  · exact handle_ok_home hd hb hhome hc inp
  · exact handle_ok_away hd hb hhome hc hmode inp

/-! ## Rows of inputs -/

/-- Whether or not an input ends well, the modes stay wired and sound. -/
theorem handle_keeps (inp : Input) (h : Wired s ∧ s.manager.Sound) :
    Wired (after (handle desk inp) s) ∧ (after (handle desk inp) s).manager.Sound := by
  have hwalk : Walk desk (fun _ => True) s [inp] (after (handle desk inp) s) := handle_walk inp h.1
  exact ⟨walk_wired hwalk h.1, sound_of_setup (walk_setup hwalk) h.2⟩

/-- **Which inputs fail.** Whatever a program that was built went through, and whatever inputs were handed to its
modes after that, the next input ends well exactly when it is not one that fails in the modes as they are then. -/
theorem input_ends_well {cfg : Config} {start : Studio} (hb : Studio.build cfg start = .ok s) (hd : desk.Works)
    (es : List Event) (before : List Input) (inp : Input) :
    let t := afterAll (handle desk) before (run desk es s)
    (∃ u, handle desk inp t = .ok () u) ↔ ¬ t.manager.Obstructs inp := by
  intro t
  have hrun : Wired (run desk es s) ∧ (run desk es s).manager.Sound :=
    ⟨run_wired es (build_wired hb), run_sound es (build_wired hb) (build_sound hb)⟩
  obtain ⟨hw, hs⟩ : Wired t ∧ t.manager.Sound :=
    afterAll_keep (P := fun u => Wired u ∧ u.manager.Sound) (fun inp _ => handle_keeps inp) before hrun
  exact handle_ok_iff hd hs hw inp

/-- A program whose pointer follows the motion samples at a speed that is close to the largest double. -/
def racer : Config :=
  { modes := [{ declaration := .str "[idle] -id a", rules := [.str "[trigger] gyro -> [cursor] -speed 1e308"] }] }

/-- A motion sample that turns by `yaw`. -/
def turned (yaw : Int) : Input :=
  { kind := .gyro, gyro := some { yaw } }

theorem input_ends_well_racer : ∃ s, Studio.build racer {} = .ok s ∧ Desk.quiet.Works ∧
    let t := afterAll (handle .quiet) [turned 1] (run .quiet [.input (turned 1000)] s)
    ((∃ u, handle .quiet (turned 1000) t = .ok () u) ↔ ¬ t.manager.Obstructs (turned 1000)) := by
  have h : (Studio.build racer {}).toOption.any (fun _ => true) = true := by decide +kernel
  obtain ⟨s, hb, -⟩ := exists_built h
  exact ⟨s, hb, plain_works _, input_ends_well hb (plain_works _) _ _ _⟩

/-- **An input may fail**: it is not so that every input of a program that was built ends well at a desk that
works. The product of the sample and the speed is infinite and has no whole number. -/
theorem input_fails : ¬ ∀ (desk : Desk) (cfg : Config) (start s : Studio), Studio.build cfg start = .ok s →
    desk.Works → ∀ (before : List Input) (inp : Input),
      ∃ u, handle desk inp (afterAll (handle desk) before s) = .ok () u := by
  intro hall
  have h : (Studio.build racer {}).toOption.any (fun s =>
      ((handle .quiet (turned 1000)).run' s).isNone) = true := by decide +kernel
  obtain ⟨s, hb, hfails⟩ := exists_built h
  obtain ⟨u, hu⟩ := hall .quiet racer {} s hb (plain_works _) [] (turned 1000)
  obtain ⟨fault, herror⟩ := exists_error (Option.isNone_iff_eq_none.mp hfails)
  cases herror.symm.trans hu

end PadScribe
