import Mathlib.Data.List.Nodup
import PadScribe.Proofs.Grips
import PadScribe.Proofs.Run
import PadScribe.Proofs.Setup

/-!
# `Proofs.Handling` — one equation for each step on the way of an input

An input is noted, steered and passed to a mode, whose switches see it before its triggers run. This file says what
each of these steps does to the state, one equation a step, so that no later proof opens the program: the state
once a mode is entered (`switchedTo`), once the switches of a mode have seen an input (`latched`), once a text is
compiled (`heardBy`). The same for the heads of the queues.

## Contents

* `Task.input?`, `Effect.input?`, `Input.said?` — inputs in tasks and milestones, and the text of an input
* `Task.IsPlain`, `Task.isChore`, `Task.Turns`, `Effect.isNote` — kinds of tasks and milestones
* `Manager.enteredOf`, `find_enteredOf` — a mode that is entered
* `switchedTo`, `switchTo_eq`, `restore_eq` — changing the mode
* `heardBy`, `utter_apply`, `action_frame` — actions of triggers
* `latched`, `passMode_eq` — an input in a mode
* `steer`, `passOn`, `handle_eq` — one input
* `runHead_pool`, `runHead_speech` — the heads of the queues
-/

namespace PadScribe

/-! ## Kinds of tasks and milestones -/

/-- The input that a piece of work hands to the modes. -/
def Task.input? : Task → Option Input
  | deliver inp => some inp
  | replay text => some (.spoken text)
  | _ => none

/-- The input that the modes are handed at a milestone. -/
def Effect.input? : Effect → Option Input
  | delivered inp => some inp
  | _ => none

/-- The text that an input speaks. -/
def Input.said? (inp : Input) : Option String :=
  match inp.kind, inp.speech with
  | .speech, some u => u.text
  | _, _ => none

/-- Work that hands on no input and does not touch the buttons of the pointer. -/
def Task.IsPlain (t : Task) : Prop :=
  t.input? = none ∧ t.grip? = none

/-- A milestone at which no input is handed on, no mode is entered and no button of the pointer is touched. -/
def Effect.IsPlain (e : Effect) : Prop :=
  e.input? = none ∧ e.entered? = none ∧ e.grip? = none

/-- Work that hands on no input and switches nothing on or off. -/
def Task.isChore : Task → Bool
  | move .. => true
  | notify .. => true
  | alert .. => true
  | flush .. => true
  | _ => false

/-- Work that turns a motion stream or a pointer button on or off. -/
def Task.Turns : Task → Prop
  | gyro .. | toggle .. => True
  | _ => False

/-- The speech line that a piece of work is about. -/
def Task.line? : Task → Option SpeechLine
  | connect _ line => some line
  | flush _ line => some line
  | _ => none

/-- Milestones at which something is asked of a recognizer, a program or a device is dealt with, or something is
passed over. -/
def Effect.isNote : Effect → Bool
  | recognizer .. => true
  | disconnect => true
  | sleep _ => true
  | shell _ => true
  | spokenError _ => true
  | taskFailed _ => true
  | _ => false

variable {desk : Desk} {s s' : Studio}

/-- A chore hands on no input and touches no button of the pointer. -/
theorem chore_plain {t : Task} (h : t.isChore = true) : t.IsPlain := by
  cases t with
  | move | notify | alert | flush => exact ⟨rfl, rfl⟩
  | _ => exact absurd h (by simp [Task.isChore])

theorem note_plain {e : Effect} (h : e.isNote = true) : e.IsPlain := by
  cases e with
  | recognizer | disconnect | sleep | shell | spokenError | taskFailed => exact ⟨rfl, rfl, rfl⟩
  | _ => exact absurd h (by simp [Effect.isNote])

/-! ## Entering a mode -/

/-- The manager once a mode has been entered. -/
def Manager.enteredOf (m : Manager) (id : String) : Manager :=
  { m.leftCurrent.update id Mode.entered with current := some id }

theorem setup_enteredOf (m : Manager) (id : String) : (m.enteredOf id).setup = m.setup := by
  have hu : (m.leftCurrent.update id Mode.entered).setup = m.leftCurrent.setup :=
    setup_update m.leftCurrent fun x _ _ => rest_entered x
  exact hu.trans (setup_leftCurrent m)

theorem exit_enteredOf (m : Manager) (id : String) : (m.enteredOf id).exit = m.exit := by
  unfold Manager.enteredOf Manager.leftCurrent
  cases m.current <;> rfl

theorem home_enteredOf (m : Manager) (id : String) : (m.enteredOf id).home = m.home := by
  have hs := congrArg Manager.home (setup_enteredOf m id)
  exact hs

/-- Changing a mode changes what is found under its id. -/
theorem find_update (m : Manager) (changed id : String) {f : Mode → Mode} (hf : ∀ x, (f x).id = x.id) :
    (m.update changed f).find? id = (m.find? id).map fun x => if x.id = changed then f x else x := by
  have hid : ∀ x : Mode, (if x.id = changed then f x else x).id = x.id := by
    intro x
    split
    · exact hf x
    · rfl
  simp only [Manager.find?, Manager.update, List.find?_map, Function.comp_def, hid]

/-- Leaving the current mode leaves the switches of every mode as they are. -/
theorem find_leftCurrent {m : Manager} {id : String} {mode : Mode} (h : m.find? id = some mode) :
    m.leftCurrent.find? id = some mode ∨ m.leftCurrent.find? id = some mode.left := by
  unfold Manager.leftCurrent
  cases m.current with
  | none => exact .inl h
  | some current =>
      have hu := find_update m current id (f := Mode.left) fun _ => rfl
      rw [hu, h, Option.map_some]
      split
      · exact .inr rfl
      · exact .inl rfl

/-- **A mode that is entered** has every switch off and triggers as before. -/
theorem find_enteredOf {m : Manager} {id : String} {mode : Mode} (h : m.find? id = some mode) :
    ∃ fresh, (m.enteredOf id).find? id = some fresh ∧
      fresh.switches = mode.switches.map (fun k => { k with switch := k.switch.reset }) ∧
      fresh.triggers = mode.triggers := by
  have hentered : ∀ x, m.leftCurrent.find? id = some x → (m.enteredOf id).find? id = some x.entered := by
    intro x hx
    have hu := find_update m.leftCurrent id id (f := Mode.entered) fun _ => rfl
    rw [hx, Option.map_some, if_pos (find_id hx)] at hu
    exact hu
  rcases find_leftCurrent h with hl | hl
  · exact ⟨_, hentered mode hl, rfl, rfl⟩
  · exact ⟨_, hentered mode.left hl, rfl, rfl⟩

theorem gyroTasks_plain {inp : Option Input} {on : Bool} : ∀ t ∈ Mode.gyroTasks inp on, t.IsPlain := by
  intro t ht
  unfold Mode.gyroTasks at ht
  split at ht
  · rw [List.mem_singleton.mp ht]; exact ⟨rfl, rfl⟩
  · exact absurd ht (by simp)

theorem exitTasks_plain {m : Manager} {inp : Option Input} : ∀ t ∈ m.exitTasks inp, t.IsPlain := by
  intro t ht
  unfold Manager.exitTasks at ht
  split at ht
  · exact absurd ht (by simp)
  · unfold Mode.exitTasks at ht
    split at ht
    · exact absurd ht (by simp)
    · exact gyroTasks_plain t ht
    · split at ht
      · rw [List.mem_singleton.mp ht]; exact ⟨rfl, rfl⟩
      · exact absurd ht (by simp)

theorem enterTasks_plain {m : Mode} {inp : Option Input} : ∀ t ∈ m.enterTasks inp, t.IsPlain := by
  intro t ht
  unfold Mode.enterTasks at ht
  split at ht
  · exact absurd ht (by simp)
  · exact gyroTasks_plain t ht
  · split at ht
    · rw [List.mem_singleton.mp ht]; exact ⟨rfl, rfl⟩
    · exact absurd ht (by simp)

/-- The work of changing the mode hands on no input. -/
theorem switchWork_quiet {m : Manager} {mode : Mode} {given : Option Input} {t : Task}
    (h : t ∈ m.exitTasks given ++ mode.enterTasks given) : t.input? = none := by
  rcases List.mem_append.mp h with h | h
  · exact (exitTasks_plain t h).1
  · exact (enterTasks_plain t h).1

/-! ## Changing the mode -/

/-- The hooks that are run when a mode is entered: the current mode is left first. -/
def Studio.switchHooks (s : Studio) (id : String) : List Hook :=
  s.manager.current.toList.map (.exit s.retired.length) ++ [.enter s.retired.length id]

/-- The studio once a mode has been entered. -/
def switchedTo (id : String) (mode : Mode) (inp : Option Input) (s : Studio) : Studio :=
  { s with
    manager := s.manager.enteredOf id
    control := { s.control with modeId := id }
    pool := s.pool ++ (s.manager.exitTasks inp ++ mode.enterTasks inp)
    hooks := s.hooks ++ s.switchHooks id
    record := s.record ++ [.switched s.manager.current id] }

/-- Switching to a mode that is not installed changes nothing. -/
theorem switchTo_unknown {id : String} {inp : Option Input} (h : s.manager.find? id = none) :
    switchTo id inp s = .error (.mode (.unknown id)) s := by
  unfold switchTo
  rw [bind_apply, get_apply]
  simp only [h, throw_apply]

/-- **Switching to a mode that is installed** makes it the current one, and cannot fail. -/
theorem switchTo_found {id : String} {inp : Option Input} {mode : Mode} (h : s.manager.find? id = some mode) :
    switchTo id inp s = .ok () (switchedTo id mode inp s) := by
  unfold switchTo leaveCurrent enterFound
  rw [bind_apply, get_apply]
  simp only [h, bind_apply, get_apply, submitAll_apply, updateManager_apply, modify_apply, emit_apply,
    List.append_assoc]
  rfl

/-- Switching looks the mode up and enters it. -/
theorem switchTo_eq (id : String) (inp : Option Input) :
    switchTo id inp = (do
      match (← get).manager.find? id with
      | none => throw (.mode (.unknown id))
      | some mode => modify (switchedTo id mode inp)) := by
  funext s
  rw [bind_apply, get_apply]
  cases h : s.manager.find? id with
  | none => simp only [h, switchTo_unknown h, throw_apply]
  | some mode => simp only [h, switchTo_found h, modify_apply]

/-- Going back to the default mode is switching to it. -/
theorem restore_eq {id : String} (inp : Input) (h : s.manager.home = some id) :
    restore inp s = switchTo id (some inp) s := by
  unfold restore
  rw [bind_apply, get_apply]
  simp only [h]

/-- **Entering the default mode** makes it the current one. -/
theorem restore_home {inp : Input} {id : String} {u : Unit} (hh : s.manager.home = some id)
    (h : restore inp s = .ok u s') : s'.manager.home = some id ∧ s'.manager.current = some id := by
  rw [restore_eq inp hh] at h
  cases hf : s.manager.find? id with
  | none =>
      rw [switchTo_unknown hf] at h
      exact absurd h (by simp)
  | some mode =>
      rw [switchTo_found hf] at h
      obtain ⟨_, rfl⟩ := EStateM.Result.ok.inj h
      exact ⟨(home_enteredOf s.manager id).trans hh, rfl⟩

/-! ## Actions of triggers -/

/-- What compiling leaves behind before it fails or answers. -/
def heardBy (v : Vocabulary) (text : String) (s : Studio) : Studio :=
  { s with
    lastSpeech := (v.compile s.lastSpeech text).2
    record := s.record ++ (v.compile s.lastSpeech text).1.dropped.map .spokenError }

theorem utter_apply (v : Vocabulary) (text : String) (s : Studio) :
    utter v text s = match (v.compile s.lastSpeech text).1.fault with
      | some fault => .error fault (heardBy v text s)
      | none => .ok ()
          { heardBy v text s with speech := s.speech ++ [(v.compile s.lastSpeech text).1.commands] } := by
  unfold utter compileSpeech
  simp only [bind_apply, get_apply, modify_apply]
  cases h : (v.compile s.lastSpeech text).1.fault <;> simp [heardBy]

/-- A trigger whose condition holds of an utterance hears a text. -/
theorem holds_said {c : Condition} {inp : Input} {text : String} (hc : c.holds inp = true)
    (hs : inp.said? = some text) : text ≠ "" := by
  unfold Input.said? at hs
  split at hs
  · rename_i u hk hu
    obtain ⟨said⟩ := u
    cases c with
    | speech => simpa [Condition.holds, hk, hu, show said = some text from hs] using hc
    | _ => simp [Condition.holds, hk] at hc
  · exact absurd hs (by simp)

/-- **What an action leaves alone**: one that neither enters a mode nor compiles what was heard only puts off
work and adds to the record. -/
theorem action_frame {a : Action} (hm : ∀ id, a ≠ .enterMode id) (hv : ∀ v, a ≠ .speech v) (inp : Input)
    (s : Studio) : ∃ ts es, after (a.run desk inp) s
      = { s with pool := s.pool ++ ts, record := s.record ++ es } := by
  have hnone : ∃ ts es, s = { s with pool := s.pool ++ ts, record := s.record ++ es } := ⟨[], [], by simp⟩
  have hsubmit : ∀ t, ∃ ts es, after (submit t) s = { s with pool := s.pool ++ ts, record := s.record ++ es } :=
    fun t => ⟨[t], [], by simp⟩
  have hrespond : ∀ r, ∃ ts es, after (respond r) s
      = { s with pool := s.pool ++ ts, record := s.record ++ es } :=
    fun r => ⟨[], r.effects, by simp [after_respond]⟩
  cases a with
  | moveCursor speed =>
      simp only [Action.run]
      cases hmove : pointerMove? speed inp with
      | error fault => exact hnone
      | ok move =>
          cases move with
          | none => exact hnone
          | some d => exact hsubmit _
  | click button double => exact hrespond _
  | enterMode id => exact absurd rfl (hm id)
  | notify title text icon =>
      simp only [Action.run]
      split <;> exact hsubmit _
  | speak text => exact hsubmit _
  | hotkey keys =>
      simp only [Action.run, tapKeys]
      split
      · exact hnone
      · exact hrespond _
  | speech v => exact absurd rfl (hv v)
  | flush =>
      simp only [Action.run]
      rw [after_bind_ok (get_apply s)]
      split
      · exact hsubmit _
      · exact hnone
  | replay =>
      simp only [Action.run]
      rw [after_bind_ok (get_apply s)]
      split
      · exact hnone
      · exact hsubmit _

/-! ## An input in a mode -/

/-- The work of a switch turns something on or off. -/
theorem tasks_turn {k : ModeSwitch} {inp : Input} : ∀ t ∈ k.tasks inp, t.Turns := by
  have hgyro : ∀ on, ∀ t ∈ Mode.gyroTasks (some inp) on, t.Turns := by
    intro on t ht
    unfold Mode.gyroTasks at ht
    split at ht
    · rw [List.mem_singleton.mp ht]
      trivial
    · exact absurd ht (by simp)
  intro t ht
  unfold ModeSwitch.tasks at ht
  cases hk : k.hold with
  | modify m => cases hc : k.switch.change inp <;> simp [hc, hk] at ht
  | gyro =>
      cases hc : k.switch.change inp <;> simp only [hc, hk] at ht
      · exact hgyro _ t ht
      · exact hgyro _ t ht
      · exact absurd ht (by simp)
  | pointer button =>
      cases hc : k.switch.change inp <;> simp only [hc, hk] at ht
      · rw [List.mem_singleton.mp ht]; trivial
      · rw [List.mem_singleton.mp ht]; trivial
      · exact absurd ht (by simp)

theorem passAll_turn (switches : List ModeSwitch) (inp : Input) :
    ∀ t ∈ (ModeSwitch.passAll switches inp).2.1, t.Turns := by
  induction switches generalizing inp with
  | nil => intro t ht; exact absurd ht (by simp [ModeSwitch.passAll])
  | cons k rest ih =>
      intro t ht
      simp only [ModeSwitch.passAll] at ht
      split at ht
      · exact tasks_turn t ht
      · rcases List.mem_append.mp ht with hk | hr
        · exact tasks_turn t hk
        · exact ih _ t hr

/-- The work of switches hands on no input. -/
theorem passAll_quiet (switches : List ModeSwitch) (inp : Input) :
    ∀ t ∈ (ModeSwitch.passAll switches inp).2.1, t.input? = none := by
  intro t ht
  have hturns := passAll_turn switches inp t ht
  cases t with
  | gyro | toggle => rfl
  | _ => exact hturns.elim

/-- The studio once the switches of a mode have seen an input. -/
def latched (id : String) (mode : Mode) (inp : Input) (s : Studio) : Studio :=
  { s with
    manager := s.manager.update id fun x => { x with switches := (ModeSwitch.passAll mode.switches inp).1 }
    pool := s.pool ++ (ModeSwitch.passAll mode.switches inp).2.1 }

/-- Latching the switches of the mode that an input passes keeps the setup. -/
theorem setup_passMode {m : Manager} {id : String} {mode : Mode} {inp : Input} (hn : (m.modes.map Mode.id).Nodup)
    (h : m.find? id = some mode) :
    (m.update id fun x => { x with switches := (ModeSwitch.passAll mode.switches inp).1 }).setup = m.setup := by
  refine setup_update m fun x hx hid => rest_switches inp ?_
  -- the ids are all different, so the mode that is changed is the one that was found
  have hxm : x = mode :=
    List.inj_on_of_nodup_map hn hx (find_mem h) (hid.trans (find_id h).symm)
  rw [hxm]

/-- The mode whose switches have seen an input. -/
theorem find_latched {id : String} {mode : Mode} (inp : Input) (h : s.manager.find? id = some mode) :
    (latched id mode inp s).manager.find? id
      = some { mode with switches := (ModeSwitch.passAll mode.switches inp).1 } := by
  have hu := find_update s.manager id id
    (f := fun x => { x with switches := (ModeSwitch.passAll mode.switches inp).1 }) fun _ => rfl
  rw [h, Option.map_some, if_pos (find_id h)] at hu
  exact hu

/-- **An input in a mode** latches its switches and then runs its triggers on what comes out of them. -/
theorem passMode_found (desk : Desk) {id : String} {mode : Mode} (inp : Input)
    (h : s.manager.find? id = some mode) :
    passMode desk id inp s = match (ModeSwitch.passAll mode.switches inp).2.2 with
      | .ok out => runTriggers desk out mode.triggers (latched id mode inp s)
      | .error fault => .error fault (latched id mode inp s) := by
  unfold passMode
  rw [bind_apply, get_apply]
  simp only [h, bind_apply, submitAll_apply, updateManager_apply, liftFault_apply]
  cases (ModeSwitch.passAll mode.switches inp).2.2 <;> rfl

theorem passMode_unknown {id : String} (inp : Input) (h : s.manager.find? id = none) :
    passMode desk id inp s = .ok () s := by
  unfold passMode
  rw [bind_apply, get_apply]
  simp only [h, pure_apply]

/-- An input in a mode is seen by the switches of the mode that is found. -/
theorem passMode_eq (desk : Desk) (id : String) (inp : Input) :
    passMode desk id inp = (do
      match (← get).manager.find? id with
      | none => pure ()
      | some mode =>
        modify (latched id mode inp)
        let out ← liftFault (ModeSwitch.passAll mode.switches inp).2.2
        runTriggers desk out mode.triggers) := by
  funext s
  rw [bind_apply, get_apply]
  cases h : s.manager.find? id with
  | none => simp only [h, passMode_unknown inp h, pure_apply]
  | some mode =>
      simp only [h, passMode_found desk inp h, bind_apply, modify_apply, liftFault_apply]
      cases (ModeSwitch.passAll mode.switches inp).2.2 <;> rfl

/-! ## One input -/

/-- **Shifts that let an input pass** leave the default mode current. -/
theorem tryShifts_current {inp : Input} {id : String} {i : Nat} {shifts : List Shift}
    (hh : s.manager.home = some id) (hc : s.manager.current = some id)
    (h : tryShifts desk inp i shifts s = .ok false s') : s'.manager.current = some id := by
  induction shifts generalizing i s with
  | nil =>
      obtain ⟨_, rfl⟩ := EStateM.Result.ok.inj h
      exact hc
  | cons k rest ih =>
      simp only [tryShifts] at h
      cases hchange : k.switch.change inp with
      | on =>
          -- the shift takes the input
          rw [hchange] at h
          obtain ⟨_, t, _, h⟩ := bind_ok h
          obtain ⟨_, u, _, h⟩ := bind_ok h
          exact absurd (EStateM.Result.ok.inj h).1 (by simp)
      | off =>
          -- turning the shift off enters the default mode
          rw [hchange] at h
          obtain ⟨_, t, ht, h⟩ := bind_ok h
          obtain ⟨_, u, hu, h⟩ := bind_ok h
          obtain ⟨_, rfl⟩ := EStateM.Result.ok.inj hu
          obtain ⟨hth, htc⟩ := restore_home hh ht
          exact ih (s := { t with manager := t.manager.setShift i false }) hth htc h
      | none =>
          rw [hchange] at h
          exact ih hh hc h

/-- The way back that lets an input pass changes nothing. -/
theorem tryExit_passed {inp : Input} (h : tryExit inp s = .ok false s') : s' = s := by
  unfold tryExit at h
  rw [bind_apply, get_apply] at h
  simp only [] at h
  cases hx : s.manager.exit with
  | none =>
      rw [hx] at h
      exact (EStateM.Result.ok.inj h).2.symm
  | some c =>
      rw [hx] at h
      simp only [] at h
      split at h
      · obtain ⟨_, t, _, h⟩ := bind_ok h
        obtain ⟨_, u, _, h⟩ := bind_ok h
        exact absurd (EStateM.Result.ok.inj h).1 (by simp)
      · exact (EStateM.Result.ok.inj h).2.symm

/-- Where an input goes: through the shifts or the way back to the default mode, either of which may take it,
and else to the current mode. -/
def steer (desk : Desk) (inp : Input) : Step (Option String) := do
  let m := (← get).manager
  match m.current with
  | none => pure none
  | some id =>
    (if m.home = some id then tryShifts desk inp 0 m.shifts else tryExit inp) >>= fun taken =>
      pure (if taken then none else some id)

/-- What an input does once it is noted: it is steered, and passed to the mode that it goes to. -/
def passOn (desk : Desk) (inp : Input) : Step Unit := do
  match ← steer desk inp with
  | none => pure ()
  | some id => passMode desk id inp

/-- **One input** is noted, steered and passed to the mode that it goes to. -/
theorem handle_eq (desk : Desk) (inp : Input) :
    handle desk inp = (do
      emit (.delivered inp)
      passOn desk inp) := by
  funext s
  unfold handle passOn steer
  simp only [bind_assoc]
  rw [bind_apply, bind_apply, emit_apply]
  simp only []
  rw [bind_apply, bind_apply, get_apply]
  simp only []
  cases s.manager.current with
  | none => rfl
  | some id =>
      have hpass : ∀ taken : Bool,
          (match (if taken = true then none else some id) with
            | none => pure ()
            | some id => passMode desk id inp) = if taken = true then pure () else passMode desk id inp := by
        intro taken
        cases taken <;> rfl
      simp only [bind_assoc, pure_bind, hpass]
      split <;> rfl

/-- **The mode that an input goes to** is current then. -/
theorem steer_current {inp : Input} {id : String} (h : steer desk inp s = .ok (some id) s') :
    s'.manager.current = some id := by
  unfold steer at h
  rw [bind_apply, get_apply] at h
  simp only [] at h
  cases hc : s.manager.current with
  | none => rw [hc] at h; exact absurd h (by simp)
  | some id' =>
      rw [hc] at h
      obtain ⟨taken, u, hu, h⟩ := bind_ok h
      obtain ⟨hdest, rfl⟩ := EStateM.Result.ok.inj h
      cases taken with
      | true => exact absurd hdest (by simp)
      | false =>
          obtain rfl : id' = id := by simpa using hdest
          split at hu
          · rename_i hhome
            exact tryShifts_current hhome hc hu
          · rw [tryExit_passed hu, hc]

/-- The studio once it is noted that the modes are handed an input. -/
def handed (inp : Input) (s : Studio) : Studio :=
  { s with record := s.record ++ [.delivered inp] }

/-- One input, by where it is steered. -/
theorem handle_apply (desk : Desk) (inp : Input) (s : Studio) :
    handle desk inp s = match steer desk inp (handed inp s) with
      | .ok none t => .ok () t
      | .ok (some id) t => passMode desk id inp t
      | .error fault t => .error fault t := by
  have hnote : emit (.delivered inp) s = .ok () (handed inp s) := rfl
  rw [handle_eq, bind_apply, hnote]
  dsimp only
  unfold passOn
  rw [bind_apply]
  cases steer desk inp (handed inp s) with
  | error fault t => rfl
  | ok dest t => cases dest <;> rfl

theorem nodup_of_setup {m m' : Manager} (h : m'.setup = m.setup) (hn : (m.modes.map Mode.id).Nodup) :
    (m'.modes.map Mode.id).Nodup := by
  have hids : ∀ m : Manager, m.setup.modes.map Mode.id = m.modes.map Mode.id := by
    intro m
    simp [Manager.setup, Function.comp_def]
  rwa [← hids, h, hids]

/-! ## Work put off -/

/-- Looking a recognizer up changes nothing. -/
theorem recognizerAt_still (i : Nat) (s : Studio) : after (recognizerAt i) s = s := by
  unfold recognizerAt
  rw [after_bind_ok (get_apply s)]
  split <;> rfl

/-- A piece of short work that hands on an input is a dispatch of it. -/
theorem work_handles {t : Task} {inp : Input} (h : t.input? = some inp) : t.run desk = handle desk inp := by
  cases t <;> simp_all [Task.input?, Task.run]

/-- What reaches the outside when the motion stream of a device is switched. -/
def Device.streamed (d : Device) (on : Bool) : List Effect :=
  if d.gyroFailure.isNone then [.gyro on] else []

theorem after_switchGyro (d : Device) (on : Bool) (s : Studio) :
    after (switchGyro d on) s = { s with record := s.record ++ d.streamed on } := by
  unfold switchGyro Device.streamed
  cases d.gyroFailure with
  | none => rfl
  | some reason => simp

theorem runHead_pool_idle (h : s.pool = []) : runHead desk .pool s = (pure () : Step Unit) s := by
  unfold runHead
  rw [bind_apply, get_apply]
  simp only [h]

theorem runHead_speech_idle (h : s.speech = []) : runHead desk .speech s = (pure () : Step Unit) s := by
  unfold runHead
  rw [bind_apply, get_apply]
  simp only [h]

theorem runHead_pool_apply {t : Task} {rest : List Task} (h : s.pool = t :: rest) :
    runHead desk .pool s = recordFailure (t.run desk) { s with pool := rest } := by
  unfold runHead
  rw [bind_apply, get_apply]
  simp only [h, bind_apply, set_apply]

theorem runHead_speech_apply {commands : List Command} {rest : List (List Command)}
    (h : s.speech = commands :: rest) :
    runHead desk .speech s = recordFailure (perform desk [] commands) { s with speech := rest } := by
  unfold runHead
  rw [bind_apply, get_apply]
  simp only [h, bind_apply, set_apply]

theorem runHead_pool_empty (h : s.pool = []) : after (runHead desk .pool) s = s :=
  after_eq (runHead_pool_idle h)

theorem runHead_speech_empty (h : s.speech = []) : after (runHead desk .speech) s = s :=
  after_eq (runHead_speech_idle h)

theorem runHead_pool {t : Task} {rest : List Task} (h : s.pool = t :: rest) :
    after (runHead desk .pool) s = after (recordFailure (t.run desk)) { s with pool := rest } :=
  after_eq (runHead_pool_apply h)

theorem runHead_speech {commands : List Command} {rest : List (List Command)}
    (h : s.speech = commands :: rest) :
    after (runHead desk .speech) s
      = after (recordFailure (perform desk [] commands)) { s with speech := rest } :=
  after_eq (runHead_speech_apply h)

end PadScribe
