import Mathlib.Data.List.Induction
import PadScribe.Proofs.Compiling
import PadScribe.Proofs.Deeds

/-!
# `Proofs.Streaming` — the motion stream and the gyro modes

A gyro mode asks the device of the input that it is entered on for its motion stream, and asks it to stop on the input
that it is left on. Between an input and the work that it puts off the stream lags behind the mode, so what matters is
what was asked together with what still waits to be asked (`Studio.due`). As long as every input comes from one device,
the last of this is "on" exactly while a gyro mode is the current one. A mode that is left without a device — because
other modes are installed, or a spoken text leads elsewhere — is left in silence, and then the stream stays on.

## Contents

* `Mode.streams`, `Manager.inGyro` — gyro modes
* `Config.hasGyroSwitch`, `compileRules_holds` — configurations without switches for the stream
* `Studio.streams`, `Studio.due` — what a device was asked, and will be asked
* `Steers`, `deed_steers`, `act_steers` — what an event adds, and where it leads
* `last_stream_on_iff` — every run
-/

namespace PadScribe

/-! ## Gyro modes -/

/-- Whether a mode takes the motion stream of a device while it is the current one. -/
def Mode.streams (m : Mode) : Bool :=
  match m.kind with
  | .gyro => true
  | _ => false

/-- Whether the current mode is a gyro mode. -/
def Manager.inGyro (m : Manager) : Bool :=
  m.currentMode?.any Mode.streams

theorem rest_streams (m : Mode) : m.rest.streams = m.streams := by
  cases hk : m.kind <;> simp [Mode.streams, Mode.rest, Mode.left, Mode.entered, Mode.setPaused, hk]

theorem find_streams_of_setup {m m' : Manager} (h : m'.setup = m.setup) (id : String) :
    (m'.find? id).any Mode.streams = (m.find? id).any Mode.streams := by
  have hrest : ∀ m : Manager, (m.setup.find? id).any Mode.streams = (m.find? id).any Mode.streams := by
    intro m
    rw [find_setup]
    cases m.find? id with
    | none => rfl
    | some mode => exact rest_streams mode
  rw [← hrest, h, hrest]

theorem inGyro_of_setup {m m' : Manager} (hs : m'.setup = m.setup) (hc : m'.current = m.current) :
    m'.inGyro = m.inGyro := by
  unfold Manager.inGyro Manager.currentMode?
  rw [hc]
  cases m.current with
  | none => rfl
  | some id => exact find_streams_of_setup hs id

theorem inGyro_enteredOf {m : Manager} {id : String} {mode : Mode} (h : m.find? id = some mode) :
    (m.enteredOf id).inGyro = mode.streams := by
  show ((m.enteredOf id).find? id).any Mode.streams = _
  rw [find_streams_of_setup (setup_enteredOf m id), h]
  rfl

/-! ## Switches for the stream -/

/-- A switch rule with the motion stream on its right side. -/
def Rule.isGyroSwitch (rule : Json) : Bool :=
  match rule.text with
  | .ok line =>
    match splitRule line with
    | .ok (head :: _, target :: _) => Text.lower head == "[switch]" && Text.lower target == "[gyro]"
    | _ => false
  | _ => false

/-- A configuration with a switch for the motion stream. -/
def Config.hasGyroSwitch (cfg : Config) : Bool :=
  cfg.modes.any fun block => block.rules.any Rule.isGyroSwitch

theorem readSwitchRule_gyro {isDefault : Bool} {source target : String} {args targetArgs : List String}
    {switch : Switch}
    (h : Compile.readSwitchRule isDefault source args target targetArgs = .ok (.inl ⟨switch, .gyro⟩)) :
    Text.lower target = "[gyro]" := by
  unfold Compile.readSwitchRule at h
  obtain ⟨_, _, h⟩ := except_bind_ok h
  obtain ⟨modifier, _, h⟩ := except_bind_ok h
  cases modifier with
  | some m => exact absurd (Except.ok.inj h) (by simp)
  | none =>
      simp only [] at h
      split at h
      · split at h
        · exact absurd h (by simp)
        · obtain ⟨opts, _, h⟩ := except_bind_ok h
          exact absurd (Except.ok.inj h) (by simp)
      · split at h
        · assumption
        · split at h
          · obtain ⟨opts, _, h⟩ := except_bind_ok h
            exact absurd (Except.ok.inj h) (by simp)
          · exact absurd h (by simp)

/-- A rule line makes a switch for the stream only if it says so. -/
theorem reads_gyro {cfg : Config} {isDefault : Bool} {rule : Json} {k : ModeSwitch}
    (h : Rule.Reads cfg isDefault rule (.switch k)) (hk : k.hold = .gyro) : Rule.isGyroSwitch rule = true := by
  obtain ⟨line, htext, hline⟩ := h
  unfold Rule.readLine at hline
  unfold Rule.isGyroSwitch
  split at hline
  · exact absurd hline (by simp)
  · rename_i head source args target targetArgs hsplit
    simp only [] at hline
    split at hline
    · obtain ⟨_, _, hline⟩ := except_bind_ok hline
      obtain ⟨_, _, hline⟩ := except_bind_ok hline
      exact absurd (Except.ok.inj hline) (by simp)
    · split at hline
      · rename_i hswitch
        obtain ⟨r, hr, hline⟩ := except_bind_ok hline
        cases r with
        | inl made =>
            obtain rfl := RuleElement.switch.inj (Except.ok.inj hline)
            obtain ⟨switch, hold⟩ := made
            obtain rfl : hold = .gyro := hk
            simp [htext, hsplit, hswitch, readSwitchRule_gyro hr]
        | inr shift => exact absurd (Except.ok.inj hline) (by simp [Rule.ofSwitchRule])
      · exact absurd hline (by simp)
  · exact absurd hline (by simp)

/-- **A configuration without switches for the stream** compiles to none. -/
theorem compileRules_holds {cfg : Config} {recognizers : Bool} {made n : Nat} {modes : List Mode}
    {shifts : List Shift} (h : compileRules cfg recognizers made = (n, .ok (modes, shifts)))
    (hcfg : cfg.hasGyroSwitch = false) : ∀ mode ∈ modes, ∀ k ∈ mode.switches, k.hold ≠ .gyro := by
  intro mode hmode k hk hgyro
  obtain ⟨_, block, hblock, es, hof⟩ := modesOf_mem (compileRules_modesOf h) hmode
  rw [hof.switches, List.mem_filterMap] at hk
  obtain ⟨e, he, hswitch⟩ := hk
  cases e with
  | switch made =>
      obtain rfl := Option.some.inj hswitch
      -- the rule line that says so stands where the switch does
      obtain ⟨i, hi, hes⟩ := List.getElem_of_mem he
      have hlen : i < block.rules.length := hof.lines.length_eq ▸ hi
      have hread : Rule.Reads cfg _ block.rules[i] es[i] := hof.lines.get hlen hi
      rw [hes] at hread
      have hsome : cfg.hasGyroSwitch = true := List.any_eq_true.mpr
        ⟨block, hblock, List.any_eq_true.mpr ⟨_, List.getElem_mem hlen, reads_gyro hread hgyro⟩⟩
      exact absurd (hsome.symm.trans hcfg) (by simp)
  | _ => exact absurd hswitch (by simp [RuleElement.switch?])

/-! ## What a device is asked -/

/-- Whether work switches the motion stream on or off. -/
def Task.stream? : Task → Option Bool
  | gyro _ on => some on
  | _ => none

/-- Whether an effect switches the motion stream on or off. -/
def Effect.stream? : Effect → Option Bool
  | gyro on => some on
  | _ => none

/-- What the device was asked so far: to stream, or to stop. -/
def Studio.streams (s : Studio) : List Bool :=
  s.record.filterMap Effect.stream?

/-- What the device was asked so far, and what it will be asked by work that waits. -/
def Studio.due (s : Studio) : List Bool :=
  s.streams ++ s.pool.filterMap Task.stream?

theorem due_idle {s : Studio} (h : s.pool = []) : s.due = s.streams := by
  unfold Studio.due
  rw [h, List.filterMap_nil, List.append_nil]

/-- **A desk whose answers show no switching of the stream.** -/
structure Desk.ShowsNoStream (desk : Desk) : Prop where
  keyboard : ∀ q, (desk.keyboard q).effects.filterMap Effect.stream? = []
  pointer : ∀ q, (desk.pointer q).effects.filterMap Effect.stream? = []
  notifier : ∀ q, (desk.notifier q).effects.filterMap Effect.stream? = []

theorem plain_showsNoStream (shell : List String → ShellResult) : (Desk.plain shell).ShowsNoStream where
  keyboard q := by cases q <;> rfl
  pointer q := by cases q <;> rfl
  notifier q := by cases q <;> rfl

theorem due_note {s : Studio} {es : List Effect} (h : es.filterMap Effect.stream? = []) :
    Studio.due { s with record := s.record ++ es } = s.due := by
  unfold Studio.due Studio.streams
  rw [List.filterMap_append, h, List.append_nil]

theorem due_putOff (s : Studio) (ts : List Task) :
    Studio.due { s with pool := s.pool ++ ts } = s.due ++ ts.filterMap Task.stream? := by
  unfold Studio.due Studio.streams
  rw [List.filterMap_append, List.append_assoc]

/-! ## Entering and leaving modes -/

theorem gyroTasks_streams (inp : Input) (on : Bool) :
    (Mode.gyroTasks (some inp) on).filterMap Task.stream? = if inp.device.isSome then [on] else [] := by
  cases hd : inp.device <;> simp [Mode.gyroTasks, hd, Task.stream?]

theorem enterTasks_streams (m : Mode) (inp : Input) :
    (m.enterTasks (some inp)).filterMap Task.stream? = if m.streams && inp.device.isSome then [true] else [] := by
  cases hk : m.kind with
  | idle => simp [Mode.enterTasks, Mode.streams, hk]
  | gyro => simp [Mode.enterTasks, Mode.streams, hk, gyroTasks_streams]
  | speech line => cases hr : line.recognizer.isSome <;> simp [Mode.enterTasks, Mode.streams, hk, hr, Task.stream?]

theorem exitTasks_streams (m : Manager) (inp : Input) :
    (m.exitTasks (some inp)).filterMap Task.stream? = if m.inGyro && inp.device.isSome then [false] else [] := by
  unfold Manager.exitTasks Manager.inGyro
  cases m.currentMode? with
  | none => rfl
  | some mode =>
      simp only [Option.any_some]
      cases hk : mode.kind with
      | idle => simp [Mode.exitTasks, Mode.streams, hk]
      | gyro => simp [Mode.exitTasks, Mode.streams, hk, gyroTasks_streams]
      | speech line =>
          cases hr : line.flushOnExit && line.recognizer.isSome <;>
            simp [Mode.exitTasks, Mode.streams, hk, hr, Task.stream?]

theorem mem_gyroTasks {inp : Option Input} {on on' : Bool} {d : Device} (h : .gyro d on' ∈ Mode.gyroTasks inp on) :
    inp.bind (·.device) = some d := by
  unfold Mode.gyroTasks at h
  split at h
  · rename_i d' hd
    obtain ⟨rfl, _⟩ := Task.gyro.inj (List.mem_singleton.mp h)
    exact hd
  · exact absurd h (by simp)

/-- Only the stream of the device of an input is switched when modes change on it. -/
theorem mem_switchWork {m : Manager} {mode : Mode} {inp : Option Input} {on : Bool} {d : Device}
    (h : .gyro d on ∈ m.exitTasks inp ++ mode.enterTasks inp) : inp.bind (·.device) = some d := by
  rcases List.mem_append.mp h with h | h
  · unfold Manager.exitTasks at h
    split at h
    · exact absurd h (by simp)
    · unfold Mode.exitTasks at h
      split at h
      · exact absurd h (by simp)
      · exact mem_gyroTasks h
      · split at h
        · exact absurd (List.mem_singleton.mp h) (by simp)
        · exact absurd h (by simp)
  · unfold Mode.enterTasks at h
    split at h
    · exact absurd h (by simp)
    · exact mem_gyroTasks h
    · split at h
      · exact absurd (List.mem_singleton.mp h) (by simp)
      · exact absurd h (by simp)

/-- Without switches for the stream, none of the work of switches is for it. -/
theorem passAll_unstreamed {switches : List ModeSwitch} (h : ∀ k ∈ switches, k.hold ≠ .gyro) (inp : Input) :
    ∀ t ∈ (ModeSwitch.passAll switches inp).2.1, t.stream? = none := by
  have hone : ∀ k : ModeSwitch, k.hold ≠ .gyro → ∀ inp, ∀ t ∈ k.tasks inp, t.stream? = none := by
    intro k hk inp t ht
    unfold ModeSwitch.tasks at ht
    cases hold : k.hold with
    | gyro => exact absurd hold hk
    | modify m => cases hc : k.switch.change inp <;> simp [hold, hc] at ht
    | pointer button => cases hc : k.switch.change inp <;> simp_all [Task.stream?]
  induction switches generalizing inp with
  | nil => intro t ht; exact absurd ht (by simp [ModeSwitch.passAll])
  | cons k rest ih =>
      intro t ht
      have hfirst : ∀ t ∈ k.tasks inp, t.stream? = none := hone k (h k List.mem_cons_self) inp
      simp only [ModeSwitch.passAll] at ht
      split at ht
      · exact hfirst t ht
      · rcases List.mem_append.mp ht with ht | ht
        · exact hfirst t ht
        · exact ih (fun k hk => h k (List.mem_cons_of_mem _ hk)) _ t ht

/-! ## What a deed adds -/

variable {desk : Desk} {c : Cause} {d : Device} {dev : Option Device} {s s' t : Studio} {gs hs : List Bool}

/-- **What is added between two states** to what a device is asked, on inputs of one device or of none: nothing without
a device, and with it the last of what is added says whether the current mode is a gyro mode. -/
structure Steers (dev : Option Device) (s s' : Studio) (gs : List Bool) : Prop where
  due : s'.due = s.due ++ gs
  silent : dev = none → gs = []
  still : dev ≠ none → gs = [] → s'.manager.inGyro = s.manager.inGyro
  last : ∀ on, gs.getLast? = some on → s'.manager.inGyro = on

theorem steers_same (hdue : s'.due = s.due) (hin : s'.manager.inGyro = s.manager.inGyro) : Steers dev s s' [] where
  due := by rw [hdue, List.append_nil]
  silent _ := rfl
  still _ _ := hin
  last on h := absurd h (by simp)

theorem steers_trans (h : Steers dev s t gs) (h' : Steers dev t s' hs) : Steers dev s s' (gs ++ hs) where
  due := by rw [h'.due, h.due, List.append_assoc]
  silent hnone := by rw [h.silent hnone, h'.silent hnone, List.append_nil]
  still hsome hnil := by
    obtain ⟨hgs, hhs⟩ := List.append_eq_nil_iff.mp hnil
    exact (h'.still hsome hhs).trans (h.still hsome hgs)
  last on hlast := by
    by_cases hhs : hs = []
    · -- something was added before, so there is a device and the mode stayed
      rw [hhs, List.append_nil] at hlast
      have hsome : dev ≠ none := by
        intro hnone
        rw [h.silent hnone] at hlast
        exact absurd hlast (by simp)
      exact (h'.still hsome hhs).trans (h.last on hlast)
    · rw [List.getLast?_append_of_ne_nil _ hhs] at hlast
      exact h'.last on hlast

/-- **A program whose stream follows its modes**: no switch is for the stream, and work that waits is for one device or
hands on an input without a device. -/
structure Tuned (d : Device) (s : Studio) : Prop where
  holds : ∀ mode ∈ s.manager.modes, ∀ k ∈ mode.switches, k.hold ≠ .gyro
  streams : ∀ d' on, .gyro d' on ∈ s.pool → d' = d
  inputs : ∀ t ∈ s.pool, ∀ inp, t.input? = some inp → inp.device = none

/-- What a switch holds stays until modes are installed again. -/
theorem holds_of_setup {m m' : Manager} (h : m'.setup = m.setup)
    (hm : ∀ mode ∈ m.modes, ∀ k ∈ mode.switches, k.hold ≠ .gyro) :
    ∀ mode ∈ m'.modes, ∀ k ∈ mode.switches, k.hold ≠ .gyro := by
  have hrest : ∀ m : Manager, (∀ mode ∈ m.setup.modes, ∀ k ∈ mode.switches, k.hold ≠ .gyro) ↔
      ∀ mode ∈ m.modes, ∀ k ∈ mode.switches, k.hold ≠ .gyro := by
    intro m
    simp only [Manager.setup, List.mem_map, Mode.rest, Mode.left, Mode.entered, forall_exists_index, and_imp,
      forall_apply_eq_imp_iff₂]
  rwa [← hrest, h, hrest]

theorem chore_unstreamed {t : Task} (h : t.isChore = true) : t.stream? = none := by
  cases t with
  | gyro => exact absurd h (by simp [Task.isChore])
  | _ => rfl

/-- Work may be put off for the stream of the device, and to hand on inputs without a device. -/
theorem tuned_putOff {ts : List Task} (ht : Tuned d s) (hstreams : ∀ d' on, .gyro d' on ∈ ts → d' = d)
    (hinputs : ∀ t ∈ ts, ∀ inp, t.input? = some inp → inp.device = none) :
    Tuned d { s with pool := s.pool ++ ts } where
  holds := ht.holds
  streams d' on hmem := (List.mem_append.mp hmem).elim (ht.streams d' on) (hstreams d' on)
  inputs t hmem := (List.mem_append.mp hmem).elim (ht.inputs t) (hinputs t)

/-- Work may be taken off. -/
theorem tuned_take {pool : List Task} (ht : Tuned d s) (hp : pool ⊆ s.pool) : Tuned d { s with pool := pool } where
  holds := ht.holds
  streams d' on hmem := ht.streams d' on (hp hmem)
  inputs t hmem := ht.inputs t (hp hmem)

/-- **A deed** on inputs of the device, or without a device, keeps the program tuned. -/
theorem deed_tuned (hdev : dev = none ∨ dev = some d) (hc : ∀ inp, c.hands inp → inp.device = dev)
    (h : Deed desk c s s') (ht : Tuned d s) : Tuned d s' := by
  have hholds : ∀ mode ∈ s'.manager.modes, ∀ k ∈ mode.switches, k.hold ≠ .gyro :=
    holds_of_setup (deed_setup h) ht.holds
  cases h with
  | @switch id mode inp out allowed becomes found =>
      have hdevice : out.device = dev := (becomes_alike becomes).device.trans (hc inp allowed)
      have hput : Tuned d
          { s with pool := s.pool ++ (s.manager.exitTasks (some out) ++ mode.enterTasks (some out)) } := by
        refine tuned_putOff ht (fun d' on hmem => ?_) fun t hmem inp hinput => ?_
        · have hmine : out.device = some d' := mem_switchWork hmem
          rw [hdevice] at hmine
          rcases hdev with hnone | hsome
          · exact absurd (hnone.symm.trans hmine) (by simp)
          · exact Option.some.inj (hmine.symm.trans hsome)
        · exact absurd ((switchWork_quiet hmem).symm.trans hinput) (by simp)
      exact ⟨hholds, hput.streams, hput.inputs⟩
  | @latch id mode inp allowed current found setup =>
      have hput : Tuned d { s with pool := s.pool ++ (ModeSwitch.passAll mode.switches inp).2.1 } := by
        refine tuned_putOff ht (fun d' on hmem => ?_) fun t hmem inp' hinput => ?_
        · exact absurd (passAll_unstreamed (ht.holds mode (find_mem found)) inp _ hmem) (by simp [Task.stream?])
        · exact absurd ((passAll_quiet _ _ t hmem).symm.trans hinput) (by simp)
      exact ⟨hholds, hput.streams, hput.inputs⟩
  | @putOff t chore =>
      refine tuned_putOff ht (fun d' on hmem => ?_) fun t' hmem inp hinput => ?_
      · rw [← List.mem_singleton.mp hmem] at chore
        exact absurd (chore_unstreamed chore) (by simp [Task.stream?])
      · rw [List.mem_singleton.mp hmem, (chore_plain chore).1] at hinput
        exact absurd hinput (by simp)
  | deliver u =>
      refine tuned_putOff ht (by simp) fun t hmem inp hinput => ?_
      rw [List.mem_singleton.mp hmem] at hinput
      rw [← Option.some.inj hinput]
      rfl
  | @replay text spoken source =>
      refine tuned_putOff ht (by simp) fun t hmem inp hinput => ?_
      rw [List.mem_singleton.mp hmem] at hinput
      rw [← Option.some.inj hinput]
      rfl
  | @stream d' on rest head =>
      have htake : Tuned d { s with pool := rest } := tuned_take ht (head ▸ List.subset_cons_self _ rest)
      exact ⟨htake.holds, htake.streams, htake.inputs⟩
  | @take t rest head other => exact tuned_take ht (head ▸ List.subset_cons_self t rest)
  | _ => exact ⟨hholds, ht.streams, ht.inputs⟩

/-- **What a deed adds** to what the device is asked. -/
theorem deed_steers (hd : desk.ShowsNoStream) (hw : d.gyroFailure = none)
    (hc : ∀ inp, c.hands inp → inp.device = dev) (h : Deed desk c s s') (ht : Tuned d s) :
    ∃ gs, Steers dev s s' gs := by
  cases h with
  | @hand inp allowed => exact ⟨[], steers_same (due_note rfl) rfl⟩
  | arrange m setup current => exact ⟨[], steers_same rfl (inGyro_of_setup setup current)⟩
  | @switch id mode inp out allowed becomes found =>
      have hdevice : out.device = dev := (becomes_alike becomes).device.trans (hc inp allowed)
      have hin : (switchedTo id mode (some out) s).manager.inGyro = mode.streams := inGyro_enteredOf found
      have hdue : (switchedTo id mode (some out) s).due
          = s.due ++ ((s.manager.exitTasks (some out)).filterMap Task.stream?
            ++ (mode.enterTasks (some out)).filterMap Task.stream?) := by
        simp only [switchedTo, Studio.due, Studio.streams, List.filterMap_append, List.append_assoc]
        rfl
      rw [exitTasks_streams, enterTasks_streams, hdevice] at hdue
      refine ⟨_, hdue, fun hnone => by simp [hnone], fun hsome hnil => ?_, fun on hlast => ?_⟩
      · -- nothing was added although there is a device, so neither mode is a gyro mode
        have hgiven : dev.isSome = true := Option.isSome_iff_ne_none.mpr hsome
        rw [hgiven] at hnil
        rw [hin]
        cases hold : s.manager.inGyro <;> cases hnew : mode.streams <;> simp [hold, hnew] at hnil ⊢
      · -- the stream was asked for last, or to stop, just as the mode that is entered would have it
        rw [hin]
        cases hgiven : dev.isSome <;> cases hold : s.manager.inGyro <;> cases hnew : mode.streams <;>
          simp_all
  | @latch id mode inp allowed current found setup =>
      have hnone : (ModeSwitch.passAll mode.switches inp).2.1.filterMap Task.stream? = [] :=
        List.filterMap_eq_nil_iff.mpr (passAll_unstreamed (ht.holds mode (find_mem found)) inp)
      refine ⟨[], steers_same ?_ (inGyro_of_setup setup rfl)⟩
      have hput := due_putOff s (ModeSwitch.passAll mode.switches inp).2.1
      rw [hnone, List.append_nil] at hput
      exact hput
  | @putOff t chore =>
      refine ⟨[], steers_same ?_ rfl⟩
      rw [due_putOff, List.filterMap_cons_none (chore_unstreamed chore), List.filterMap_nil, List.append_nil]
  | deliver u => exact ⟨[], steers_same (by rw [due_putOff]; simp [Task.stream?]) rfl⟩
  | replay _ _ => exact ⟨[], steers_same (by rw [due_putOff]; simp [Task.stream?]) rfl⟩
  | @compile v text spoken installed utterances compiled =>
      have hdropped := dropped_shows (f := Effect.stream?) (fun _ => rfl) (v.compile s.lastSpeech text).1.dropped
      exact ⟨[], steers_same (due_note (s := s) hdropped) rfl⟩
  | point q => exact ⟨[], steers_same (due_note (hd.pointer q)) rfl⟩
  | notice q => exact ⟨[], steers_same (due_note (hd.notifier q)) rfl⟩
  | write text => exact ⟨[], steers_same (due_note (hd.keyboard _)) rfl⟩
  | tap _ _ => exact ⟨[], steers_same (due_note (hd.keyboard _)) rfl⟩
  | @note e note =>
      refine ⟨[], steers_same (due_note ?_) rfl⟩
      cases e with
      | gyro on => exact absurd note (by simp [Effect.isNote])
      | _ => rfl
  | @stream d' on rest head =>
      -- the device does what waited, so what is due stays
      obtain rfl : d' = d := ht.streams d' on (head ▸ List.mem_cons_self)
      refine ⟨[], steers_same ?_ rfl⟩
      have hdone : d'.streamed on = [.gyro on] := by simp [Device.streamed, hw]
      simp [Studio.due, Studio.streams, head, hdone, Effect.stream?, Task.stream?]
  | @take t rest head other =>
      have hnone : t.stream? = none := by
        cases t with
        | gyro d' on => exact absurd rfl (other d' on)
        | _ => rfl
      refine ⟨[], steers_same ?_ rfl⟩
      simp [Studio.due, Studio.streams, head, hnone]
  | _ => exact ⟨[], steers_same rfl rfl⟩

/-- A row of deeds adds what its deeds add. -/
theorem deeds_steers (hd : desk.ShowsNoStream) (hw : d.gyroFailure = none) (hdev : dev = none ∨ dev = some d)
    (hc : ∀ inp, c.hands inp → inp.device = dev) (h : Deeds desk c s s') (ht : Tuned d s) :
    Tuned d s' ∧ ∃ gs, Steers dev s s' gs := by
  induction h with
  | refl => exact ⟨ht, [], steers_same rfl rfl⟩
  | tail _ hdeed ih =>
      obtain ⟨hmid, gs, hgs⟩ := ih
      obtain ⟨hs, hhs⟩ := deed_steers hd hw hc hdeed hmid
      exact ⟨deed_tuned hdev hc hdeed hmid, gs ++ hs, steers_trans hgs hhs⟩

/-! ## Events -/

/-- The device that an event comes from, if it comes from one. -/
def Event.device? : Event → Option Device
  | input inp => inp.device
  | report device _ => device
  | _ => none

/-- The inputs that an event hands to the modes come from its device. -/
theorem hands_device {e : Event} (ht : Tuned d s) {inp : Input} (h : e.hands s inp) : inp.device = e.device? := by
  cases e with
  | input given =>
      obtain ⟨_, rfl⟩ := h
      rfl
  | report device r => exact h.1
  | line text =>
      obtain ⟨_, _, rfl⟩ := h
      rfl
  | work q =>
      cases q with
      | pool =>
          obtain ⟨t, hhead, hinput⟩ := Option.bind_eq_some_iff.mp h
          exact ht.inputs t (List.mem_of_mem_head? hhead) inp hinput
      | speech => exact absurd h (by simp [Event.hands, Event.handsOn])
  | _ => exact absurd h (by simp [Event.hands, Event.handsOn])

/-- Installing modes asks no device for anything, not even a gyro mode that is left. -/
theorem installed_due (modes : List Mode) (shifts : List Shift) (first : Mode) (s : Studio) :
    (s.installed modes shifts first).due = s.due := by
  have hunasked : ∀ t ∈ s.manager.exitTasks none ++ first.enterTasks none, t.stream? = none := by
    intro t hmem
    cases t with
    | gyro d' on => exact absurd (mem_switchWork hmem) (by simp)
    | _ => rfl
  have hnone := List.filterMap_eq_nil_iff.mpr hunasked
  rw [List.filterMap_append] at hnone
  simp only [Studio.installed, Studio.due, Studio.streams, List.filterMap_append, List.append_assoc, hnone]
  simp [Effect.stream?]

theorem installed_tuned {modes : List Mode} (hm : ∀ mode ∈ modes, ∀ k ∈ mode.switches, k.hold ≠ .gyro)
    (shifts : List Shift) (first : Mode) (hstreams : ∀ d' on, .gyro d' on ∈ s.pool → d' = d)
    (hinputs : ∀ t ∈ s.pool, ∀ inp, t.input? = some inp → inp.device = none) :
    Tuned d (s.installed modes shifts first) := by
  have hpool : (s.installed modes shifts first).pool
      = s.pool ++ (s.manager.exitTasks none ++ first.enterTasks none) := List.append_assoc _ _ _
  refine ⟨holds_of_setup (setup_enteredOf (Manager.fresh modes shifts first) first.id) hm, ?_, ?_⟩
  · intro d' on hmem
    rw [hpool] at hmem
    rcases List.mem_append.mp hmem with hmem | hmem
    · exact hstreams d' on hmem
    · exact absurd (mem_switchWork hmem) (by simp)
  · intro t hmem inp hinput
    rw [hpool] at hmem
    rcases List.mem_append.mp hmem with hmem | hmem
    · exact hinputs t hmem inp hinput
    · exact absurd ((switchWork_quiet hmem).symm.trans hinput) (by simp)

/-- **What an event adds** to what the device is asked. -/
theorem act_steers (hd : desk.ShowsNoStream) (hw : d.gyroFailure = none) {e : Event}
    (hdev : e.device? = none ∨ e.device? = some d) (hcfg : ∀ cfg, e = .reload cfg → cfg.hasGyroSwitch = false)
    (hrun : Running s) (ht : Tuned d s) :
    Tuned d (after (e.act desk) s) ∧ ∃ gs, Steers e.device? s (after (e.act desk) s) gs := by
  rcases act_cases desk e hrun with ⟨cfg, made, rfl, h⟩ | ⟨cfg, made, modes, shifts, first, rfl, hc, h⟩ | hrow
  · rw [h]
    exact ⟨⟨ht.holds, ht.streams, ht.inputs⟩, [], steers_same rfl rfl⟩
  · rw [h]
    have hi : Tuned d ((s.withRecognizers made).installed modes shifts first) :=
      installed_tuned (compileRules_holds hc (hcfg cfg rfl)) shifts first ht.streams ht.inputs
    have hdue := installed_due modes shifts first (s.withRecognizers made)
    refine ⟨⟨hi.holds, hi.streams, hi.inputs⟩, [], ?_, fun _ => rfl, fun hsome => absurd rfl hsome, by simp⟩
    rw [List.append_nil]
    exact hdue
  · exact deeds_steers hd hw hdev (fun inp hi => hands_device ht hi) hrow ht

/-! ## Every run -/

/-- A program that is built without switches for the stream is tuned. -/
theorem build_tuned {cfg : Config} {start : Studio} (hb : Studio.build cfg start = .ok s) (hs : start.pool = [])
    (hcfg : cfg.hasGyroSwitch = false) : Tuned d s ∧ s.due = start.streams := by
  obtain ⟨made, modes, shifts, first, _, hc, rfl⟩ := build_compiled hb
  have hi : Tuned d ((start.withRecognizers made).installed modes shifts first) := by
    refine installed_tuned (compileRules_holds hc hcfg) shifts first ?_ ?_
    · simp [Studio.withRecognizers, hs]
    · simp [Studio.withRecognizers, hs]
  have hdue : ((start.withRecognizers made).installed modes shifts first).due = start.due :=
    installed_due modes shifts first _
  exact ⟨⟨hi.holds, hi.streams, hi.inputs⟩, hdue.trans (due_idle hs)⟩

/-- A moment of a run at which a gyro mode is left in silence: the stream is due, the mode is left on no input of a
device, and the stream is due as before when the run ends. -/
def LeftInSilence (desk : Desk) (s : Studio) (es : List Event) : Prop :=
  ∃ before e later, es = before ++ e :: later ∧ e.device? = none ∧
    (run desk before s).manager.inGyro = true ∧ (run desk (before ++ [e]) s).manager.inGyro = false ∧
    (run desk before s).due.getLast? = some true ∧ (run desk es s).due = (run desk before s).due

/-- **The stream outlasts a gyro mode** only if one was left in silence. -/
theorem run_left (hd : desk.ShowsNoStream) (hw : d.gyroFailure = none) {es : List Event}
    (hdev : ∀ e ∈ es, e.device? = none ∨ e.device? = some d)
    (hcfg : ∀ cfg, .reload cfg ∈ es → cfg.hasGyroSwitch = false) (hrun : Running s) (ht : Tuned d s)
    (hstart : s.due = []) : Tuned d (run desk es s) ∧ ((run desk es s).manager.inGyro = false →
      (run desk es s).due.getLast? = some true → LeftInSilence desk s es) := by
  induction es using List.reverseRecOn with
  | nil =>
      refine ⟨ht, fun _ hlast => ?_⟩
      rw [show run desk [] s = s from rfl, hstart] at hlast
      exact absurd hlast (by simp)
  | append_singleton es e ih =>
      obtain ⟨hmid, hleft⟩ := ih (fun e he => hdev e (List.mem_append_left _ he))
        fun cfg he => hcfg cfg (List.mem_append_left _ he)
      obtain ⟨hnow, gs, hgs⟩ : Tuned d (after (e.act desk) (run desk es s)) ∧
          ∃ gs, Steers e.device? (run desk es s) (after (e.act desk) (run desk es s)) gs :=
        act_steers hd hw (hdev e (by simp)) (fun cfg he => hcfg cfg (by simp [he])) (run_running es hrun) hmid
      rw [← run_append] at hnow hgs
      refine ⟨hnow, fun hin hlast => ?_⟩
      by_cases hnil : gs = []
      · have hdue : (run desk (es ++ [e]) s).due = (run desk es s).due := by rw [hgs.due, hnil, List.append_nil]
        rw [hdue] at hlast
        cases hbefore : (run desk es s).manager.inGyro with
        | true =>
            -- this event leaves the mode, and nothing was asked, so it has no device
            have hnone : e.device? = none := by
              by_contra hsome
              exact absurd ((hgs.still hsome hnil).symm.trans hin) (by simp [hbefore])
            exact ⟨es, e, [], rfl, hnone, hbefore, hin, hlast, hdue⟩
        | false =>
            obtain ⟨before, e', later, rfl, hnone, hwas, hleaves, hon, hsame⟩ := hleft hbefore hlast
            exact ⟨before, e', later ++ [e], by simp, hnone, hwas, hleaves, hon, hdue.trans hsame⟩
      · -- what this event asked for last is as the current mode would have it
        rw [hgs.due, List.getLast?_append_of_ne_nil _ hnil] at hlast
        exact absurd ((hgs.last true hlast).symm.trans hin) (by simp)

/-- **When the stream stays on.** In every run of configurations without switches for the stream, reloads included, in
which every input that has a device has the same working one: once no work waits and the current mode is not a gyro
mode, what the device was asked last is to stop, if it was asked at all, unless a gyro mode was left in silence. -/
theorem last_stream_on_iff (hd : desk.ShowsNoStream) {cfg : Config} {start : Studio}
    (hb : Studio.build cfg start = .ok s) (hs : start.pool = []) (hstreams : start.streams = []) {es : List Event}
    (hcfg : ∀ read ∈ configsOf cfg es, read.hasGyroSwitch = false) (hw : d.gyroFailure = none)
    (hdev : ∀ e ∈ es, e.device? = none ∨ e.device? = some d) (hidle : (run desk es s).pool = [])
    (hmode : (run desk es s).manager.inGyro = false) :
    (run desk es s).streams.getLast? = some true ↔ LeftInSilence desk s es := by
  obtain ⟨ht, hdue⟩ : Tuned d s ∧ s.due = start.streams := build_tuned hb hs (hcfg cfg List.mem_cons_self)
  have hreload : ∀ again, .reload again ∈ es → again.hasGyroSwitch = false := by
    intro again hmem
    exact hcfg again (List.mem_cons_of_mem _ (List.mem_filterMap.mpr ⟨_, hmem, rfl⟩))
  rw [← due_idle hidle]
  constructor
  · intro hlast
    exact (run_left hd hw hdev hreload (build_running hb hs) ht (hdue.trans hstreams)).2 hmode hlast
  · rintro ⟨before, e, later, _, _, _, _, hon, hsame⟩
    rw [hsame]
    exact hon

/-- A mode that leads to a gyro mode while a button is held. -/
def pointing : Config :=
  { modes := [
      { declaration := .str "[idle] -id a", rules := [.str "[switch] button -id ZR -> [mode] -id g"] },
      { declaration := .str "[gyro] -id g" }] }

/-- The mode without the gyro mode. -/
def plainMode : Config :=
  { modes := [{ declaration := .str "[idle] -id a" }] }

/-- The button goes down, the device streams, and a configuration without the gyro mode is read. -/
def reloadedWhileHeld : List Event :=
  [.input { Input.press .zr [] with device := some {} }, .work .pool, .reload plainMode]

/-- Both configurations compile, and the device streams on in the mode that is left. -/
theorem reloadedWhileHeld_streams : ∃ s t, Studio.build pointing {} = .ok s ∧ Studio.build plainMode {} = .ok t ∧
    (run .quiet reloadedWhileHeld s).pool = [] ∧ (run .quiet reloadedWhileHeld s).manager.inGyro = false ∧
    (run .quiet reloadedWhileHeld s).streams = [true] := by
  have hsecond : (Studio.build plainMode {}).toOption.any (fun _ => true) = true := by decide +kernel
  have h : (Studio.build pointing {}).toOption.any (fun s =>
      (run .quiet reloadedWhileHeld s).pool.isEmpty && !(run .quiet reloadedWhileHeld s).manager.inGyro &&
        (run .quiet reloadedWhileHeld s).streams == [true]) = true := by decide +kernel
  obtain ⟨s, hs, hrun⟩ := exists_built h
  obtain ⟨t, ht, _⟩ := exists_built hsecond
  simp only [Bool.and_eq_true, List.isEmpty_iff, Bool.not_eq_true', beq_iff_eq] at hrun
  exact ⟨s, t, hs, ht, hrun.1.1, hrun.1.2, hrun.2⟩

theorem last_stream_on_iff_reloaded : ∃ s, Desk.quiet.ShowsNoStream ∧ Studio.build pointing {} = .ok s ∧
    Studio.pool {} = [] ∧ Studio.streams {} = [] ∧
    (∀ read ∈ configsOf pointing reloadedWhileHeld, read.hasGyroSwitch = false) ∧
    Device.gyroFailure {} = none ∧ (∀ e ∈ reloadedWhileHeld, e.device? = none ∨ e.device? = some {}) ∧
    (run .quiet reloadedWhileHeld s).pool = [] ∧ (run .quiet reloadedWhileHeld s).manager.inGyro = false ∧
    ((run .quiet reloadedWhileHeld s).streams.getLast? = some true ↔ LeftInSilence .quiet s reloadedWhileHeld) := by
  obtain ⟨s, _, hb, _, hidle, hmode, _⟩ := reloadedWhileHeld_streams
  have hcfg : ∀ read ∈ configsOf pointing reloadedWhileHeld, read.hasGyroSwitch = false := by decide +kernel
  have hdev : ∀ e ∈ reloadedWhileHeld, e.device? = none ∨ e.device? = some {} := by
    simp [reloadedWhileHeld, Event.device?]
  exact ⟨s, plain_showsNoStream _, hb, rfl, rfl, hcfg, rfl, hdev, hidle, hmode,
    last_stream_on_iff (plain_showsNoStream _) hb rfl rfl hcfg rfl hdev hidle hmode⟩

/-- **The stream can outlast its mode**: it is not so that in every run of inputs that all come from one working device
and of configurations that compile, once no work waits and the current mode is not a gyro mode, the device was asked
last to stop, if it was asked at all. -/
theorem stream_outlasts_mode : ¬ ∀ (desk : Desk) (cfg : Config) (start s : Studio) (d : Device) (es : List Event),
    desk.ShowsNoStream → Studio.build cfg start = .ok s → start.pool = [] → start.streams = [] →
    (∀ read ∈ configsOf cfg es, read.hasGyroSwitch = false ∧ ∃ t, Studio.build read {} = .ok t) →
    d.gyroFailure = none →
    (∀ e ∈ es, (∃ inp, e = .input inp ∧ inp.device = some d) ∨ (∃ again, e = .reload again) ∨ ∃ q, e = .work q) →
    (run desk es s).pool = [] → (run desk es s).manager.inGyro = false →
    (run desk es s).streams.getLast? = none ∨ (run desk es s).streams.getLast? = some false := by
  intro h
  obtain ⟨s, t, hb, hb', hidle, hmode, hstreams⟩ := reloadedWhileHeld_streams
  have hcfg : ∀ read ∈ configsOf pointing reloadedWhileHeld,
      read.hasGyroSwitch = false ∧ ∃ t, Studio.build read {} = .ok t := by
    intro read hread
    simp only [configsOf, reloadedWhileHeld, List.filterMap_cons, List.filterMap_nil, List.mem_cons,
      List.not_mem_nil, or_false] at hread
    rcases hread with rfl | rfl
    · exact ⟨by decide +kernel, s, hb⟩
    · exact ⟨by decide +kernel, t, hb'⟩
  have hplays : ∀ e ∈ reloadedWhileHeld, (∃ inp, e = .input inp ∧ inp.device = some {}) ∨
      (∃ again, e = .reload again) ∨ ∃ q, e = .work q := by
    simp [reloadedWhileHeld]
  rcases h .quiet pointing {} s {} reloadedWhileHeld (plain_showsNoStream _) hb rfl rfl hcfg rfl hplays hidle hmode with
    hlast | hlast
  · rw [hstreams] at hlast
    exact absurd hlast (by decide)
  · rw [hstreams] at hlast
    exact absurd hlast (by decide)

end PadScribe
