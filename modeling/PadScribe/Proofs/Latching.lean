import PadScribe.Proofs.Events

/-!
# `Proofs.Latching` — switches that see an input

An input passes the switches of a mode one after another, and a modifier that is on changes it for everything
after it. But a modifier changes spoken text, positions and motion samples, and a switch on a button or a stick
zone looks at none of these. So such a switch latches, and puts off its work, as the input says that came to the
mode; and spoken text leaves every one of them as it is.

The switches of a running program are all of this kind (`Running`), and the only inputs that wait in its queue
are spoken.

## Contents

* `Condition.ReadsController`, `Input.Alike`, `alike_apply` — what modifiers leave alone
* `ModeSwitch.latch`, `passAll_latches`, `passAll_spoken` — the switches that an input passes
* `ModeSwitch.Presses`, `latch_told`, `latch_untold` — what they tell the pointer about its buttons
* `Running`, `move_running`, `build_running`, `run_running` — every run of the program
* `Input.press`, `Input.release` — a button goes down or up
-/

namespace PadScribe

/-! ## What modifiers leave alone -/

/-- A condition on a button or a stick zone. -/
def Condition.ReadsController : Condition → Prop
  | button _ _ => True
  | stickZone _ _ => True
  | _ => False

/-- A switch on a button or a stick zone, whether on or off. -/
def Switch.ReadsController (k : Switch) : Prop :=
  k.on.ReadsController ∧ k.off.ReadsController

/-- An input that comes from the same device and meets the same conditions on buttons and stick zones. -/
structure Input.Alike (inp out : Input) : Prop where
  device : out.device = inp.device
  holds : ∀ c, Condition.ReadsController c → c.holds out = c.holds inp

theorem alike_refl (inp : Input) : inp.Alike inp :=
  ⟨rfl, fun _ _ => rfl⟩

/-- An input with another text. -/
theorem alike_speech (inp : Input) (u : Utterance) : inp.Alike { inp with speech := some u } := by
  refine ⟨rfl, fun c hc => ?_⟩
  cases c with
  | speech => exact hc.elim
  | _ => rfl

/-- An input with another motion sample. -/
theorem alike_gyro (inp : Input) (f : GyroFrame) : inp.Alike { inp with gyro := some f } := by
  refine ⟨rfl, fun c hc => ?_⟩
  cases c with
  | gyro => exact hc.elim
  | _ => rfl

/-- An input with the stick at another position. -/
theorem alike_position {inp : Input} {r : StickReport} (h : inp.stick = some r) (p : Position Float) :
    inp.Alike { inp with stick := some { r with position := p } } := by
  refine ⟨rfl, fun c hc => ?_⟩
  cases c with
  | stickMove side => exact hc.elim
  | stickZone side direction => simp [Condition.holds, h]
  | _ => rfl

/-- **Modifiers change nothing that a switch on a button or a stick zone looks at.** -/
theorem alike_apply {m : Modifier} {inp out : Input} (h : m.apply inp = .ok out) : inp.Alike out := by
  cases m with
  | addPrefix lead space =>
      simp only [Modifier.apply, Modifier.applyPrefix] at h
      split at h
      · rename_i u _ _
        cases hp : Modifier.prefixed lead space u.text with
        | error e => rw [hp] at h; exact absurd h (by simp [Except.map])
        | ok text =>
            rw [hp] at h
            obtain rfl := Except.ok.inj h
            exact alike_speech inp ⟨text⟩
      · obtain rfl := Except.ok.inj h
        exact alike_refl inp
  | boost factor =>
      simp only [Modifier.apply, Modifier.applyBoost] at h
      split at h
      · rename_i r _ k _ hr
        obtain rfl := Except.ok.inj h
        exact alike_position hr _
      · exact absurd h (by simp)
      · split at h
        · obtain rfl := Except.ok.inj h
          exact alike_gyro inp _
        · exact absurd h (by simp)
      · exact absurd h (by simp)
      · obtain rfl := Except.ok.inj h
        exact alike_refl inp

theorem change_alike {k : Switch} {inp out : Input} (hk : k.ReadsController) (h : inp.Alike out) :
    k.change out = k.change inp := by
  unfold Switch.change
  rw [h.holds _ hk.1, h.holds _ hk.2]

/-- Spoken text turns no switch on a button or a stick zone on or off. -/
theorem change_spoken {k : Switch} {inp : Input} (hk : k.ReadsController) (h : inp.kind = .speech) :
    k.change inp = .none := by
  have hno : ∀ c : Condition, c.ReadsController → c.holds inp = false := by
    intro c hc
    cases c with
    | button which pressed => simp [Condition.holds, h]
    | stickZone side direction => simp [Condition.holds, h]
    | _ => exact hc.elim
  unfold Switch.change
  rw [hno _ hk.1, hno _ hk.2]
  rfl

/-! ## The switches that an input passes -/

namespace ModeSwitch

/-- The switch once it has seen an input. -/
def latch (inp : Input) (k : ModeSwitch) : ModeSwitch :=
  { k with switch := k.switch.step inp }

theorem latch_eq {k : ModeSwitch} {inp : Input} (h : k.switch.change inp = .none) : k.latch inp = k := by
  unfold latch Switch.step
  rw [h]

theorem tasks_eq_nil {k : ModeSwitch} {inp : Input} (h : k.switch.change inp = .none) : k.tasks inp = [] := by
  unfold tasks
  rw [h]

end ModeSwitch

theorem latch_alike {k : ModeSwitch} {inp out : Input} (hk : k.switch.ReadsController) (h : inp.Alike out) :
    k.latch out = k.latch inp := by
  unfold ModeSwitch.latch Switch.step
  rw [change_alike hk h]

theorem tasks_alike {k : ModeSwitch} {inp out : Input} (hk : k.switch.ReadsController) (h : inp.Alike out) :
    k.tasks out = k.tasks inp := by
  unfold ModeSwitch.tasks Mode.gyroTasks
  rw [change_alike hk h]
  simp only [Option.bind_some, h.device]

theorem alike_modify {k : ModeSwitch} {inp out : Input} (h : k.modify inp = .ok out) : inp.Alike out := by
  have hsame : ∀ {out}, (Except.ok inp : Except Fault Input) = .ok out → inp.Alike out := by
    intro out he
    obtain rfl := Except.ok.inj he
    exact alike_refl inp
  unfold ModeSwitch.modify at h
  split at h
  · split at h
    · exact alike_apply h
    · exact hsame h
  · exact hsame h

/-- **The switches that an input passes** latch, and put off their work, on the input that came: all of them, or
those up to a modifier that fails. -/
theorem passAll_latches {switches : List ModeSwitch} (hs : ∀ k ∈ switches, k.switch.ReadsController)
    (inp : Input) : ∃ n,
      (ModeSwitch.passAll switches inp).1 = (switches.take n).map (ModeSwitch.latch inp) ++ switches.drop n ∧
      (ModeSwitch.passAll switches inp).2.1 = (switches.take n).flatMap (ModeSwitch.tasks · inp) ∧
      ∀ out, (ModeSwitch.passAll switches inp).2.2 = .ok out → switches.length ≤ n := by
  induction switches generalizing inp with
  | nil => exact ⟨0, rfl, rfl, fun _ _ => Nat.le_refl _⟩
  | cons k rest ih =>
      have hrest : ∀ k ∈ rest, k.switch.ReadsController := fun k hk => hs k (List.mem_cons_of_mem _ hk)
      simp only [ModeSwitch.passAll]
      cases hm : ModeSwitch.modify { k with switch := k.switch.step inp } inp with
      | error e =>
          -- a modifier fails: the switches after it have not seen the input
          refine ⟨1, rfl, ?_, fun out h => absurd h (by simp)⟩
          simp
      | ok changed =>
          have hlike : inp.Alike changed := alike_modify hm
          obtain ⟨n, hlatched, htasks, hall⟩ := ih hrest changed
          have hl : (rest.take n).map (ModeSwitch.latch changed) = (rest.take n).map (ModeSwitch.latch inp) :=
            List.map_congr_left fun k hk => latch_alike (hrest k (List.mem_of_mem_take hk)) hlike
          have ht : (rest.take n).flatMap (ModeSwitch.tasks · changed)
              = (rest.take n).flatMap (ModeSwitch.tasks · inp) :=
            List.flatMap_congr fun k hk => tasks_alike (hrest k (List.mem_of_mem_take hk)) hlike
          refine ⟨n + 1, ?_, ?_, fun out h => ?_⟩
          · simp only [hlatched, hl, List.take_succ_cons, List.map_cons, List.drop_succ_cons,
              List.cons_append]
            rfl
          · simp only [htasks, ht, List.take_succ_cons, List.flatMap_cons]
          · have hlen := hall out h
            simpa using hlen

/-- **Spoken text** leaves the switches as they are and gives them no work. -/
theorem passAll_spoken {switches : List ModeSwitch} (hs : ∀ k ∈ switches, k.switch.ReadsController)
    {inp : Input} (h : inp.kind = .speech) :
    (ModeSwitch.passAll switches inp).1 = switches ∧ (ModeSwitch.passAll switches inp).2.1 = [] := by
  obtain ⟨n, hlatched, htasks, _⟩ := passAll_latches hs inp
  have hnone : ∀ k ∈ switches.take n, k.switch.change inp = .none := fun k hk =>
    change_spoken (hs k (List.mem_of_mem_take hk)) h
  refine ⟨?_, ?_⟩
  · have hsame : (switches.take n).map (ModeSwitch.latch inp) = switches.take n :=
      (List.map_congr_left fun k hk => ModeSwitch.latch_eq (hnone k hk)).trans (List.map_id _)
    rw [hlatched, hsame, List.take_append_drop]
  · rw [htasks]
    exact List.flatMap_eq_nil_iff.mpr fun k hk => ModeSwitch.tasks_eq_nil (hnone k hk)

/-! ## What the switches tell the pointer -/

/-- A switch that is on and keeps a button of the pointer pressed. -/
def ModeSwitch.Presses (b : Option PointerButton) (k : ModeSwitch) : Prop :=
  k.hold = .pointer b ∧ k.switch.isOn = true

instance (h : Hold) (b : Option PointerButton) : Decidable (h = .pointer b) :=
  match h with
  | .pointer c => decidable_of_iff (c = b) (by simp)
  | .modify _ => isFalse (by simp)
  | .gyro => isFalse (by simp)

instance (b : Option PointerButton) (k : ModeSwitch) : Decidable (k.Presses b) :=
  inferInstanceAs (Decidable (_ ∧ _))

/-- The last word of the work of a row of switches about a button. -/
def toldBy (b : Option PointerButton) (inp : Input) (switches : List ModeSwitch) : Option Bool :=
  lastTold b ((switches.flatMap (ModeSwitch.tasks · inp)).filterMap Task.grip?)

theorem toldBy_cons (b : Option PointerButton) (inp : Input) (k : ModeSwitch) (rest : List ModeSwitch) :
    toldBy b inp (k :: rest)
      = (toldBy b inp rest).or (lastTold b ((k.tasks inp).filterMap Task.grip?)) := by
  unfold toldBy
  rw [List.flatMap_cons, List.filterMap_append, lastTold_append]

/-- Switching the motion stream tells the pointer nothing. -/
theorem gyroTasks_grips (inp : Option Input) (on : Bool) :
    (Mode.gyroTasks inp on).filterMap Task.grip? = [] :=
  List.filterMap_eq_nil_iff.mpr fun t ht => (gyroTasks_plain t ht).2

theorem toggle_told (b button : Option PointerButton) (on : Bool) :
    lastTold b ([Task.toggle button on].filterMap Task.grip?) = if button = b then some on else none :=
  lastTold_singleton b (.toggle button on)

/-- **What one switch tells the pointer** about a button: nothing, unless it is a switch of that button which the
input turns on or off. -/
theorem tasks_told (b : Option PointerButton) (k : ModeSwitch) (inp : Input) :
    lastTold b ((k.tasks inp).filterMap Task.grip?) = none ∧ (k.hold = .pointer b → k.latch inp = k) ∨
      lastTold b ((k.tasks inp).filterMap Task.grip?) = some (k.latch inp).switch.isOn ∧ k.hold = .pointer b := by
  obtain ⟨switch, hold⟩ := k
  unfold ModeSwitch.tasks ModeSwitch.latch Switch.step
  cases hold with
  | modify m => exact .inl ⟨by cases switch.change inp <;> rfl, fun h => absurd h (by simp)⟩
  | gyro =>
      refine .inl ⟨?_, fun h => absurd h (by simp)⟩
      cases switch.change inp <;> simp [gyroTasks_grips]
  | pointer button =>
      by_cases hb : button = b
      · rw [hb]
        cases switch.change inp with
        | none => exact .inl ⟨rfl, fun _ => rfl⟩
        | on => exact .inr ⟨(toggle_told b b true).trans (if_pos rfl), rfl⟩
        | off => exact .inr ⟨(toggle_told b b false).trans (if_pos rfl), rfl⟩
      · refine .inl ⟨?_, fun h => absurd (Hold.pointer.inj h) hb⟩
        cases switch.change inp <;> simp [toggle_told, hb]

/-- **A press comes from a switch that the input turned on.** -/
theorem latch_told {b : Option PointerButton} {inp : Input} {switches : List ModeSwitch}
    (h : toldBy b inp switches = some true) : ∃ k ∈ switches, (k.latch inp).Presses b := by
  induction switches with
  | nil => exact absurd h (by simp [toldBy])
  | cons k rest ih =>
      rw [toldBy_cons] at h
      cases hr : toldBy b inp rest with
      | some down =>
          rw [hr, Option.some_or] at h
          obtain ⟨k', hk', hp⟩ := ih (hr.trans h)
          exact ⟨k', List.mem_cons_of_mem _ hk', hp⟩
      | none =>
          rw [hr, Option.none_or] at h
          rcases tasks_told b k inp with ⟨hnone, _⟩ | ⟨hsome, hhold⟩
          · exact absurd (hnone.symm.trans h) (by simp)
          · exact ⟨k, List.mem_cons_self, hhold, Option.some.inj (hsome.symm.trans h)⟩

/-- **Switches that tell nothing about a button** leave the switches of that button as they are. -/
theorem latch_untold {b : Option PointerButton} {inp : Input} {switches : List ModeSwitch}
    (h : toldBy b inp switches = none) : ∀ k ∈ switches, k.hold = .pointer b → k.latch inp = k := by
  induction switches with
  | nil => exact fun k hk => absurd hk (by simp)
  | cons k rest ih =>
      rw [toldBy_cons, Option.or_eq_none_iff] at h
      intro k' hk' hhold
      rcases List.mem_cons.mp hk' with rfl | hk'
      · rcases tasks_told b k' inp with ⟨_, hkeep⟩ | ⟨hsome, _⟩
        · exact hkeep hhold
        · exact absurd (hsome.symm.trans h.2) (by simp)
      · exact ih h.1 k' hk' hhold

/-! ## Programs as they run -/

/-- The switches of the modes look at buttons and stick zones only. -/
def Manager.ReadsController (m : Manager) : Prop :=
  ∀ mode ∈ m.modes, ∀ k ∈ mode.switches, k.switch.ReadsController

/-- **A program as it runs**: its modes are wired, their switches look at buttons and stick zones only, and the
inputs that wait in the queue are spoken. -/
structure Running (s : Studio) : Prop where
  wired : Wired s
  switches : s.manager.ReadsController
  spoken : ∀ t ∈ s.pool, ∀ inp, t.input? = some inp → inp.kind = .speech

variable {desk : Desk} {may : Mark → Prop} {s s' : Studio}

theorem readsController_setup (m : Manager) : m.setup.ReadsController ↔ m.ReadsController := by
  simp only [Manager.ReadsController, Manager.setup, List.mem_map, Mode.rest, Mode.left, Mode.entered,
    forall_exists_index, and_imp, forall_apply_eq_imp_iff₂]
  rfl

/-- Managers with one setup have switches on the same conditions. -/
theorem readsController_of_setup {m m' : Manager} (h : m'.setup = m.setup) (hm : m.ReadsController) :
    m'.ReadsController := by
  rwa [← readsController_setup, h, readsController_setup]

theorem readsController_of_ofController {k : Switch} (h : k.OfController) : k.ReadsController := by
  rcases h with ⟨which, rfl⟩ | ⟨side, direction, rfl⟩
  · exact ⟨trivial, trivial⟩
  · exact ⟨trivial, trivial⟩

/-- Work that hands on no input keeps the inputs that wait spoken. -/
theorem spoken_append {ts us : List Task} (h : ∀ t ∈ ts, ∀ inp, t.input? = some inp → inp.kind = .speech)
    (hu : ∀ t ∈ us, t.input? = none) : ∀ t ∈ ts ++ us, ∀ inp, t.input? = some inp → inp.kind = .speech := by
  intro t ht inp hi
  rcases List.mem_append.mp ht with ht | ht
  · exact h t ht inp hi
  · exact absurd ((hu t ht).symm.trans hi) (by simp)

/-- Moves keep a running program running. -/
theorem move_running (h : Move desk may s s') (hr : Running s) : Running s' := by
  refine ⟨move_wired h hr.wired, readsController_of_setup (move_setup h) hr.switches, ?_⟩
  have hone : ∀ t : Task, (∀ inp, t.input? = some inp → inp.kind = .speech) →
      ∀ u ∈ s.pool ++ [t], ∀ inp, u.input? = some inp → inp.kind = .speech := by
    intro t ht u hu inp hi
    rcases List.mem_append.mp hu with hu | hu
    · exact hr.spoken u hu inp hi
    · exact ht inp (List.mem_singleton.mp hu ▸ hi)
  cases h with
  | pass id mode inp _ _ _ _ => exact spoken_append hr.spoken (passAll_quiet _ _)
  | putOff ts plain => exact spoken_append hr.spoken fun t ht => (plain t ht).1
  | speak text _ => exact hone _ fun inp hi => Option.some.inj hi ▸ rfl
  | replayLast _ => exact hone _ fun inp hi => Option.some.inj hi ▸ rfl
  | replaySaid text _ _ => exact hone _ fun inp hi => Option.some.inj hi ▸ rfl
  | hear text _ => exact hone _ fun inp hi => Option.some.inj hi ▸ rfl
  | takeWork _ => exact fun t ht => hr.spoken t (List.mem_of_mem_tail ht)
  | _ => exact hr.spoken

theorem moves_running (h : Moves desk may s s') (hr : Running s) : Running s' := by
  induction h with
  | refl => exact hr
  | tail _ hm ih => exact move_running hm ih

/-- The same modes with less work in the queue. -/
theorem running_of_manager (hr : Running s) (hm : s'.manager = s.manager) (hp : s'.pool ⊆ s.pool) : Running s' :=
  ⟨wired_of_manager hr.wired hm, hm ▸ hr.switches, fun t ht => hr.spoken t (hp ht)⟩

theorem handed_running (inp : Input) (hr : Running s) : Running (handed inp s) :=
  running_of_manager hr rfl (List.Subset.refl _)

theorem walk_running {said : String → Prop} {is : List Input} (h : Walk desk said s is s') (hr : Running s) :
    Running s' := by
  induction h with
  | refl => exact hr
  | move _ hm ih => exact move_running hm ih
  | hand _ inp ih => exact handed_running inp ih

theorem installed_running {modes : List Mode} {shifts : List Shift} {first : Mode} (hf : first ∈ modes.head?)
    {cfg : Config} (hc : Compiled cfg modes shifts)
    (hs : ∀ t ∈ s.pool, ∀ inp, t.input? = some inp → inp.kind = .speech) :
    Running (s.installed modes shifts first) := by
  refine ⟨installed_wired hf hc, readsController_of_setup (setup_enteredOf _ first.id) ?_, ?_⟩
  · exact fun mode hmode k hk => readsController_of_ofController (hc.switches mode hmode k hk)
  · refine spoken_append (spoken_append hs ?_) ?_
    · exact fun t ht => (exitTasks_plain t ht).1
    · exact fun t ht => (enterTasks_plain t ht).1

/-- **A program that is built** from an empty queue runs. -/
theorem build_running {cfg : Config} {start : Studio} (h : Studio.build cfg start = .ok s)
    (hs : start.pool = []) : Running s := by
  obtain ⟨made, modes, shifts, first, hf, hc, rfl⟩ := build_installed h
  have hi : Running ((start.withRecognizers made).installed modes shifts first) :=
    installed_running hf hc (by simp [Studio.withRecognizers, hs])
  exact ⟨build_wired h, hi.switches, hi.spoken⟩

theorem reload_running (cfg : Config) (hr : Running s) : Running (after (reload cfg) s) := by
  have hw : Wired (after (reload cfg) s) := reload_wired cfg hr.wired
  rcases reload_cases cfg s with ⟨made, fault, h⟩ | ⟨made, modes, shifts, first, hf, hc, h⟩
  · rw [after_error h] at hw ⊢
    exact ⟨hw, hr.switches, hr.spoken⟩
  · rw [after_ok h] at hw ⊢
    have hi : Running ((s.withRecognizers made).installed modes shifts first) :=
      installed_running hf (compileRules_compiled hc).2 hr.spoken
    exact ⟨hw, hi.switches, hi.spoken⟩

theorem act_running (e : Event) (hr : Running s) : Running (after (e.act desk) s) := by
  by_cases he : ∃ cfg, e = .reload cfg
  · obtain ⟨cfg, rfl⟩ := he
    exact reload_running cfg hr
  · obtain ⟨is, hwalk, _⟩ : ∃ is, Walk desk (fun _ => True) s is (after (e.act desk) s) ∧ _ :=
      act_walk (fun cfg h => he ⟨cfg, h⟩) hr.wired fun _ _ _ _ _ => trivial
    exact walk_running hwalk hr

/-- **Every run keeps a running program running.** -/
theorem run_running (es : List Event) (hr : Running s) : Running (run desk es s) :=
  afterAll_keep (fun e _ => act_running e) es hr

/-! ## One button -/

/-- A button goes down while others are held. -/
def Input.press (which : Button) (others : List Button) : Input :=
  { kind := .button
    button := some { down := .ofButtons [which], up := {}, current := .ofButtons (which :: others) } }

/-- A button goes up while others are held. -/
def Input.release (which : Button) (others : List Button) : Input :=
  { kind := .button, button := some { down := {}, up := .ofButtons [which], current := .ofButtons others } }

end PadScribe
