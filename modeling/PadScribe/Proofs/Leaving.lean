import Mathlib.Data.List.Induction
import Mathlib.Data.List.Infix
import PadScribe.Proofs.Steering
import PadScribe.Proofs.Work

/-!
# `Proofs.Leaving` — modes that are left by letting a button go

Where only shifts on buttons lead out of the default mode, another mode is current because a button went down, and
it is left when that button goes up. Two things could come between: another input that changes the way back, and
the gate, which drops every input while the program is off. The first does not happen, since only a shift that
leads out of the default mode sets the way back. The second does: a release that is reported while the program is
off is never seen. So a mode that is current has a button that was not reported released since the mode was
entered, apart from reports that came while the program was off.

## Contents

* `leavesModes_work` — work that leaves the modes alone
* `Manager.StaysHome` — a default mode none of whose triggers enters a mode
* `handle_home`, `handle_back`, `handle_away` — one input
* `Event.buttons`, `Event.OfButtons`, `report_on`, `report_off`, `work_hands` — reports of buttons and the gate
* `EnteredBy`, `UnreleasedSince`, `Kept` — a mode that a button entered and keeps
* `act_enters`, `act_keeps`, **`left_by_button`** — one event, and every run
-/

namespace PadScribe

variable {desk : Desk} {may : Mark → Prop} {s s' : Studio}

/-! ## Work that leaves the modes alone -/

/-- **Work that hands on no input leaves the modes alone.** -/
theorem leavesModes_work :
    WorkClass desk (fun x s => (after x s).manager = s.manager) (.asking fun _ => True) :=
  leaves_work desk Studio.manager (fun _ _ => rfl) (fun _ _ => rfl) fun _ _ => rfl

theorem line_asks (line : SpeechLine) : line.Asks fun _ => True := fun _ _ => trivial

theorem recordFailure_manager (x : Step Unit) (s : Studio) :
    (after (recordFailure x) s).manager = (after x s).manager := by
  obtain ⟨es, h⟩ := after_recordFailure x s
  rw [h]

/-! ## What triggers leave alone -/

/-- Moves that enter no mode leave the current mode current. -/
theorem moves_current (hno : ∀ id, ¬ may (.enter id)) (h : Moves desk may s s') :
    s'.manager.current = s.manager.current := by
  induction h with
  | refl => rfl
  | tail _ hm ih =>
      cases hm with
      | latch m _ current _ _ => exact current.trans ih
      | enter id _ allowed => exact absurd allowed (hno id)
      | _ => exact ih

theorem switchTo_exit (id : String) (inp : Option Input) (s : Studio) :
    (after (switchTo id inp) s).manager.exit = s.manager.exit := by
  cases hf : s.manager.find? id with
  | none => rw [after_error (switchTo_unknown hf)]
  | some mode =>
      rw [after_ok (switchTo_found hf)]
      exact exit_enteredOf s.manager id

/-- No trigger touches the way back, even one that enters a mode. -/
theorem action_exit (a : Action) (inp : Input) (s : Studio) :
    (after (a.run desk inp) s).manager.exit = s.manager.exit := by
  by_cases ha : ∃ id, a = .enterMode id
  · obtain ⟨id, rfl⟩ := ha
    cases id with
    | none => rfl
    | some id =>
        refine after_tryCatch_rel (R := fun s t => t.manager.exit = s.manager.exit) (fun h h' => h'.trans h)
          (switchTo_exit id _ s) fun e t _ => ?_
        -- a mode that is not there is warned about, and every other failure goes on
        cases e <;> rfl
  · rw [action_manager (fun id h => ha ⟨id, h⟩)]

theorem runTriggers_exit (ts : List Trigger) (inp : Input) (s : Studio) :
    (after (runTriggers desk inp ts) s).manager.exit = s.manager.exit := by
  induction ts generalizing s with
  | nil => rfl
  | cons t rest ih =>
      simp only [runTriggers]
      split
      · exact after_bind_rel (R := fun s t => t.manager.exit = s.manager.exit) (fun h h' => h'.trans h)
          (action_exit t.action inp s) fun _ u _ => ih u
      · exact ih s

theorem passMode_exit (id : String) (inp : Input) (s : Studio) :
    (after (passMode desk id inp) s).manager.exit = s.manager.exit := by
  cases h : s.manager.find? id with
  | none => rw [after_ok (passMode_unknown inp h)]
  | some mode =>
      have hpass := passMode_found desk inp h
      cases ho : (ModeSwitch.passAll mode.switches inp).2.2 with
      | error fault =>
          rw [ho] at hpass
          rw [after_error hpass]
          rfl
      | ok out =>
          rw [ho] at hpass
          rw [after_eq hpass]
          exact runTriggers_exit mode.triggers out _

/-! ## One input -/

/-- No trigger of the default mode enters a mode. -/
def Manager.StaysHome (m : Manager) : Prop :=
  ∀ id mode, m.home = some id → m.find? id = some mode →
    ∀ t ∈ mode.triggers, ∀ target, t.action ≠ .enterMode (some target)

theorem staysHome_of_setup {m m' : Manager} (h : m'.setup = m.setup) (hm : m.StaysHome) : m'.StaysHome := by
  intro id mode hid hf t ht
  have hrest : (m.find? id).map Mode.rest = some mode.rest := by
    rw [← find_setup, ← h, find_setup, hf]
    rfl
  obtain ⟨mode', hf', hsame⟩ := Option.map_eq_some_iff.mp hrest
  have htriggers : mode'.triggers = mode.triggers := by
    rw [← rest_triggers, hsame, rest_triggers]
  exact hm id mode' ((home_of_setup h).symm.trans hid) hf' t (htriggers ▸ ht)

theorem handle_steered {inp : Input} {t : Studio} (h : steer desk inp (handed inp s) = .ok none t) :
    after (handle desk inp) s = t := by
  refine after_ok (a := ()) ?_
  rw [handle_apply, h]

theorem handle_passed {inp : Input} {id : String} {t : Studio}
    (h : steer desk inp (handed inp s) = .ok (some id) t) :
    after (handle desk inp) s = after (passMode desk id inp) t := by
  refine after_eq ?_
  rw [handle_apply, h]

/-- **An input in the default mode**: it stays current, or the first shift that the input turns on leads to its
mode and sets the way back. -/
theorem handle_home (hb : s.manager.Sound) (hw : Wired s) (hs : s.manager.StaysHome)
    (hhome : s.manager.current = s.manager.home) (inp : Input) :
    (after (handle desk inp) s).manager.current = s.manager.home ∨
      ∃ k, s.manager.shifts.find? (·.switch.on.holds inp) = some k ∧
        (after (handle desk inp) s).manager.current = k.target ∧
        (after (handle desk inp) s).manager.exit = some k.switch.off := by
  obtain ⟨id, hid, _⟩ := exists_home hb
  have hc : s.manager.current = some id := hhome.trans hid
  cases hk : s.manager.shifts.find? (·.switch.on.holds inp) with
  | some k =>
      cases ht : k.target with
      | none =>
          obtain ⟨fault, t, hsteer, hcur⟩ := steer_nowhere desk (s := handed inp s) hb hid hc hk ht
          have hfails : handle desk inp s = .error fault t := by rw [handle_apply, hsteer]
          rw [after_error hfails]
          exact .inl (hcur.trans hid.symm)
      | some target =>
          obtain ⟨t, hsteer, hcur, hexit⟩ := steer_led desk (s := handed inp s) hb hid hc hk ht
          rw [handle_steered hsteer]
          by_cases hmem : target ∈ s.manager.modes.map Mode.id
          · exact .inr ⟨k, rfl, hcur.trans ((if_pos hmem).trans ht.symm), hexit⟩
          · exact .inl (hcur.trans ((if_neg hmem).trans hid.symm))
  | none =>
      -- the input comes to the default mode, whose triggers enter no mode
      have hon : ∀ k ∈ s.manager.shifts, k.switch.on.holds inp = false := by
        intro k hmem
        simpa using List.find?_eq_none.mp hk k hmem
      obtain ⟨mode, hmode⟩ := exists_homeMode hb hid
      obtain ⟨t, fresh, hsteer, _, hfresh, _, htriggers⟩ :=
        steer_ends desk (s := handed inp s) hid hc hmode hon
      have hmoves : Moves desk (fun _ => True) (handed inp s) t := by
        rw [← after_ok hsteer]
        exact steer_moves (fun _ => trivial) inp _
      have hn : (t.manager.modes.map Mode.id).Nodup := nodup_of_setup (moves_setup hmoves) hw.nodup
      have hpass : Moves desk (fun _ => False) (latched id fresh inp t) (after (passMode desk id inp) t) := by
        refine passMode_latched hn hfresh fun out _ trigger htrigger _ target ha => ?_
        exact hs id mode hid hmode trigger (htriggers ▸ htrigger) target ha
      rw [handle_passed hsteer, moves_current (fun _ h => h) hpass]
      exact .inl ((steer_current hsteer).trans hid.symm)

/-- **The way back** leads to the default mode. -/
theorem handle_back (desk : Desk) (hb : s.manager.Sound) (hw : Wired s)
    (haway : s.manager.current ≠ s.manager.home) {inp : Input} {c : Condition} (hx : s.manager.exit = some c)
    (h : c.holds inp = true) :
    (after (handle desk inp) s).manager.current = s.manager.home := by
  obtain ⟨mode, hmode⟩ := Option.isSome_iff_exists.mp hw.current
  obtain ⟨id, hid, _⟩ := Option.bind_eq_some_iff.mp hmode
  obtain ⟨t, hsteer, hcur⟩ := steer_back desk (s := handed inp s) hb hid (fun hh => haway (hid.trans hh.symm)) hx h
  rw [handle_steered hsteer]
  exact hcur

/-- **An input away from the default mode** that does not meet the way back leaves it as it is. -/
theorem handle_away (hw : Wired s) (haway : s.manager.current ≠ s.manager.home)
    {inp : Input} {c : Condition} (hx : s.manager.exit = some c) (h : c.holds inp = false) :
    (after (handle desk inp) s).manager.exit = some c := by
  obtain ⟨mode, hmode⟩ := Option.isSome_iff_exists.mp hw.current
  obtain ⟨id, hid, _⟩ := Option.bind_eq_some_iff.mp hmode
  have hsteer : steer desk inp (handed inp s) = .ok (some id) (handed inp s) := by
    refine steer_stays desk hid (fun hh => haway (hid.trans hh.symm)) fun c' hc' => ?_
    obtain rfl : c = c' := Option.some.inj (hx.symm.trans hc')
    exact h
  rw [handle_passed hsteer, passMode_exit]
  exact hx

/-! ## Events -/

/-- A report of buttons. -/
def Event.buttons (device : Option Device) (r : ButtonReport) : Event :=
  .report device (.button r.down r.up r.current)

/-- The input of a report of buttons. -/
def Input.buttons (device : Option Device) (r : ButtonReport) : Input :=
  { kind := .button, device, button := some r }

/-- What makes up a run of button reports: the reports, the switch of the user, and work that was put off. -/
def Event.OfButtons : Event → Prop
  | report _ (.button _ _ _) => True
  | enable _ => True
  | toggle => True
  | work _ => True
  | _ => False

/-- Every shift is on a button. -/
def Manager.OnButtons (m : Manager) : Prop :=
  ∀ k ∈ m.shifts, ∃ which, k.switch.reset = .ofButton which

theorem onButtons_of_setup {m m' : Manager} (h : m'.setup = m.setup) (hm : m.OnButtons) : m'.OnButtons := by
  intro k hk
  have hshifts : m'.shifts.map Shift.rest = m.shifts.map Shift.rest := congrArg Manager.shifts h
  have hmem : k.rest ∈ m.shifts.map Shift.rest := hshifts ▸ List.mem_map.mpr ⟨k, hk, rfl⟩
  obtain ⟨k₀, hk₀, hrest⟩ := List.mem_map.mp hmem
  obtain ⟨which, hwhich⟩ := hm k₀ hk₀
  have hswitch : k₀.switch.reset = k.switch.reset := congrArg Shift.switch hrest
  exact ⟨which, hswitch ▸ hwhich⟩

/-- A press is reported while the program is on: the modes are handed it. -/
theorem report_on (desk : Desk) (hon : s.control.enabled = true) (device : Option Device) (r : ButtonReport) :
    ∃ t : Studio, t.manager = s.manager ∧
      after ((Event.buttons device r).act desk) s = after (handle desk (.buttons device r)) t := by
  exact ⟨{ s with observedEnabled := true }, rfl, after_eq (dispatch_on _ hon)⟩

/-- A press is reported while the program is off: the modes never see it. -/
theorem report_off (hoff : s.control.enabled = false) (device : Option Device) (r : ButtonReport) :
    (after ((Event.buttons device r).act desk) s).manager = s.manager := by
  show (after (dispatch desk (.buttons device r)) s).manager = s.manager
  rw [dispatch_off _ hoff]
  exact (guard_keeps s).1

/-- **The head of a queue** leaves the modes alone, or hands them spoken text. -/
theorem work_hands (desk : Desk) (hr : Running s) (q : Queue) :
    (after (runHead desk q) s).manager = s.manager ∨
      ∃ inp t, inp.kind = .speech ∧ t.manager = s.manager ∧
        (after (runHead desk q) s).manager = (after (handle desk inp) t).manager := by
  cases q with
  | pool =>
      cases hq : s.pool with
      | nil =>
          rw [runHead_pool_empty hq]
          exact .inl rfl
      | cons task rest =>
          rw [runHead_pool hq, recordFailure_manager]
          cases hi : task.input? with
          | some inp =>
              rw [work_handles hi]
              exact .inr ⟨inp, { s with pool := rest }, hr.spoken task (hq ▸ List.mem_cons_self) inp hi, rfl, rfl⟩
          | none => exact .inl (leavesModes_work.run hi (fun line _ => line_asks line) (fun _ => trivial) _)
  | speech =>
      cases hq : s.speech with
      | nil =>
          rw [runHead_speech_empty hq]
          exact .inl rfl
      | cons commands rest =>
          rw [runHead_speech hq, recordFailure_manager]
          exact .inl (leavesModes_work.perform (fun _ _ => trivial) [] _)

/-- **How the default mode is left**: by a report that comes while the program is on, through the first shift that
it turns on. -/
theorem act_enters (hr : Running s) (hb : s.manager.Sound) (hs : s.manager.StaysHome) (hk : s.manager.OnButtons)
    (hhome : s.manager.current = s.manager.home) {e : Event} (he : e.OfButtons)
    (haway : (after (e.act desk) s).manager.current ≠ s.manager.home) :
    ∃ device r k, e = .buttons device r ∧ s.control.enabled = true ∧
      s.manager.shifts.find? (·.switch.on.holds (.buttons device r)) = some k ∧
      (after (e.act desk) s).manager.current = k.target ∧
      (after (e.act desk) s).manager.exit = some k.switch.off := by
  cases e with
  | report device report =>
      cases report with
      | button down up current =>
          have hbuttons : Event.report device (.button down up current) =
              .buttons device ⟨down, up, current⟩ := rfl
          rw [hbuttons] at haway ⊢
          cases hon : s.control.enabled with
          | false =>
              rw [report_off hon] at haway
              exact absurd hhome haway
          | true =>
              obtain ⟨t, hm, ht⟩ := report_on desk hon device ⟨down, up, current⟩
              rw [ht] at haway ⊢
              rw [← hm] at hb hs hhome haway ⊢
              have hw : Wired t := wired_of_manager hr.wired hm
              rcases handle_home hb hw hs hhome (.buttons device ⟨down, up, current⟩) with
                hstay | ⟨k, hfirst, hrest⟩
              · exact absurd hstay haway
              · exact ⟨device, _, k, rfl, rfl, hfirst, hrest⟩
      | _ => exact he.elim
  | enable on => exact absurd hhome haway
  | toggle => exact absurd hhome haway
  | work q =>
      rcases work_hands desk hr q with hsame | ⟨inp, t, hspeech, hm, ht⟩
      · exact absurd ((congrArg Manager.current hsame).trans hhome) haway
      · -- spoken text turns no shift on
        have hcur : (after ((Event.work q).act desk) s).manager = (after (handle desk inp) t).manager := ht
        rw [hcur] at haway
        rw [← hm] at hb hs hhome haway hk
        rcases handle_home hb (wired_of_manager hr.wired hm) hs hhome inp with hstay | ⟨k, hfirst, _⟩
        · exact absurd hstay haway
        · obtain ⟨which, hwhich⟩ := hk k (List.mem_of_find?_eq_some hfirst)
          have hon : k.switch.on = .button which true := congrArg Switch.on hwhich
          have hholds := List.find?_some hfirst
          simp [hon, Condition.holds, hspeech] at hholds
  | _ => exact he.elim

/-- **What keeps another mode current**: the way back stays as it is, and no report of the program while it was on
said that its button was released. -/
theorem act_keeps (hr : Running s) (hb : s.manager.Sound) (hne : s.manager.current ≠ s.manager.home)
    {which : Button} (hx : s.manager.exit = some (.button which false)) {e : Event} (he : e.OfButtons)
    (haway : (after (e.act desk) s).manager.current ≠ s.manager.home) :
    (after (e.act desk) s).manager.exit = some (.button which false) ∧
      ∀ device r, e = .buttons device r → s.control.enabled = true → r.up.has which = false := by
  cases e with
  | report device report =>
      cases report with
      | button down up current =>
          have hbuttons : Event.report device (.button down up current) =
              .buttons device ⟨down, up, current⟩ := rfl
          rw [hbuttons] at haway ⊢
          cases hon : s.control.enabled with
          | false =>
              rw [report_off hon]
              exact ⟨hx, fun _ _ _ h => absurd h (by simp)⟩
          | true =>
              obtain ⟨t, hm, ht⟩ := report_on desk hon device ⟨down, up, current⟩
              rw [ht] at haway ⊢
              rw [← hm] at hb hne hx haway
              have hw : Wired t := wired_of_manager hr.wired hm
              cases hup : up.has which with
              | true =>
                  have hholds : (Condition.button which false).holds
                      (.buttons device ⟨down, up, current⟩) = true := hup
                  exact absurd (handle_back desk hb hw hne hx hholds) haway
              | false =>
                  refine ⟨handle_away hw hne hx hup, fun device' r h _ => ?_⟩
                  obtain ⟨_, hreport⟩ := Event.report.inj h
                  obtain ⟨_, rfl, _⟩ := Report.button.inj hreport
                  exact hup
      | _ => exact he.elim
  | enable on => exact ⟨hx, fun _ _ h => absurd h (by simp [Event.buttons])⟩
  | toggle => exact ⟨hx, fun _ _ h => absurd h (by simp [Event.buttons])⟩
  | work q =>
      refine ⟨?_, fun _ _ h => absurd h (by simp [Event.buttons])⟩
      rcases work_hands desk hr q with hsame | ⟨inp, t, hspeech, hm, ht⟩
      · exact (congrArg Manager.exit hsame).trans hx
      · have hexit : (after ((Event.work q).act desk) s).manager.exit = (after (handle desk inp) t).manager.exit :=
          congrArg Manager.exit ht
        rw [← hm] at hne hx
        rw [hexit]
        exact handle_away (wired_of_manager hr.wired hm) hne hx (by simp [Condition.holds, hspeech])
  | _ => exact he.elim

/-! ## Every run -/

/-- **How the current mode was entered.** After the events `before` the default mode was current; then `r` was
reported, and the first shift that it turned on, which is on the button `which`, led to its mode. The default mode
has not been current since. -/
structure EnteredBy (desk : Desk) (s : Studio) (before : List Event) (device : Option Device) (r : ButtonReport)
    (since : List Event) (k : Shift) (which : Button) : Prop where
  home : (run desk before s).manager.current = s.manager.home
  first : s.manager.shifts.find? (·.switch.on.holds (.buttons device r)) = some k
  button : k.switch.reset = .ofButton which
  entered : (run desk (before ++ [.buttons device r]) s).manager.current = k.target
  away : ∀ mid, mid <+: since →
    (run desk (before ++ .buttons device r :: mid) s).manager.current ≠ s.manager.home

/-- No event since another, at a time at which the program was on, reported that a button was released. -/
def UnreleasedSince (desk : Desk) (s : Studio) (before : List Event) (e : Event) (since : List Event)
    (which : Button) : Prop :=
  ∀ mid device r, mid ++ [.buttons device r] <+: since →
    (run desk (before ++ e :: mid) s).control.enabled = true → r.up.has which = false

/-- A mode that is current because of a button, which leads back when it is released. -/
structure Kept (desk : Desk) (s : Studio) (before : List Event) (device : Option Device) (r : ButtonReport)
    (since : List Event) (k : Shift) (which : Button) : Prop where
  entered : EnteredBy desk s before device r since k which
  on : (run desk before s).control.enabled = true
  unreleased : UnreleasedSince desk s before (.buttons device r) since which
  exit : (run desk (before ++ .buttons device r :: since) s).manager.exit = some (.button which false)

/-- The events of a run of button reports read no configuration. -/
theorem ofButtons_keeps {e : Event} (he : e.OfButtons) : ∀ cfg, e ≠ .reload cfg := by
  rintro cfg rfl
  exact he

/-- The first shift that an input turns on is the same throughout a run. -/
theorem first_of_setup {m m' : Manager} (h : m'.setup = m.setup) {inp : Input} {k' : Shift}
    (hk : m'.shifts.find? (·.switch.on.holds inp) = some k') :
    ∃ k, m.shifts.find? (·.switch.on.holds inp) = some k ∧ k'.target = k.target ∧
      k'.switch.off = k.switch.off := by
  have hfind := find_installed (congrArg Manager.shifts h) inp
  rw [hk] at hfind
  obtain ⟨k, hsome, hrest⟩ := Option.map_eq_some_iff.mp hfind.symm
  exact ⟨k, hsome, shift_of_rest hrest.symm⟩

/-- A run of button reports that has just left the default mode. -/
theorem kept_start {es : List Event} {device : Option Device} {r : ButtonReport} {k : Shift} {which : Button}
    (hhome : (run desk es s).manager.current = s.manager.home) (hon : (run desk es s).control.enabled = true)
    (hfirst : s.manager.shifts.find? (·.switch.on.holds (.buttons device r)) = some k)
    (hwhich : k.switch.reset = .ofButton which)
    (hcur : (run desk (es ++ [.buttons device r]) s).manager.current = k.target)
    (hexit : (run desk (es ++ [.buttons device r]) s).manager.exit = some (.button which false))
    (haway : (run desk (es ++ [.buttons device r]) s).manager.current ≠ s.manager.home) :
    Kept desk s es device r [] k which := by
  refine ⟨⟨hhome, hfirst, hwhich, hcur, fun mid hmid => ?_⟩, hon, fun mid device' r' hmid => ?_, hexit⟩
  · rw [List.prefix_nil.mp hmid]
    exact haway
  · exact absurd (List.prefix_nil.mp hmid) (by simp)

/-- A mode that stays current through one more event is still kept by its button. -/
theorem kept_concat {before since : List Event} {device : Option Device} {r : ButtonReport} {k : Shift}
    {which : Button} {e : Event} (h : Kept desk s before device r since k which)
    (haway : (run desk (before ++ .buttons device r :: (since ++ [e])) s).manager.current ≠ s.manager.home)
    (hexit : (run desk (before ++ .buttons device r :: (since ++ [e])) s).manager.exit
      = some (.button which false))
    (hup : ∀ device' r', e = .buttons device' r' →
      (run desk (before ++ .buttons device r :: since) s).control.enabled = true → r'.up.has which = false) :
    Kept desk s before device r (since ++ [e]) k which := by
  refine ⟨⟨h.entered.home, h.entered.first, h.entered.button, h.entered.entered, fun mid hmid => ?_⟩, h.on,
    fun mid device' r' hmid hon => ?_, hexit⟩
  · rcases List.prefix_concat_iff.mp hmid with rfl | hmid
    · exact haway
    · exact h.entered.away mid hmid
  · rcases List.prefix_concat_iff.mp hmid with heq | hmid
    · obtain ⟨rfl, hlast⟩ := List.append_inj' heq rfl
      exact hup device' r' (List.singleton_inj.mp hlast).symm hon
    · exact h.unreleased mid device' r' hmid hon

/-- **Every run of button reports** that ends away from the default mode. -/
theorem exists_kept (hr : Running s) (hb : s.manager.Sound) (hs : s.manager.StaysHome) (hk : s.manager.OnButtons)
    (hstart : s.manager.current = s.manager.home) {es : List Event} (hes : ∀ e ∈ es, e.OfButtons)
    (haway : (run desk es s).manager.current ≠ s.manager.home) :
    ∃ before device r since k which, es = before ++ .buttons device r :: since ∧
      Kept desk s before device r since k which := by
  induction es using List.reverseRecOn with
  | nil => exact absurd hstart haway
  | append_singleton es e ih =>
      have hprev : ∀ e ∈ es, e.OfButtons := fun e' h => hes e' (List.mem_append_left _ h)
      have he : e.OfButtons := hes e (List.mem_append_right _ List.mem_cons_self)
      have hrun : Running (run desk es s) := run_running es hr
      have hset : (run desk es s).manager.setup = s.manager.setup :=
        run_setup (fun e' h => ofButtons_keeps (hprev e' h)) hr.wired
      have hsound : (run desk es s).manager.Sound := run_sound es hr.wired hb
      have hh : (run desk es s).manager.home = s.manager.home := home_of_setup hset
      have hlast := haway
      rw [run_append, ← hh] at hlast
      by_cases hhome : (run desk es s).manager.current = s.manager.home
      · -- the default mode was current until this event
        obtain ⟨device, r, k', rfl, hon, hfirst, hcur, hexit⟩ :=
          act_enters hrun hsound (staysHome_of_setup hset hs) (onButtons_of_setup hset hk) (hhome.trans hh.symm)
            he hlast
        obtain ⟨k, hsome, htarget, hoff⟩ := first_of_setup hset hfirst
        obtain ⟨which, hwhich⟩ := hk k (List.mem_of_find?_eq_some hsome)
        have hrelease : k.switch.off = .button which false := congrArg Switch.off hwhich
        rw [← run_append] at hcur hexit
        rw [htarget] at hcur
        rw [hoff, hrelease] at hexit
        exact ⟨es, device, r, [], k, which, rfl, kept_start hhome hon hsome hwhich hcur hexit haway⟩
      · -- the mode was left before, and stays current
        obtain ⟨before, device, r, since, k, which, rfl, hkept⟩ := ih hprev hhome
        obtain ⟨hexit, hup⟩ := act_keeps hrun hsound (by rwa [hh]) hkept.exit he hlast
        rw [← run_append] at hexit
        have hsplit : before ++ .buttons device r :: since ++ [e] =
            before ++ .buttons device r :: (since ++ [e]) := by
          simp
        rw [hsplit] at haway hexit
        exact ⟨before, device, r, since ++ [e], k, which, hsplit, kept_concat hkept haway hexit hup⟩

/-- **Modes are left by letting a button go.** Where all shifts are on buttons and no trigger of the default mode
enters a mode, whenever a run of button reports ends away from the default mode, the mode was entered by a report
that came while the program was on, and the button of the shift that entered it has not been reported released
since, except in reports that came while the program was off. -/
theorem left_by_button (desk : Desk) {cfg : Config} {start s : Studio} (hb : Studio.build cfg start = .ok s)
    (hpool : start.pool = []) (hk : s.manager.OnButtons) (hs : s.manager.StaysHome) {es : List Event}
    (hes : ∀ e ∈ es, e.OfButtons) (haway : (run desk es s).manager.current ≠ s.manager.home) :
    ∃ before device r since k which, es = before ++ .buttons device r :: since ∧
      EnteredBy desk s before device r since k which ∧ (run desk before s).control.enabled = true ∧
      UnreleasedSince desk s before (.buttons device r) since which := by
  have hr : Running s := build_running hb hpool
  have hstart : s.manager.current = s.manager.home := by
    obtain ⟨made, modes, shifts, first, _, _, rfl⟩ := build_installed hb
    exact (home_enteredOf (Manager.fresh modes shifts first) first.id).symm
  obtain ⟨before, device, r, since, k, which, hsplit, hkept⟩ :=
    exists_kept hr (build_sound hb) hs hk hstart hes haway
  exact ⟨before, device, r, since, k, which, hsplit, hkept.entered, hkept.on, hkept.unreleased⟩

/-- The button of the shift goes down. -/
def shiftDown : ButtonReport :=
  { down := .ofButtons [.zr], up := {}, current := .ofButtons [.zr] }

/-- The button of the shift goes up. -/
def shiftUp : ButtonReport :=
  { down := {}, up := .ofButtons [.zr], current := {} }

/-- The program is switched off, the button of the shift goes up, and the program is switched on again. -/
def upWhileOff : List Event :=
  [.enable false, .buttons none shiftUp, .enable true]

/-- The release is dropped by the gate, so the mode of the shift stays current. -/
theorem twoModes_stays : ∃ s, Studio.build twoModes {} = .ok s ∧
    (s.manager.OnButtons ∧ s.manager.StaysHome) ∧
    (run .quiet (.buttons none shiftDown :: upWhileOff) s).control.enabled = true ∧
    ∃ k, EnteredBy .quiet s [] none shiftDown upWhileOff k .zr := by
  have h : (Studio.build twoModes {}).toOption.any (fun s =>
      s.manager.shifts.all (fun k => decide (k.switch.reset = .ofButton .zr)) &&
      s.manager.modes.all (fun mode => mode.triggers.isEmpty) &&
      (run .quiet (.buttons none shiftDown :: upWhileOff) s).control.enabled &&
      decide (s.manager.current = s.manager.home) &&
      upWhileOff.inits.all (fun mid => decide
        ((run .quiet (.buttons none shiftDown :: mid) s).manager.current ≠ s.manager.home)) &&
      (s.manager.shifts.find? (·.switch.on.holds (.buttons none shiftDown))).any (fun k => decide
        ((run .quiet [.buttons none shiftDown] s).manager.current = k.target))) = true := by decide +kernel
  obtain ⟨s, hs, ht⟩ := exists_built h
  simp only [Bool.and_eq_true, List.all_eq_true, decide_eq_true_eq, List.isEmpty_iff, Option.any_eq_true] at ht
  obtain ⟨⟨⟨⟨⟨hbuttons, hno⟩, hon⟩, hhome⟩, haway⟩, k, hfirst, hcur⟩ := ht
  have hstays : s.manager.StaysHome := by
    intro id mode _ hf t hmem
    rw [hno mode (find_mem hf)] at hmem
    exact absurd hmem (by simp)
  have hk : k.switch.reset = .ofButton .zr := hbuttons k (List.mem_of_find?_eq_some hfirst)
  refine ⟨s, hs, ⟨fun k hk => ⟨.zr, hbuttons k hk⟩, hstays⟩, hon, k, hhome, hfirst, hk, hcur, fun mid hmid => ?_⟩
  exact haway mid ((List.mem_inits _ _).mpr hmid)

theorem left_by_button_twoModes : ∃ s, Studio.build twoModes {} = .ok s ∧
    s.manager.OnButtons ∧ s.manager.StaysHome ∧
    (∀ e ∈ Event.buttons none shiftDown :: upWhileOff, e.OfButtons) ∧
    (run .quiet (.buttons none shiftDown :: upWhileOff) s).manager.current ≠ s.manager.home ∧
    ∃ before device r since k which,
      Event.buttons none shiftDown :: upWhileOff = before ++ .buttons device r :: since ∧
      EnteredBy .quiet s before device r since k which ∧ (run .quiet before s).control.enabled = true ∧
      UnreleasedSince .quiet s before (.buttons device r) since which := by
  obtain ⟨s, hb, ⟨hk, hs⟩, _, k, hentered⟩ := twoModes_stays
  have hes : ∀ e ∈ Event.buttons none shiftDown :: upWhileOff, e.OfButtons := by
    simp [upWhileOff, Event.buttons, Event.OfButtons]
  have haway := hentered.away upWhileOff (List.prefix_refl _)
  exact ⟨s, hb, hk, hs, hes, haway, left_by_button .quiet hb rfl hk hs hes haway⟩

/-- **A release may be missed**: it is not so that, whenever the program is on and the default mode is not current,
the button of the shift that entered the current mode has not been reported released since. -/
theorem release_missed : ¬ ∀ (desk : Desk) (cfg : Config) (start s : Studio),
    Studio.build cfg start = .ok s → start.pool = [] → s.manager.OnButtons → s.manager.StaysHome →
      ∀ before device r since k which, (∀ e ∈ before ++ Event.buttons device r :: since, e.OfButtons) →
        EnteredBy desk s before device r since k which →
        (run desk (before ++ .buttons device r :: since) s).control.enabled = true →
          ∀ mid device' r', mid ++ [Event.buttons device' r'] <+: since → r'.up.has which = false := by
  intro h
  obtain ⟨s, hb, ⟨hk, hs⟩, hon, k, hentered⟩ := twoModes_stays
  have hes : ∀ e ∈ ([] : List Event) ++ Event.buttons none shiftDown :: upWhileOff, e.OfButtons := by
    simp [upWhileOff, Event.buttons, Event.OfButtons]
  have hreport : [Event.enable false] ++ [Event.buttons none shiftUp] <+: upWhileOff := ⟨[.enable true], rfl⟩
  have hup := h .quiet twoModes {} s hb rfl hk hs [] none shiftDown upWhileOff k .zr hes hentered hon
    [.enable false] none shiftUp hreport
  exact absurd hup (by decide)

end PadScribe
