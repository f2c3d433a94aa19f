import PadScribe.Proofs.Handling

/-!
# `Proofs.Inputs` — what an input is made of

The dispatch of an input, like the work in the queues (`Proofs.Work`), is made of a few primitive steps: shifts
latch, a mode is entered, the switches of a mode see the input, and actions of triggers put off work, ask the desk
or compile what was heard. So a property of steps that these have is one of the whole dispatch. The walk through the
program is made once here, for every such property.

The actions of triggers are among those that can run at all (`Manager.actions`), since none of the steps changes
the setup of the modes.

## Contents

* `InputLicence`, `InputLicence.Lets` — what an input may do
* `InputClass` — properties that the dispatch of an input is closed under
* `InputClass.switchTo` … `InputClass.runTriggers` — changing the mode, and triggers
* `InputClass.tryShifts`, `InputClass.steer` — where an input goes
* `InputClass.passMode`, `InputClass.passOn` — the dispatch of an input
* `leaves_inputs` — what an input leaves alone
-/

namespace PadScribe

/-- What an input may do. -/
structure InputLicence where
  /-- The modes that it may enter, and what it has become then. -/
  enters : String → Option Input → Prop
  /-- The inputs that the switches of a mode may see. -/
  passes : Input → Prop
  /-- The texts that may be compiled. -/
  hears : String → Prop

/-- An input that may do everything. -/
def InputLicence.free : InputLicence where
  enters _ _ := True
  passes _ := True
  hears _ := True

/-- An action may do on an input what it does. -/
structure InputLicence.Lets (l : InputLicence) (a : Action) (inp : Input) : Prop where
  enter : ∀ id, a = .enterMode (some id) → l.enters id (some inp)
  hear : ∀ text, inp.said? = some text → l.hears text

/-- **A property of steps that the dispatch of an input is closed under**, where it keeps to its licence. -/
structure InputClass (desk : Desk) (P : ∀ {α : Type}, Step α → Studio → Prop) (l : InputLicence) : Prop
    extends StepClass P where
  keeps {α : Type} {x : Step α} {s : Studio} : P x s → (after x s).manager.setup = s.manager.setup
  /-- Shifts latch, the way back is noted. -/
  arrange {f : Manager → Manager} {s : Studio} (setup : (f s.manager).setup = s.manager.setup)
    (current : (f s.manager).current = s.manager.current)
    (exit : ∀ c, (f s.manager).exit = some c → s.manager.exit = some c ∨ c ∈ s.manager.offs)
    (modes : (f s.manager).modes = s.manager.modes) : P (updateManager f) s
  enter {id : String} {mode : Mode} {given : Option Input} {s : Studio} (allowed : l.enters id given)
    (found : s.manager.find? id = some mode) : P (modify (switchedTo id mode given)) s
  latch {id : String} {mode : Mode} {inp : Input} {s : Studio} (allowed : l.passes inp)
    (current : s.manager.current = some id) (found : s.manager.find? id = some mode)
    (setup : (latched id mode inp s).manager.setup = s.manager.setup) : P (modify (latched id mode inp)) s
  putOff {t : Task} (s : Studio) (chore : t.isChore = true) (asksNone : t.line? = none) : P (submit t) s
  flush {mode : Mode} {line : SpeechLine} {s : Studio} (current : s.manager.currentMode? = some mode)
    (kind : mode.kind = .speech line) : P (submit (.flush mode.id line)) s
  speak {text : Option String} {s : Studio} (installed : .speak text ∈ s.manager.actions) :
    P (submit (.deliver (.uttered ⟨text⟩))) s
  replay {s : Studio} (spoken : s.lastSpeech ≠ "") : P (submit (.replay s.lastSpeech)) s
  utter {v : Vocabulary} {text : String} {s : Studio} (allowed : l.hears text)
    (installed : .speech v ∈ s.manager.actions) : P (utter v text) s
  click (button : Option PointerButton) (double : Bool) (s : Studio) :
    P (respond (desk.pointer (.click button double))) s
  tap {keys : List String} {s : Studio} (given : keys ≠ []) (installed : .hotkey keys ∈ s.manager.actions) :
    P (respond (desk.keyboard (.tap (keys.map Key.normalize)))) s

namespace InputClass

variable {P : ∀ {α : Type}, Step α → Studio → Prop} {l : InputLicence} {desk : Desk} {s t : Studio} {inp : Input}

/-- What has the property keeps the actions that can run, -/
theorem actions {α : Type} {x : Step α} {a : α} (h : InputClass desk P l) (hx : P x s) (ht : x s = .ok a t) :
    t.manager.actions = s.manager.actions := by
  have hkeeps : (after x s).manager.setup = s.manager.setup := h.keeps hx
  rw [after_ok ht] at hkeeps
  exact actions_eq_of_setup hkeeps

/-- and what can lead back to the default mode. -/
theorem offs {α : Type} {x : Step α} {a : α} (h : InputClass desk P l) (hx : P x s) (ht : x s = .ok a t) :
    t.manager.offs = s.manager.offs := by
  have hkeeps : (after x s).manager.setup = s.manager.setup := h.keeps hx
  rw [after_ok ht] at hkeeps
  exact offs_eq_of_setup hkeeps

/-! ## Changing the mode -/

theorem switchTo (h : InputClass desk P l) {id : String} {given : Option Input} (he : l.enters id given)
    (s : Studio) : P (switchTo id given) s := by
  rw [switchTo_eq]
  refine h.look (fun _ => rfl) ?_
  cases hf : s.manager.find? id with
  | none => exact h.throw _ s
  | some mode => exact h.enter he hf

theorem restore (h : InputClass desk P l) (he : ∀ id, l.enters id (some inp)) (s : Studio) :
    P (restore inp) s := by
  unfold PadScribe.restore
  refine h.look (fun _ => rfl) ?_
  cases s.manager.home with
  | none => exact h.pure _ s
  | some id => exact h.switchTo (he id) s

theorem enterOrWarn (h : InputClass desk P l) {id : String} (he : l.enters id (some inp)) (s : Studio) :
    P (enterOrWarn id inp) s := by
  unfold PadScribe.enterOrWarn
  apply h.tryCatch (h.switchTo he s)
  intro e t _
  cases e with
  | mode e =>
      -- a mode that is not there is warned about; every other failure goes on
      exact h.putOff t rfl rfl
  | _ => exact h.throw _ t

/-! ## Triggers -/

theorem tapKeys (h : InputClass desk P l) {keys : List String} (hk : .hotkey keys ∈ s.manager.actions) :
    P (tapKeys desk keys) s := by
  unfold PadScribe.tapKeys
  split
  · exact h.pure _ s
  · rename_i hne
    exact h.tap (by simpa using hne) hk

/-- **An action of a trigger.** -/
theorem action (h : InputClass desk P l) {a : Action} (ha : a ∈ s.manager.actions) (hl : l.Lets a inp) :
    P (a.run desk inp) s := by
  cases a with
  | moveCursor speed =>
      apply h.bind (h.liftFault _ s)
      intro move t _
      cases move with
      | none => exact h.pure _ t
      | some d => exact h.putOff t rfl rfl
  | click button double => exact h.click button double s
  | enterMode id =>
      cases id with
      | none => exact h.throw _ s
      | some id => exact h.enterOrWarn (hl.enter id rfl) s
  | notify title text icon =>
      simp only [Action.run]
      split
      · exact h.putOff s rfl rfl
      · exact h.putOff s rfl rfl
  | speak text => exact h.speak ha
  | hotkey keys => exact h.tapKeys ha
  | speech v =>
      simp only [Action.run]
      split
      · rename_i heard hk hs
        have hsaid : inp.said? = some heard := by simp [Input.said?, hk, hs]
        exact h.utter (hl.hear heard hsaid) ha
      · exact h.throw _ s
      · exact h.pure _ s
  | flush =>
      refine h.look (fun _ => rfl) ?_
      split
      · rename_i hmode
        exact h.flush hmode rfl
      · exact h.pure _ s
  | replay =>
      refine h.look (fun _ => rfl) ?_
      simp only []
      split
      · exact h.pure _ s
      · rename_i hlast
        exact h.replay hlast

theorem runTriggers (h : InputClass desk P l) {ts : List Trigger} (ha : ∀ t ∈ ts, t.action ∈ s.manager.actions)
    (hl : ∀ t ∈ ts, t.condition.holds inp = true → l.Lets t.action inp) : P (runTriggers desk inp ts) s := by
  induction ts generalizing s with
  | nil => exact h.pure _ s
  | cons t rest ih =>
      have hlrest : ∀ t ∈ rest, t.condition.holds inp = true → l.Lets t.action inp :=
        fun t ht => hl t (List.mem_cons_of_mem _ ht)
      simp only [PadScribe.runTriggers]
      split
      · rename_i hc
        have hfirst : P (t.action.run desk inp) s :=
          h.action (ha t List.mem_cons_self) (hl t List.mem_cons_self hc)
        apply h.bind hfirst
        intro _ u hu
        -- the triggers that follow are still installed after the first of them
        have hinstalled : ∀ t ∈ rest, t.action ∈ u.manager.actions := by
          intro t ht
          rw [h.actions hfirst hu]
          exact ha t (List.mem_cons_of_mem _ ht)
        exact ih hinstalled hlrest
      · exact ih (fun t ht => ha t (List.mem_cons_of_mem _ ht)) hlrest

/-! ## Where an input goes -/

theorem tryShifts (h : InputClass desk P l) (he : ∀ id, l.enters id (some inp)) (i : Nat) (shifts : List Shift)
    (s : Studio) (hk : ∀ k ∈ shifts, k.switch.off ∈ s.manager.offs) : P (tryShifts desk inp i shifts) s := by
  induction shifts generalizing i s with
  | nil => exact h.pure _ s
  | cons k rest ih =>
      have hrest : ∀ k ∈ rest, k.switch.off ∈ s.manager.offs := fun k hmem => hk k (List.mem_cons_of_mem _ hmem)
      simp only [PadScribe.tryShifts]
      split
      · -- the shift is turned on: its off condition becomes the way back
        have henter : P ((Action.enterMode k.target).run desk inp) s := by
          cases k.target with
          | none => exact h.throw _ s
          | some id => exact h.enterOrWarn (he id) s
        apply h.bind henter
        intro _ t ht
        have hlatch : P (updateManager fun m => { m.setShift i true with exit := some k.switch.off }) t := by
          refine h.arrange (setup_setShift t.manager i true) rfl (fun c hc => .inr ?_) rfl
          rw [h.offs henter ht, ← Option.some.inj hc]
          exact hk k List.mem_cons_self
        exact h.bind hlatch fun _ u _ => h.pure _ u
      · -- the shift is turned off, and the shifts after it see the input too
        have hback : P (PadScribe.restore inp) s := h.restore he s
        apply h.bind hback
        intro _ t ht
        have hset : P (updateManager (Manager.setShift i false)) t :=
          h.arrange (setup_setShift t.manager i false) rfl (fun c hc => .inl hc) rfl
        apply h.bind hset
        intro _ u hu
        apply ih (i + 1) u
        rw [h.offs hset hu, h.offs hback ht]
        exact hrest
      · exact ih (i + 1) s hrest

theorem tryExit (h : InputClass desk P l) (he : ∀ id, l.enters id (some inp)) (s : Studio) :
    P (tryExit inp) s := by
  unfold PadScribe.tryExit
  refine h.look (fun _ => rfl) ?_
  cases s.manager.exit with
  | none => exact h.pure _ s
  | some c =>
      simp only []
      split
      · apply h.bind (h.restore he s)
        intro _ t _
        have hforget : P (updateManager fun m => { m with exit := none }) t :=
          h.arrange rfl rfl (fun c hc => absurd hc (by simp)) rfl
        exact h.bind hforget fun _ u _ => h.pure _ u
      · exact h.pure _ s

theorem steer (h : InputClass desk P l) (he : ∀ id, l.enters id (some inp)) (s : Studio) :
    P (steer desk inp) s := by
  unfold PadScribe.steer
  refine h.look (fun _ => rfl) ?_
  simp only []
  cases s.manager.current with
  | none => exact h.pure _ s
  | some id =>
      simp only []
      have htaken : P (if s.manager.home = some id then PadScribe.tryShifts desk inp 0 s.manager.shifts
          else PadScribe.tryExit inp) s := by
        split
        · exact h.tryShifts he 0 s.manager.shifts s fun k hk => List.mem_map.mpr ⟨k, hk, rfl⟩
        · exact h.tryExit he s
      exact h.bind htaken fun _ t _ => h.pure _ t

/-! ## An input -/

/-- **An input in a mode**: its switches see it, and what comes out of them meets the triggers. -/
theorem passMode (h : InputClass desk P l) (hn : (s.manager.modes.map Mode.id).Nodup) {id : String}
    (hc : s.manager.current = some id) (hp : l.passes inp)
    (hl : ∀ mode, s.manager.find? id = some mode → ∀ out, (ModeSwitch.passAll mode.switches inp).2.2 = .ok out →
      ∀ t ∈ mode.triggers, t.condition.holds out = true → l.Lets t.action out) :
    P (passMode desk id inp) s := by
  rw [passMode_eq]
  refine h.look (fun _ => rfl) ?_
  cases hf : s.manager.find? id with
  | none => exact h.pure _ s
  | some mode =>
      have hseen : P (modify (latched id mode inp)) s := h.latch hp hc hf (setup_passMode hn hf)
      apply h.bind hseen
      intro _ t ht
      cases hout : (ModeSwitch.passAll mode.switches inp).2.2 with
      | error fault =>
          -- a modifier failed: the switches have latched and no trigger runs
          apply h.bind (h.throw fault t)
          intro _ _ hthrow
          cases hthrow
      | ok out =>
          apply h.bind (h.pure out t)
          intro a u hu
          obtain ⟨rfl, rfl⟩ := EStateM.Result.ok.inj hu
          refine h.runTriggers (fun trigger hmem => ?_) (hl mode hf out hout)
          rw [h.actions hseen ht]
          exact find_actions hf hmem

/-- **An input that is noted** is steered and passed to the mode that it goes to. -/
theorem passOn (h : InputClass desk P l) (hn : (s.manager.modes.map Mode.id).Nodup)
    (he : ∀ id, l.enters id (some inp)) (hp : l.passes inp)
    (hl : ∀ switches out, (ModeSwitch.passAll switches inp).2.2 = .ok out →
      ∀ t : Trigger, t.condition.holds out = true → l.Lets t.action out) : P (passOn desk inp) s := by
  have hsteer : P (PadScribe.steer desk inp) s := h.steer he s
  apply h.bind hsteer
  intro dest t ht
  cases dest with
  | none => exact h.pure _ t
  | some id =>
      have hsetup : t.manager.setup = s.manager.setup := after_ok ht ▸ h.keeps hsteer
      exact h.passMode (nodup_of_setup hsetup hn) (steer_current ht) hp
        fun mode _ out hout trigger _ => hl mode.switches out hout trigger

end InputClass

/-! ## What an input leaves alone -/

/-- An input that compiles no text. -/
def InputLicence.unheard : InputLicence :=
  { InputLicence.free with hears := fun _ => False }

/-- **An input that compiles no text leaves alone** whatever depends neither on the modes, nor on the queue of short
work, nor on what is shown of both. -/
theorem leaves_inputs {β : Type} (desk : Desk) (f : Studio → β) (frame : ∀ (s : Studio) m c p h r,
      f { s with manager := m, control := c, pool := p, hooks := h, record := r } = f s) :
    InputClass desk (fun x s => f (after x s) = f s ∧ (after x s).manager.setup = s.manager.setup) .unheard where
  toStepClass := stepClass_of_rel (R := fun s t => f t = f s ∧ t.manager.setup = s.manager.setup)
    (fun _ => ⟨rfl, rfl⟩) fun h h' => ⟨h'.1.trans h.1, h'.2.trans h.2⟩
  keeps h := h.2
  arrange setup _ _ _ := ⟨frame _ _ _ _ _ _, setup⟩
  enter _ _ := ⟨frame _ _ _ _ _ _, setup_enteredOf _ _⟩
  latch _ _ _ setup := ⟨frame _ _ _ _ _ _, setup⟩
  putOff _ _ _ := ⟨frame _ _ _ _ _ _, rfl⟩
  flush _ _ := ⟨frame _ _ _ _ _ _, rfl⟩
  speak _ := ⟨frame _ _ _ _ _ _, rfl⟩
  replay _ := ⟨frame _ _ _ _ _ _, rfl⟩
  utter allowed _ := allowed.elim
  click _ _ s := by
    rw [after_respond]
    exact ⟨frame _ _ _ _ _ _, rfl⟩
  tap _ _ := by
    rw [after_respond]
    exact ⟨frame _ _ _ _ _ _, rfl⟩

end PadScribe
