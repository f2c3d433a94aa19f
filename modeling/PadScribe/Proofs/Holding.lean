import Mathlib.Data.List.Induction
import PadScribe.Proofs.Quiet

/-!
# `Proofs.Holding` — modes that hold a button of the pointer

A mode owns a button of the pointer while one of its switches that is on keeps the button pressed
(`Studio.Owns`). The press that a switch puts off comes with the switch turned on, so right then the mode owns the
button. But entering a mode turns its switches off without a word to the pointer, and leaving one says nothing
either. So from then on nobody owns the button, and it stays held: whoever holds a button owns it exactly as long
as no mode has been entered since.

## Contents

* `Drive`, `drive` — inputs that the modes are handed, and the heads of the queues
* `Studio.Owns`, `Tells` — who owns a button, and what was told about it
* `latched_owns` — switches that see an input
* `Trails`, `moves_owns` — quiet rows of moves
* `Accounts`, `act_accounts` — one step
* `exists_press`, `held_owned_iff` — every run that leaves a button held
-/

namespace PadScribe

/-- What drives the modes: an input that they are handed, or the head of a queue. -/
inductive Drive where
  | input (inp : Input)
  | work (queue : Queue)

/-- What the modes do. -/
def Drive.act (desk : Desk) : Drive → Step Unit
  | input inp => handle desk inp
  | work q => runHead desk q

/-- The state after a row of steps. -/
def drive (desk : Desk) (ds : List Drive) (s : Studio) : Studio :=
  afterAll (Drive.act desk) ds s

/-- The studio when it has been decided where an input goes. -/
def steered (desk : Desk) (inp : Input) (s : Studio) : Studio :=
  after (steer desk inp) (handed inp s)

/-- The current mode owns a button of the pointer: a switch of it that is on keeps the button pressed. -/
def Studio.Owns (b : Option PointerButton) (s : Studio) : Prop :=
  ∃ mode, s.manager.currentMode? = some mode ∧ ∃ k ∈ mode.switches, k.Presses b

instance (b : Option PointerButton) (s : Studio) : Decidable (s.Owns b) :=
  inferInstanceAs (Decidable (∃ mode, mode ∈ s.manager.currentMode? ∧ ∃ k ∈ mode.switches, k.Presses b))

/-- The row of grips grows, and this is what the grips that join it say last about a button. -/
def Tells (b : Option PointerButton) (said : Option Bool) (s s' : Studio) : Prop :=
  ∃ gs, s'.allGrips = s.allGrips ++ gs ∧ lastTold b gs = said

variable {desk : Desk} {s s' : Studio} {b : Option PointerButton}

theorem drive_append (ds : List Drive) (d : Drive) (s : Studio) :
    drive desk (ds ++ [d]) s = after (d.act desk) (drive desk ds s) :=
  afterAll_concat _ ds d s

/-! ## Who owns a button -/

theorem owns_of_current {id : String} {mode : Mode} (hc : s.manager.current = some id)
    (hf : s.manager.find? id = some mode) : s.Owns b ↔ ∃ k ∈ mode.switches, k.Presses b := by
  unfold Studio.Owns Manager.currentMode?
  rw [hc, Option.bind_some, hf]
  simp

/-- A mode that has just been entered owns nothing. -/
theorem not_owns_entered {id : String} (hc : s'.manager = s.manager.enteredOf id)
    (hf : (s.manager.find? id).isSome) : ¬ s'.Owns b := by
  obtain ⟨mode, hmode⟩ := Option.isSome_iff_exists.mp hf
  obtain ⟨fresh, hfresh, hswitches, _⟩ := find_enteredOf hmode
  rw [← hc] at hfresh
  rw [owns_of_current (by rw [hc]; rfl) hfresh, hswitches]
  rintro ⟨k, hk, _, hon⟩
  obtain ⟨k₀, _, rfl⟩ := List.mem_map.mp hk
  exact absurd hon (by simp [Switch.reset])

/-- **Switches that see an input**: when they press a button last, their mode owns it, and when they say nothing
about it, their mode owns it as before. -/
theorem latched_owns (b : Option PointerButton) {id : String} {mode : Mode} (inp : Input) (hr : Running s)
    (hc : s.manager.current = some id) (hf : s.manager.find? id = some mode) :
    (lastTold b ((ModeSwitch.passAll mode.switches inp).2.1.filterMap Task.grip?) = some true →
        (latched id mode inp s).Owns b) ∧
      (lastTold b ((ModeSwitch.passAll mode.switches inp).2.1.filterMap Task.grip?) = none →
        ((latched id mode inp s).Owns b ↔ s.Owns b)) := by
  rw [owns_of_current (s := latched id mode inp s) hc (find_latched inp hf), owns_of_current hc hf]
  obtain ⟨n, hlatched, htasks, _⟩ := passAll_latches (hr.switches mode (find_mem hf)) inp
  simp only [hlatched, htasks]
  refine ⟨fun htold => ?_, fun huntold => ?_⟩
  · obtain ⟨k, hk, hpress⟩ := latch_told htold
    exact ⟨_, List.mem_append_left _ (List.mem_map_of_mem hk), hpress⟩
  · have hkeep := latch_untold huntold
    constructor
    · rintro ⟨k, hk, hhold, hon⟩
      rcases List.mem_append.mp hk with hk | hk
      · obtain ⟨k₀, hk₀, rfl⟩ := List.mem_map.mp hk
        rw [hkeep k₀ hk₀ hhold] at hon
        exact ⟨k₀, List.mem_of_mem_take hk₀, hhold, hon⟩
      · exact ⟨k, List.mem_of_mem_drop hk, hhold, hon⟩
    · rintro ⟨k, hk, hhold, hon⟩
      rw [← List.take_append_drop n mode.switches] at hk
      rcases List.mem_append.mp hk with hk | hk
      · exact ⟨k, List.mem_append_left _ (List.mem_map.mpr ⟨k, hk, hkeep k hk hhold⟩), hhold, hon⟩
      · exact ⟨k, List.mem_append_right _ hk, hhold, hon⟩

/-! ## Quiet rows -/

/-- Modes may be entered, and while none is, the current mode owns a button as before; none owns it afterwards. -/
def Trails (b : Option PointerButton) (s s' : Studio) : Prop :=
  ∃ es, s'.entrances = s.entrances ++ es ∧ (s'.Owns b ↔ s.Owns b ∧ es = [])

theorem trails_refl (s : Studio) : Trails b s s :=
  ⟨[], by simp, by simp⟩

theorem trails_trans {t u : Studio} (h : Trails b s t) (h' : Trails b t u) : Trails b s u := by
  obtain ⟨es, he, ho⟩ := h
  obtain ⟨es', he', ho'⟩ := h'
  refine ⟨es ++ es', by rw [he', he, List.append_assoc], ?_⟩
  rw [ho', ho, List.append_eq_nil_iff, and_assoc]

/-- A step at which no mode is entered and the current mode stays what it is. -/
theorem trails_still (hm : s'.manager.currentMode? = s.manager.currentMode?) (he : s'.entrances = s.entrances) :
    Trails b s s' := by
  refine ⟨[], by rw [he, List.append_nil], ?_⟩
  unfold Studio.Owns
  rw [hm]
  simp

/-- A quiet move leaves the current mode's buttons alone unless it enters a mode. -/
theorem move_owns (hd : desk.Shows) (hr : Running s) (h : Move desk Mark.quiet s s') : Trails b s s' := by
  cases h with
  | latch m _ current _ modes =>
      refine trails_still ?_ rfl
      unfold Manager.currentMode? Manager.find?
      rw [current, modes]
  | enter id found _ =>
      have hno : ¬ Studio.Owns b
          { s with
            manager := s.manager.enteredOf id
            control := { s.control with modeId := id }
            record := s.record ++ [.switched s.manager.current id] } := not_owns_entered rfl found
      exact ⟨[id], List.filterMap_append, iff_of_false hno (by simp)⟩
  | pass id mode inp current found _ allowed =>
      have hnone := (passAll_spoken (hr.switches mode (find_mem found)) allowed).2
      refine ⟨[], by simp [latched, Studio.entrances], ?_⟩
      rw [(latched_owns b inp hr current found).2 (by simp [hnone])]
      simp
  | understand v text _ _ es plain _ _ =>
      refine trails_still rfl (entrances_append s ?_)
      exact List.filterMap_eq_nil_iff.mpr fun e he => (plain e he).2.1
  | note e plain => exact trails_still rfl (entrances_append s (by simp [plain.2.1]))
  | answer r answers => exact trails_still rfl (entrances_append s (hd.plain r answers).2)
  | grip q g _ allowed => exact allowed.elim
  | _ => exact trails_still rfl rfl

theorem moves_owns (hd : desk.Shows) (hr : Running s) (h : Moves desk Mark.quiet s s') : Trails b s s' := by
  induction h with
  | refl => exact trails_refl s
  | tail hrow hm ih => exact trails_trans ih (move_owns hd (moves_running hrow hr) hm)

/-! ## One step -/

/-- What a step does about a button: while it says nothing about it, the button is owned as before unless a mode
is entered; and when it presses it last, the step is an input, and the button is owned after it unless a mode is
entered once the input has passed the switches. -/
def Accounts (desk : Desk) (b : Option PointerButton) (d : Drive) (s s' : Studio) : Prop :=
  ∃ gs, s'.allGrips = s.allGrips ++ gs ∧
    (lastTold b gs = none → Trails b s s') ∧
    (lastTold b gs = some true → ∃ inp, d = .input inp ∧
      ∃ es, s'.entrances = (steered desk inp s).entrances ++ es ∧ (s'.Owns b ↔ es = []))

theorem input_accounts (hd : desk.Shows) (hr : Running s) (inp : Input) :
    Accounts desk b (.input inp) s (after (handle desk inp) s) := by
  have hnote : emit (.delivered inp) s = .ok () (handed inp s) := rfl
  have hnoted := handed_running inp hr
  have hstill := handed_still inp s
  have hsteer : Moves desk Mark.quiet (handed inp s) (steered desk inp s) := steer_moves (fun _ => trivial) inp _
  have hrt : Running (steered desk inp s) := moves_running hsteer hnoted
  have hgrips : (steered desk inp s).allGrips = s.allGrips :=
    (moves_quiet_allGrips hd hnoted hsteer).trans hstill.grips
  have htrail : Trails b s (steered desk inp s) :=
    trails_trans (trails_still (by rw [hstill.manager]) hstill.entrances) (moves_owns hd hnoted hsteer)
  -- a row of moves that presses nothing
  have hquiet : ∀ {u}, Moves desk Mark.quiet (steered desk inp s) u → Accounts desk b (.input inp) s u := by
    intro u hu
    refine ⟨[], ?_, fun _ => trails_trans htrail (moves_owns hd hrt hu), fun h => absurd h (by simp)⟩
    rw [moves_quiet_allGrips hd hrt hu, hgrips, List.append_nil]
  rw [handle_eq, after_bind_ok hnote]
  unfold passOn
  cases hs : steer desk inp (handed inp s) with
  | error e t =>
      rw [after_bind_error hs, ← after_error hs]
      exact hquiet .refl
  | ok dest t =>
      have ht : t = steered desk inp s := (after_ok hs).symm
      rw [after_bind_ok hs, ht]
      cases dest with
      | none => exact hquiet .refl
      | some id =>
          have hc : (steered desk inp s).manager.current = some id := ht ▸ steer_current hs
          cases hf : (steered desk inp s).manager.find? id with
          | none =>
              simp only []
              rw [after_ok (passMode_unknown inp hf)]
              exact hquiet .refl
          | some mode =>
              -- the switches of the mode see the input, and then its triggers run
              have hn := hrt.wired.nodup
              have hseen : Move desk (fun _ => True) (steered desk inp s)
                  (latched id mode inp (steered desk inp s)) :=
                .pass _ id mode inp hc hf (setup_passMode hn hf) trivial
              have hw : Running (latched id mode inp (steered desk inp s)) := move_running hseen hrt
              have hrow : Moves desk Mark.quiet (latched id mode inp (steered desk inp s))
                  (after (passMode desk id inp) (steered desk inp s)) :=
                passMode_latched hn hf fun _ _ _ _ _ _ _ => trivial
              obtain ⟨htold, huntold⟩ := latched_owns b inp hrt hc hf
              refine ⟨(ModeSwitch.passAll mode.switches inp).2.1.filterMap Task.grip?, ?_, fun hnone => ?_,
                fun hsome => ⟨inp, rfl, ?_⟩⟩
              · rw [← hgrips]
                refine (moves_quiet_allGrips hd hw hrow).trans ?_
                unfold Studio.allGrips Studio.waitingGrips
                rw [List.append_assoc, ← List.filterMap_append]
                rfl
              · refine trails_trans htrail (trails_trans ?_ (moves_owns hd hw hrow))
                exact ⟨[], by simp [latched, Studio.entrances], by rw [huntold hnone]; simp⟩
              · obtain ⟨es, he, ho⟩ := moves_owns (b := b) hd hw hrow
                exact ⟨es, he, by rw [ho]; simp [htold hsome]⟩

theorem act_accounts (hd : desk.Shows) (hr : Running s) (d : Drive) :
    Accounts desk b d s (after (d.act desk) s) := by
  cases d with
  | input inp => exact input_accounts hd hr inp
  | work q =>
      obtain ⟨t, hst, ht, hm⟩ := runHead_quiet hd hr q
      refine ⟨[], ?_, fun _ => ?_, fun h => absurd h (by simp)⟩
      · rw [List.append_nil, ← hst.grips]
        exact moves_quiet_allGrips hd ht hm
      · exact trails_trans (trails_still (by rw [hst.manager]) hst.entrances) (moves_owns hd ht hm)

theorem driven_running (hd : desk.Shows) (d : Drive) (hr : Running s) : Running (after (d.act desk) s) := by
  cases d with
  | input inp =>
      have hm : Moves desk (fun _ => True) (handed inp s) _ :=
        handle_moves (fun _ => trivial) trivial hr.wired.nodup
      exact moves_running hm (handed_running inp hr)
  | work q =>
      obtain ⟨t, _, ht, hm⟩ := runHead_quiet hd hr q
      exact moves_running hm ht

theorem drive_running (hd : desk.Shows) (ds : List Drive) (hr : Running s) : Running (drive desk ds s) :=
  afterAll_keep (fun d _ => driven_running hd d) ds hr

/-! ## Every run -/

/-- **Where a button was pressed last**, in a run that starts with the button free. -/
theorem exists_press (hd : desk.Shows) (hr : Running s) (hfree : ¬ Held b s.allGrips) {ds : List Drive}
    (hheld : Held b (drive desk ds s).allGrips) :
    ∃ before inp later, ds = before ++ .input inp :: later ∧
      Tells b (some true) (drive desk before s) (drive desk (before ++ [.input inp]) s) ∧
      Tells b none (drive desk (before ++ [.input inp]) s) (drive desk ds s) ∧
      ∃ es, (drive desk ds s).entrances = (steered desk inp (drive desk before s)).entrances ++ es ∧
        ((drive desk ds s).Owns b ↔ es = []) := by
  induction ds using List.reverseRecOn with
  | nil => exact absurd hheld hfree
  | append_singleton ds d ih =>
      obtain ⟨gs, hgs, huntold, htold⟩ := act_accounts (b := b) hd (drive_running hd ds hr) d
      rw [← drive_append] at hgs huntold htold
      have hlast : (lastTold b gs).or (lastTold b (drive desk ds s).allGrips) = some true := by
        rw [← lastTold_append, ← hgs]
        exact hheld
      cases hg : lastTold b gs with
      | some down =>
          -- the button is pressed now
          rw [hg, Option.some_or] at hlast
          obtain ⟨inp, rfl, es, he, ho⟩ := htold (hg.trans hlast)
          exact ⟨ds, inp, [], rfl, ⟨gs, hgs, hg.trans hlast⟩, ⟨[], by simp, rfl⟩, es, he, ho⟩
      | none =>
          -- it was pressed before
          rw [hg, Option.none_or] at hlast
          obtain ⟨before, inp, later, rfl, hpress, ⟨gs', hgs', hg'⟩, es, he, ho⟩ := ih hlast
          obtain ⟨es', he', ho'⟩ := huntold hg
          refine ⟨before, inp, later ++ [d], by simp, hpress, ⟨gs' ++ gs, ?_, ?_⟩, es ++ es', ?_, ?_⟩
          · rw [hgs, hgs', List.append_assoc]
          · rw [lastTold_append, hg, Option.none_or, hg']
          · rw [he', he, List.append_assoc]
          · rw [ho', ho, List.append_eq_nil_iff]

/-- **Who owns a button that is held.** A run that starts with the button free, and leaves it held once no work
waits, has an input that pressed it last. The current mode owns the button exactly when no mode has been entered
since that input came to the switches that pressed it. -/
theorem held_owned_iff (hd : desk.Shows) {cfg : Config} {start s : Studio}
    (hb : Studio.build cfg start = .ok s) (hpool : start.pool = []) (hfree : ¬ Held b start.grips)
    {ds : List Drive} (hdone : (drive desk ds s).pool = []) (hheld : Held b (drive desk ds s).grips) :
    ∃ before inp later, ds = before ++ .input inp :: later ∧
      Tells b (some true) (drive desk before s) (drive desk (before ++ [.input inp]) s) ∧
      Tells b none (drive desk (before ++ [.input inp]) s) (drive desk ds s) ∧
      ((drive desk ds s).Owns b ↔
        (drive desk ds s).entrances = (steered desk inp (drive desk before s)).entrances) := by
  have hstart : s.allGrips = start.grips := (build_grips hb).1.trans (Studio.allGrips_eq_grips hpool)
  rw [← hstart] at hfree
  rw [← Studio.allGrips_eq_grips hdone] at hheld
  obtain ⟨before, inp, later, hsplit, hpress, hlater, es, he, ho⟩ :=
    exists_press hd (build_running hb hpool) hfree hheld
  refine ⟨before, inp, later, hsplit, hpress, hlater, ?_⟩
  rw [ho, he]
  simp

/-- A button of the controller that holds a button of the pointer, and one that leaves the mode. -/
def dragAndLeave : Config :=
  { modes := [
      { declaration := .str "[idle] -id a"
        rules := [.str "[switch] button -id Y -> [mouse_toggle]", .str "[switch] button -id ZR -> [mode] -id b"] },
      { declaration := .str "[idle] -id b" }] }

/-- The first button goes down, then the second one, and the first goes up in the other mode. -/
def draggedAway : List Drive :=
  [.input (.press .y []), .input (.press .zr [.y]), .input (.release .y [.zr]), .work .pool]

theorem dragAndLeave_holds : ∃ s, Studio.build dragAndLeave {} = .ok s ∧
    (drive .quiet draggedAway s).pool = [] ∧ (drive .quiet draggedAway s).speech = [] ∧
    Held (some .left) (drive .quiet draggedAway s).grips ∧ ¬ (drive .quiet draggedAway s).Owns (some .left) := by
  have h : (Studio.build dragAndLeave {}).toOption.any (fun s =>
      decide ((drive .quiet draggedAway s).pool.isEmpty ∧ (drive .quiet draggedAway s).speech.isEmpty ∧
        Held (some .left) (drive .quiet draggedAway s).grips ∧
        ¬ (drive .quiet draggedAway s).Owns (some .left))) = true := by decide +kernel
  obtain ⟨s, hs, ht⟩ := exists_built h
  obtain ⟨hpool, hspeech, hheld, howns⟩ := of_decide_eq_true ht
  exact ⟨s, hs, List.isEmpty_iff.mp hpool, List.isEmpty_iff.mp hspeech, hheld, howns⟩

theorem held_owned_iff_dragAndLeave : ∃ s, Studio.build dragAndLeave {} = .ok s ∧ Desk.quiet.Shows ∧
    (drive .quiet draggedAway s).pool = [] ∧ Held (some .left) (drive .quiet draggedAway s).grips ∧
    ∃ before inp later, draggedAway = before ++ .input inp :: later ∧
      Tells (some .left) (some true) (drive .quiet before s) (drive .quiet (before ++ [.input inp]) s) ∧
      Tells (some .left) none (drive .quiet (before ++ [.input inp]) s) (drive .quiet draggedAway s) ∧
      ((drive .quiet draggedAway s).Owns (some .left) ↔
        (drive .quiet draggedAway s).entrances = (steered .quiet inp (drive .quiet before s)).entrances) := by
  obtain ⟨s, hb, hpool, _, hheld, _⟩ := dragAndLeave_holds
  exact ⟨s, hb, plain_shows _, hpool, hheld, held_owned_iff (plain_shows _) hb rfl (by decide) hpool hheld⟩

/-- **A mode that is left may leave a button held**: it is not so that the current mode owns every button that is
held once both queues are empty. -/
theorem held_without_owner : ¬ ∀ (desk : Desk) (cfg : Config) (start s : Studio), desk.Shows →
    Studio.build cfg start = .ok s → start.pool = [] → (∀ b, ¬ Held b start.grips) → ∀ ds : List Drive,
      (drive desk ds s).pool = [] → (drive desk ds s).speech = [] →
        ∀ b, Held b (drive desk ds s).grips → (drive desk ds s).Owns b := by
  intro h
  obtain ⟨s, hb, hpool, hspeech, hheld, howns⟩ := dragAndLeave_holds
  have hfree : ∀ b, ¬ Held b (Studio.grips {}) := fun b => by simp [Held, Studio.grips]
  exact howns (h .quiet dragAndLeave {} s (plain_shows _) hb rfl hfree draggedAway hpool hspeech _ hheld)

end PadScribe
