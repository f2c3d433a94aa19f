import Mathlib.Data.List.Induction
import PadScribe.Proofs.Quiet

/-!
# `Proofs.Releasing` — what the gate releases

When the gate first sees that the program is off, it tells the pointer to release all of its buttons. It tells so
at once, while the presses of rules wait in the queue of short work; so a press that waits when the gate shuts
reaches the pointer after the buttons were released. While the gate is shut nothing else joins the queue that is
about buttons, since only spoken text passes the modes then. So what is held once the queue is empty is exactly
what the grips that waited when the gate shut leave held.

## Contents

* `Happening`, `happen` — events, and looks of the gate without an input
* `Guarded`, `guard_guarded`, `dispatch_guarded` — what the gate grants between two states
* `act_guarded` — one event
* `exists_shutting`, `held_while_shut` — every run that ends with the gate shut
-/

namespace PadScribe

/-- What happens while the program runs: it takes in an event, or the gate looks at the flag of the user without
an input at hand. -/
inductive Happening where
  | event (e : Event)
  | look

/-- What the program does when something happens. -/
def Happening.act (desk : Desk) : Happening → Step Unit
  | event e => e.act desk
  | look => do let _ ← guard desk; return

/-- The state after a row of happenings. -/
def happen (desk : Desk) (hs : List Happening) (s : Studio) : Studio :=
  afterAll (Happening.act desk) hs s

variable {desk : Desk} {s s' : Studio}

theorem happen_append (hs : List Happening) (h : Happening) (s : Studio) :
    happen desk (hs ++ [h]) s = after (h.act desk) (happen desk hs s) :=
  afterAll_concat _ hs h s

/-! ## The gate -/

/-- The gate stands open: the program is on, and the gate has seen that it is. -/
def Studio.Open (s : Studio) : Prop :=
  s.control.enabled = true ∧ s.observedEnabled = true

/-- **What the gate grants between two states.** While it is shut, only quiet moves are made unless it opens; while
it is open it stays open; and when it shuts, the last that the pointer was told is to release all buttons. -/
structure Guarded (desk : Desk) (s s' : Studio) : Prop where
  running : Running s'
  shut : s.observedEnabled = false → Moves desk Mark.quiet s s' ∨ s'.Open
  stays : s.Open → s'.Open
  released : s.observedEnabled = true → s'.observedEnabled = false → ∃ gs, s'.grips = gs ++ [.releaseAll]

theorem guarded_trans (hd : desk.Shows) {t u : Studio} (h : Running s → Guarded desk s t)
    (h' : Running t → Guarded desk t u) (hr : Running s) : Guarded desk s u := by
  have hst := h hr
  have htu := h' hst.running
  refine ⟨htu.running, fun hs => ?_, fun hs => htu.stays (hst.stays hs), fun hs hu => ?_⟩
  · rcases hst.shut hs with hm | hopen
    · have ht : t.observedEnabled = false := (moves_flag id hm).2.trans hs
      exact (htu.shut ht).imp hm.trans id
    · exact .inr (htu.stays hopen)
  · cases ht : t.observedEnabled with
    | true => exact htu.released ht hu
    | false =>
        -- the gate shut before, and stays shut
        obtain ⟨gs, hgs⟩ := hst.released hs ht
        rcases htu.shut ht with hm | hopen
        · exact ⟨gs, (moves_quiet hd hst.running hm).1.trans hgs⟩
        · exact absurd (hu.symm.trans hopen.2) (by simp)

/-- Moves without marks are granted. -/
theorem unmarked_guarded (h : Moves desk (fun _ => False) s s') (hr : Running s) : Guarded desk s s' := by
  obtain ⟨he, ho⟩ := moves_flag id h
  refine ⟨moves_running h hr, fun _ => .inl (moves_mono (fun _ h => h.elim) h), fun hs => ?_, fun hs hs' => ?_⟩
  · exact ⟨he.trans hs.1, ho.trans hs.2⟩
  · exact absurd (hs.symm.trans (ho.symm.trans hs')) (by simp)

/-- What ends with the gate open is granted. -/
theorem opened_guarded (h : s'.Open) (hr : Running s') : Guarded desk s s' :=
  ⟨hr, fun _ => .inr h, fun _ => h, fun _ hs' => absurd (hs'.symm.trans h.2) (by simp)⟩

/-- **The gate** grants what it does itself. -/
theorem guard_guarded (hd : desk.Shows) (hr : Running s) : Guarded desk s (after (guard desk) s) := by
  have hflag : ∀ on, Running { s with observedEnabled := on } := by
    intro on
    have hsee : Move desk (fun _ => True) s { s with observedEnabled := on } := .see s on trivial
    exact move_running hsee hr
  rcases guard_cases desk s with ⟨-, hsame⟩ | ⟨hon, -, hopens⟩ | ⟨hoff, hne, -⟩
  · rw [after_ok hsame]
    exact unmarked_guarded .refl hr
  · rw [after_ok hopens]
    exact opened_guarded ⟨hon, rfl⟩ (hflag true)
  · have hgrip : Moves desk (fun _ => True) { s with observedEnabled := false } _ :=
      moves_single (.grip _ .releaseAll .releaseAll rfl trivial)
    rw [after_guard_off hoff hne]
    refine ⟨moves_running hgrip (hflag false), fun hs => ?_, fun hs => ?_, fun _ _ => ?_⟩
    · exact absurd (hne.symm.trans hs) (by simp)
    · exact absurd (hoff.symm.trans hs.1) (by simp)
    · refine ⟨s.grips, ?_⟩
      unfold Studio.grips
      rw [List.filterMap_append, (hd.grip .releaseAll .releaseAll rfl).1]

/-- The gate lets inputs pass only when it stands open then. -/
theorem guard_opens (h : guard desk s = .ok true s') : s'.Open := by
  have hon : s.control.enabled = true := (guard_value h).symm
  rw [guard_open hon] at h
  obtain ⟨_, rfl⟩ := EStateM.Result.ok.inj h
  exact ⟨hon, rfl⟩

/-- **An input that the gate lets pass** leaves it open. -/
theorem handle_guarded (inp : Input) (ho : s.Open) (hr : Running s) :
    Guarded desk s (after (handle desk inp) s) := by
  have hm : Moves desk (· ≠ .flag) (handed inp s) (after (handle desk inp) s) :=
    handle_moves (fun _ => by simp) (by simp) hr.wired.nodup
  obtain ⟨he, hobs⟩ := moves_flag (by simp) hm
  exact opened_guarded ⟨he.trans ho.1, hobs.trans ho.2⟩ (moves_running hm (handed_running inp hr))

theorem dispatch_guarded (hd : desk.Shows) (inp : Input) (s : Studio) (hr : Running s) :
    Guarded desk s (after (dispatch desk inp) s) := by
  unfold dispatch
  refine after_bind_rel (R := fun s t => Running s → Guarded desk s t) (guarded_trans hd)
    (guard_guarded hd) (fun b t hb => ?_) hr
  cases b with
  | false => exact unmarked_guarded .refl
  | true => exact handle_guarded inp (guard_opens hb)

/-! ## Events -/

theorem look_guarded (hd : desk.Shows) (hr : Running s) :
    Guarded desk s (after (Happening.look.act desk) s) :=
  after_bind_rel (R := fun s t => Running s → Guarded desk s t) (guarded_trans hd)
    (guard_guarded hd) (fun _ _ _ => unmarked_guarded .refl) hr

/-- **Whatever happens** is granted by the gate, or leaves the gate and the row of grips as they are. -/
theorem act_guarded (hd : desk.Shows) (h : Happening) (hr : Running s) :
    Guarded desk s (after (h.act desk) s) ∨
      ((after (h.act desk) s).allGrips = s.allGrips ∧
        (after (h.act desk) s).observedEnabled = s.observedEnabled) := by
  cases h with
  | look => exact .inl (look_guarded hd hr)
  | event e =>
      cases e with
      | input inp => exact .inl (dispatch_guarded hd inp s hr)
      | report device r =>
          exact .inl (receive_rel (R := fun s t => Running s → Guarded desk s t) (guarded_trans hd)
            unmarked_guarded (dispatch_guarded hd) device r s hr)
      | line text =>
          refine .inl ?_
          show Guarded desk s (after (speakLine desk text) s)
          unfold speakLine
          simp only []
          split
          · exact unmarked_guarded .refl hr
          · exact dispatch_guarded hd _ s hr
      | result i text => exact .inl (unmarked_guarded (hear_moves i text s) hr)
      | enable on => exact .inr ⟨rfl, rfl⟩
      | toggle => exact .inr ⟨rfl, rfl⟩
      | reload cfg => exact .inr (reload_grips cfg s)
      | work q =>
          obtain ⟨t, hst, ht, hm⟩ := runHead_quiet hd hr q
          refine .inr ⟨(moves_quiet_allGrips hd ht hm).trans hst.grips, ?_⟩
          exact (moves_flag id hm).2.trans hst.observed

theorem happened_running (hd : desk.Shows) (h : Happening) (hr : Running s) :
    Running (after (h.act desk) s) := by
  cases h with
  | event e => exact act_running e hr
  | look => exact (look_guarded hd hr).running

theorem happen_running (hd : desk.Shows) (hs : List Happening) (hr : Running s) : Running (happen desk hs s) :=
  afterAll_keep (fun h _ => happened_running hd h) hs hr

/-! ## Every run -/

/-- While the gate stays shut, the row of grips stays as it is. -/
theorem act_shut (hd : desk.Shows) (h : Happening) (hr : Running s) (hs : s.observedEnabled = false)
    (hs' : (after (h.act desk) s).observedEnabled = false) : (after (h.act desk) s).allGrips = s.allGrips := by
  rcases act_guarded hd h hr with hg | ⟨hsame, _⟩
  · rcases hg.shut hs with hm | hopen
    · exact moves_quiet_allGrips hd hr hm
    · exact absurd (hs'.symm.trans hopen.2) (by simp)
  · exact hsame

/-- When the gate shuts, all buttons are released. -/
theorem act_shuts (hd : desk.Shows) (h : Happening) (hr : Running s) (hs : s.observedEnabled = true)
    (hs' : (after (h.act desk) s).observedEnabled = false) :
    ∃ gs, (after (h.act desk) s).grips = gs ++ [.releaseAll] := by
  rcases act_guarded hd h hr with hg | ⟨_, hsame⟩
  · exact hg.released hs hs'
  · exact absurd (hs.symm.trans (hsame.symm.trans hs')) (by simp)

/-- **Where the gate shut last**, in a run that ends with the gate shut: the buttons were released then, and what
waited then is all that came after that. -/
theorem exists_shutting (hd : desk.Shows) (hr : Running s) (hon : s.observedEnabled = true)
    {hs : List Happening} (hshut : (happen desk hs s).observedEnabled = false) :
    ∃ before h later, hs = before ++ h :: later ∧
      (happen desk before s).observedEnabled = true ∧
      (∀ between, between <+: later → (happen desk (before ++ h :: between) s).observedEnabled = false) ∧
      ∃ gs, (happen desk (before ++ [h]) s).grips = gs ++ [.releaseAll] ∧
        (happen desk hs s).allGrips = gs ++ [.releaseAll] ++ (happen desk (before ++ [h]) s).waitingGrips := by
  induction hs using List.reverseRecOn with
  | nil => exact absurd (hon.symm.trans hshut) (by simp)
  | append_singleton hs x ih =>
      have hrun : Running (happen desk hs s) := happen_running hd hs hr
      have hlast := hshut
      rw [happen_append] at hlast
      cases hbefore : (happen desk hs s).observedEnabled with
      | true =>
          -- it shuts now
          obtain ⟨gs, hgs⟩ := act_shuts hd x hrun hbefore hlast
          refine ⟨hs, x, [], rfl, hbefore, fun between hb => ?_, gs, ?_, ?_⟩
          · rw [List.prefix_nil.mp hb]
            exact hshut
          · rw [happen_append]
            exact hgs
          · rw [happen_append]
            exact congrArg (· ++ _) hgs
      | false =>
          -- it shut before
          obtain ⟨before, h, later, rfl, hopen, hstay, gs, hgs, hall⟩ := ih hbefore
          refine ⟨before, h, later ++ [x], by simp, hopen, fun between hb => ?_, gs, hgs, ?_⟩
          · rcases List.prefix_concat_iff.mp hb with rfl | hb
            · simpa using hshut
            · exact hstay between hb
          · rw [happen_append, act_shut hd x hrun hbefore hlast]
            exact hall

/-- **What is held while the program is off.** A run that starts with the gate open and an empty queue, and ends
with the gate shut and an empty queue, has a last moment at which the gate shut. All buttons were released then,
and a button is held at the end exactly when the grips that waited at that moment leave it held: when the last of
them that is about the button is a press. -/
theorem held_while_shut (hd : desk.Shows) {cfg : Config} {start s : Studio}
    (hb : Studio.build cfg start = .ok s) (hpool : start.pool = []) (hon : start.observedEnabled = true)
    {hs : List Happening} (hshut : (happen desk hs s).observedEnabled = false)
    (hdone : (happen desk hs s).pool = []) :
    ∃ before h later, hs = before ++ h :: later ∧
      (happen desk before s).observedEnabled = true ∧
      (∀ between, between <+: later → (happen desk (before ++ h :: between) s).observedEnabled = false) ∧
      (∃ gs, (happen desk (before ++ [h]) s).grips = gs ++ [.releaseAll]) ∧
      ∀ b, Held b (happen desk hs s).grips ↔ Held b (happen desk (before ++ [h]) s).waitingGrips := by
  have hr : Running s := build_running hb hpool
  have hopen : s.observedEnabled = true := (build_grips hb).2.trans hon
  obtain ⟨before, h, later, hsplit, hbefore, hstay, gs, hgs, hall⟩ := exists_shutting hd hr hopen hshut
  refine ⟨before, h, later, hsplit, hbefore, hstay, ⟨gs, hgs⟩, fun b => ?_⟩
  rw [← Studio.allGrips_eq_grips hdone, hall]
  exact held_append_releaseAll b gs _

/-- A button of the controller that holds a button of the pointer. -/
def dragger : Config :=
  { modes := [{
      declaration := .str "[idle] -id a"
      rules := [.str "[switch] button -id Y -> [mouse_toggle]"] }] }

/-- The button goes down, the program is switched off and the gate sees it, and then the press runs. -/
def pressedLate : List Happening :=
  [.event (.input (.press .y [])), .event (.enable false), .look, .event (.work .pool)]

theorem dragger_holds : ∃ s, Studio.build dragger {} = .ok s ∧
    ((happen .quiet pressedLate s).control.enabled = false ∧
      (happen .quiet pressedLate s).observedEnabled = false ∧ (happen .quiet pressedLate s).pool = [] ∧
      (happen .quiet pressedLate s).speech = []) ∧
    Held (some .left) (happen .quiet pressedLate s).grips := by
  have h : (Studio.build dragger {}).toOption.any (fun s =>
      decide ((happen .quiet pressedLate s).control.enabled = false ∧
        (happen .quiet pressedLate s).observedEnabled = false ∧ (happen .quiet pressedLate s).pool.isEmpty ∧
        (happen .quiet pressedLate s).speech.isEmpty ∧
        Held (some .left) (happen .quiet pressedLate s).grips)) = true := by decide +kernel
  obtain ⟨s, hs, ht⟩ := exists_built h
  obtain ⟨hoff, hseen, hpool, hspeech, hheld⟩ := of_decide_eq_true ht
  exact ⟨s, hs, ⟨hoff, hseen, List.isEmpty_iff.mp hpool, List.isEmpty_iff.mp hspeech⟩, hheld⟩

theorem held_while_shut_dragger : ∃ s, Studio.build dragger {} = .ok s ∧ Desk.quiet.Shows ∧
    (happen .quiet pressedLate s).observedEnabled = false ∧ (happen .quiet pressedLate s).pool = [] ∧
    ∃ before h later, pressedLate = before ++ h :: later ∧
      (happen .quiet before s).observedEnabled = true ∧
      (∀ between, between <+: later → (happen .quiet (before ++ h :: between) s).observedEnabled = false) ∧
      (∃ gs, (happen .quiet (before ++ [h]) s).grips = gs ++ [.releaseAll]) ∧
      ∀ b, Held b (happen .quiet pressedLate s).grips ↔ Held b (happen .quiet (before ++ [h]) s).waitingGrips := by
  obtain ⟨s, hb, ⟨_, hseen, hpool, _⟩, _⟩ := dragger_holds
  exact ⟨s, hb, plain_shows _, hseen, hpool, held_while_shut (plain_shows _) hb rfl rfl hseen hpool⟩

/-- **Shutting the gate does not let go of every button**: it is not so that nothing is held once the program is
off, the gate has seen it and both queues are empty. -/
theorem not_free_while_shut : ¬ ∀ (desk : Desk) (cfg : Config) (start s : Studio), desk.Shows →
    Studio.build cfg start = .ok s → start.pool = [] → start.observedEnabled = true → ∀ hs : List Happening,
      (happen desk hs s).control.enabled = false → (happen desk hs s).observedEnabled = false →
      (happen desk hs s).pool = [] → (happen desk hs s).speech = [] →
        ∀ b, ¬ Held b (happen desk hs s).grips := by
  intro h
  obtain ⟨s, hb, ⟨hoff, hseen, hpool, hspeech⟩, hheld⟩ := dragger_holds
  exact h .quiet dragger {} s (plain_shows _) hb rfl rfl pressedLate hoff hseen hpool hspeech _ hheld

end PadScribe
