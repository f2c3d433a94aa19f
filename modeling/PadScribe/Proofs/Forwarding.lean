import PadScribe.Proofs.Gate
import PadScribe.Proofs.Releasing

/-!
# `Proofs.Forwarding` — what the gate hands on and releases

The gate remembers what it saw last of the flag of the user, while the flag may be turned any number of times
between two looks. An input passes by the flag alone. Buttons are released by the memory as well: once for every
look that sees the flag off when the look before it, or the start, saw it on. What the modes make of an input turns
neither the flag nor the memory, hands on no other input, and tells the pointer nothing about its buttons at once;
this holds of any modes whatever.

## Contents

* `Muted`, `moves_muted`, `handle_muted` — what handing an input to the modes leaves alone
* `GateCall`, `GateCall.happening` — what is asked of the flag and of the gate
* `GateCall.flag`, `flagAfter`, `sightings`, `sentWhileOn` — the flag, what is seen of it, and what is sent while it
  is on
* `Answered`, `guard_answered`, `call_answered`, `calls_answered` — one call, and a row of calls
* **`gate_forwards_and_releases`** — what a row of calls hands on and releases
-/

namespace PadScribe

variable {desk : Desk} {s s' : Studio}

/-! ## What the modes leave alone -/

/-- **Two states between which the gate has no part**: neither the flag nor what was seen of it changes, no input is
handed on, and the pointer is told nothing about its buttons. -/
structure Muted (s t : Studio) : Prop where
  enabled : t.control.enabled = s.control.enabled
  observed : t.observedEnabled = s.observedEnabled
  deliveries : t.deliveries = s.deliveries
  grips : t.grips = s.grips

theorem muted_trans {t u : Studio} (h : Muted s t) (h' : Muted t u) : Muted s u :=
  ⟨h'.enabled.trans h.enabled, h'.observed.trans h.observed, h'.deliveries.trans h.deliveries,
    h'.grips.trans h.grips⟩

/-- The marks that leave the gate and the buttons of the pointer alone. -/
def Mark.muted : Mark → Prop
  | grip _ => False
  | flag => False
  | _ => True

theorem move_grips (hs : desk.Shows) (h : Move desk Mark.muted s s') : s'.grips = s.grips := by
  cases h with
  | enter id _ _ => exact grips_append s rfl
  | understand v text _ _ es plain _ _ =>
      exact grips_append s (List.filterMap_eq_nil_iff.mpr fun e he => (plain e he).2.2)
  | note e plain => exact grips_append s (by simp [plain.2.2])
  | answer r answers => exact grips_append s (hs.plain r answers).1
  | grip q g _ allowed => exact allowed.elim
  | _ => rfl

theorem moves_muted (hd : desk.Outward) (hs : desk.Shows) (h : Moves desk Mark.muted s s') : Muted s s' := by
  induction h with
  | refl => exact ⟨rfl, rfl, rfl, rfl⟩
  | tail _ hm ih =>
      obtain ⟨henabled, hobserved⟩ := moves_flag id (moves_single hm)
      exact muted_trans ih ⟨henabled, hobserved, move_deliveries hd hm, move_grips hs hm⟩

/-- Latching the switches of a mode leaves the actions of all triggers as they are. -/
theorem actions_latched (id : String) (mode : Mode) (inp : Input) (s : Studio) :
    (latched id mode inp s).manager.actions = s.manager.actions := by
  unfold Manager.actions latched Manager.update
  rw [List.flatMap_map]
  congr 1
  funext x
  split <;> rfl

theorem passMode_muted (hd : desk.Outward) (hs : desk.Shows) (id : String) (inp : Input) (s : Studio) :
    Muted s (after (passMode desk id inp) s) := by
  cases hfind : s.manager.find? id with
  | none =>
      rw [after_ok (passMode_unknown inp hfind)]
      exact ⟨rfl, rfl, rfl, rfl⟩
  | some mode =>
      have hlatched : Muted s (latched id mode inp s) := ⟨rfl, rfl, rfl, rfl⟩
      have hpass := passMode_found desk inp hfind
      cases hout : (ModeSwitch.passAll mode.switches inp).2.2 with
      | error fault =>
          rw [hout] at hpass
          rw [after_error hpass]
          exact hlatched
      | ok out =>
          rw [hout] at hpass
          rw [after_eq hpass]
          have hinstalled : ∀ t ∈ mode.triggers, t.action ∈ (latched id mode inp s).manager.actions := by
            intro t ht
            rw [actions_latched]
            exact find_actions hfind ht
          exact muted_trans hlatched
            (moves_muted hd hs (runTriggers_moves hinstalled fun _ _ _ _ _ => trivial))

/-- **What the modes make of an input**, once they were handed it. -/
theorem handle_muted (hd : desk.Outward) (hs : desk.Shows) (inp : Input) (s : Studio) :
    Muted (handed inp s) (after (handle desk inp) s) := by
  have hnote : emit (.delivered inp) s = .ok () (handed inp s) := rfl
  rw [handle_eq, after_bind_ok hnote]
  refine after_bind_rel (R := Muted) muted_trans ?_ fun goal t _ => ?_
  · exact moves_muted hd hs (steer_moves (fun _ => trivial) inp _)
  · cases goal with
    | none => exact ⟨rfl, rfl, rfl, rfl⟩
    | some id => exact passMode_muted hd hs id inp t

/-! ## Calls -/

/-- What is asked of the flag of the user and of the gate. -/
inductive GateCall where
  | enable (on : Bool)
  | toggle
  | look
  | input (inp : Input)

namespace GateCall

/-- The call as it happens in the program. -/
def happening : GateCall → Happening
  | enable on => .event (.enable on)
  | toggle => .event .toggle
  | look => .look
  | input inp => .event (.input inp)

/-- The flag after a call. -/
def flag (on : Bool) : GateCall → Bool
  | enable b => b
  | toggle => !on
  | _ => on

/-- What a call sees of the flag: only looks and inputs look at it. -/
def sighting? (on : Bool) : GateCall → Option Bool
  | look | input _ => some on
  | _ => none

/-- The input that a call sends while the flag is on. -/
def sent? (on : Bool) : GateCall → Option Input
  | input inp => if on then some inp else none
  | _ => none

end GateCall

/-- The flag after some calls. -/
def flagAfter (on : Bool) (calls : List GateCall) : Bool :=
  calls.foldl GateCall.flag on

/-- What some calls see of the flag, in order. -/
def sightings : Bool → List GateCall → List Bool
  | _, [] => []
  | on, c :: rest => (c.sighting? on).toList ++ sightings (c.flag on) rest

/-- The inputs that some calls send while the flag is on, in order. -/
def sentWhileOn : Bool → List GateCall → List Input
  | _, [] => []
  | on, c :: rest => (c.sent? on).toList ++ sentWhileOn (c.flag on) rest

/-- **What a call does**, by the flag and by what was seen of it last: the buttons are released exactly by a call that
sees the flag off after it was seen on. -/
structure Answered (c : GateCall) (s t : Studio) : Prop where
  enabled : t.control.enabled = c.flag s.control.enabled
  observed : t.observedEnabled = (c.sighting? s.control.enabled).getD s.observedEnabled
  deliveries : t.deliveries = s.deliveries ++ (c.sent? s.control.enabled).toList
  grips : t.grips = s.grips ++
    if c.sighting? s.control.enabled = some false ∧ s.observedEnabled = true then [.releaseAll] else []

theorem guard_answered (hd : desk.Outward) (hs : desk.Shows) (s : Studio) :
    Answered .look s (after (guard desk) s) := by
  rcases guard_cases desk s with ⟨hseen, hsame⟩ | ⟨hon, -, hopens⟩ | ⟨hoff, hne, -⟩
  · rw [after_ok hsame]
    exact ⟨rfl, hseen.symm, (List.append_nil _).symm, by simp [GateCall.sighting?, hseen]⟩
  · rw [after_ok hopens]
    exact ⟨rfl, hon.symm, (List.append_nil _).symm, by simp [GateCall.sighting?, hon, Studio.grips]⟩
  · rw [after_guard_off hoff hne]
    refine ⟨rfl, hoff.symm, ?_, ?_⟩
    · have hquiet := deliveries_append (s := s) _ (hd _ (.inl ⟨.releaseAll, rfl⟩))
      exact hquiet.trans (by simp [GateCall.sent?])
    · have hshown := (hs.grip .releaseAll .releaseAll rfl).1
      unfold Studio.grips
      rw [List.filterMap_append, hshown]
      simp [GateCall.sighting?, hoff, hne]

/-- **One call.** -/
theorem call_answered (hd : desk.Outward) (hs : desk.Shows) (c : GateCall) (s : Studio) :
    Answered c s (after (c.happening.act desk) s) := by
  cases c with
  | enable on => exact ⟨rfl, rfl, (List.append_nil _).symm, (List.append_nil _).symm⟩
  | toggle => exact ⟨rfl, rfl, (List.append_nil _).symm, (List.append_nil _).symm⟩
  | look =>
      have hlook : after (Happening.look.act desk) s = after (guard desk) s := by
        show after (guard desk >>= fun _ => pure ()) s = _
        cases hguard : guard desk s with
        | error fault t => rw [after_bind_error hguard, after_error hguard]
        | ok b t => rw [after_bind_ok hguard, after_ok hguard, after_pure]
      show Answered .look s (after (Happening.look.act desk) s)
      rw [hlook]
      exact guard_answered hd hs s
  | input inp =>
      show Answered (.input inp) s (after (dispatch desk inp) s)
      cases hon : s.control.enabled with
      | false =>
          -- the input is lost, and the gate looks all the same
          obtain ⟨henabled, hobserved, hdeliveries, hgrips⟩ := guard_answered hd hs s
          rw [dispatch_off inp hon]
          refine ⟨henabled, hobserved, ?_, hgrips⟩
          rw [hdeliveries, hon]
          rfl
      | true =>
          obtain ⟨henabled, hobserved, hdeliveries, hgrips⟩ :=
            handle_muted hd hs inp { s with observedEnabled := true }
          rw [after_eq (dispatch_on inp hon)]
          refine ⟨henabled, hobserved.trans ?_, hdeliveries.trans ?_, hgrips.trans ?_⟩
          · rw [hon]
            rfl
          · rw [hon]
            exact List.filterMap_append
          · rw [hon]
            exact (grips_append s rfl).trans (List.append_nil _).symm

/-- **A row of calls**, by what is seen and sent on the way. -/
theorem calls_answered (hd : desk.Outward) (hs : desk.Shows) (calls : List GateCall) (s : Studio) :
    let t := happen desk (calls.map GateCall.happening) s
    t.control.enabled = flagAfter s.control.enabled calls ∧
      t.observedEnabled = (sightings s.control.enabled calls).getLastD s.observedEnabled ∧
      t.deliveries = s.deliveries ++ sentWhileOn s.control.enabled calls := by
  induction calls generalizing s with
  | nil => exact ⟨rfl, rfl, (List.append_nil _).symm⟩
  | cons c rest ih =>
      obtain ⟨henabled, hobserved, hdeliveries, -⟩ := call_answered hd hs c s
      obtain ⟨hflag, hlast, hsent⟩ := ih (after (c.happening.act desk) s)
      rw [henabled] at hflag hlast hsent
      refine ⟨hflag, hlast.trans ?_, hsent.trans ?_⟩
      · have hcons : sightings s.control.enabled (c :: rest)
            = (c.sighting? s.control.enabled).toList ++ sightings (c.flag s.control.enabled) rest := rfl
        rw [hobserved, hcons]
        cases c.sighting? s.control.enabled with
        | none => rfl
        | some seen => exact (List.getLastD_cons ..).symm
      · rw [hdeliveries, List.append_assoc]
        rfl

/-! ## Every row of calls -/

/-- **What the gate hands on and releases.** In every row of calls that a gate answers which has not yet seen the
program off, the modes are handed exactly the inputs that were sent while the flag was on, in order. Every call
releases the buttons of the pointer once if it sees the flag off where the last call that saw the flag, or the
start, saw it on, and no other call tells the pointer anything about its buttons. -/
theorem gate_forwards_and_releases (hd : desk.Outward) (hs : desk.Shows) {s : Studio}
    (hfresh : s.observedEnabled = true) :
    (∀ calls : List GateCall, (happen desk (calls.map GateCall.happening) s).deliveries
      = s.deliveries ++ sentWhileOn s.control.enabled calls) ∧
    ∀ (before : List GateCall) (c : GateCall),
      let seen := (sightings s.control.enabled before).getLastD true
      let sees := c.sighting? (flagAfter s.control.enabled before)
      (happen desk ((before ++ [c]).map GateCall.happening) s).grips
        = (happen desk (before.map GateCall.happening) s).grips ++
            if sees = some false ∧ seen = true then [.releaseAll] else [] := by
  refine ⟨fun calls => (calls_answered hd hs calls s).2.2, fun before c => ?_⟩
  obtain ⟨hflag, hlast, -⟩ := calls_answered hd hs before s
  have hcall := (call_answered hd hs c (happen desk (before.map GateCall.happening) s)).grips
  rw [hflag, hlast, hfresh] at hcall
  rw [List.map_append, List.map_singleton, happen_append]
  exact hcall

/-- The flag is turned over and back unseen, then off before an input, over and back again, on before another input,
and at last off. -/
def flicker : List GateCall :=
  [.input (.press .y []), .toggle, .toggle, .look, .enable false, .input (.press .x []), .look, .toggle, .toggle,
    .look, .enable true, .input (.press .y []), .enable false]

theorem gate_forwards_and_releases_flicker : ∃ s, Studio.build dragger {} = .ok s ∧
    Desk.quiet.Outward ∧ Desk.quiet.Shows ∧ s.observedEnabled = true ∧
    (happen .quiet (flicker.map GateCall.happening) s).deliveries
      = s.deliveries ++ sentWhileOn s.control.enabled flicker ∧
    (happen .quiet ((flicker ++ [GateCall.look]).map GateCall.happening) s).grips
      = (happen .quiet (flicker.map GateCall.happening) s).grips ++ [.releaseAll] ∧
    (happen .quiet ((flicker ++ [GateCall.look]).map GateCall.happening) s).grips = [.releaseAll, .releaseAll] := by
  have h : (Studio.build dragger {}).toOption.any (fun s =>
      decide (s.control.enabled = true ∧
        (happen .quiet ((flicker ++ [GateCall.look]).map GateCall.happening) s).grips
          = [.releaseAll, .releaseAll])) = true := by
    decide +kernel
  obtain ⟨s, hb, ht⟩ := exists_built h
  obtain ⟨hon, htwice⟩ := of_decide_eq_true ht
  have hfresh : s.observedEnabled = true := (build_grips hb).2
  obtain ⟨hforwards, hreleases⟩ :=
    gate_forwards_and_releases (plain_outward fun _ => .exited 0) (plain_shows fun _ => .exited 0) hfresh
  refine ⟨s, hb, plain_outward _, plain_shows _, hfresh, hforwards flicker, ?_, htwice⟩
  have hlook := hreleases flicker .look
  rw [hon] at hlook
  exact hlook

end PadScribe
