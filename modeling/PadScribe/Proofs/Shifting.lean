import PadScribe.Proofs.Installing

/-!
# `Proofs.Shifting` — shifts as a two-place machine

Where no trigger enters a mode, only shifts do. Then all that matters for the way of an input is where the
modes stand: in the default mode, or in the mode of a shift that is held. `Stand` is that place and
`Stand.next` says how an input changes it and which mode receives the input. The manager keeps more: latches,
the current mode, the condition that leads back. `Follows` ties the two together, one input keeps the tie, and
so does every run.

## Contents

* `Shift.leadsAway`, `Stand`, `Stand.next`, `Stand.along` — the machine
* `route`, `routeAll`, `handleAll` — inputs, and the modes that receive them
* `Follows` — the tie between the machine and the studio
* `tryShifts_ok`, `steer_follows`, `passMode_follows` — the parts of a dispatch
* `route_follows`, `routeAll_follows` — one input, and a row of inputs
* `shifts_simulate` — every run
-/

namespace PadScribe

/-! ## The machine -/

/-- Whether a shift leads to one of the modes that is not the first of them. -/
def Shift.leadsAway (modes : List Mode) (k : Shift) : Bool :=
  k.target.any fun id => (modes.map Mode.id).contains id && modes.head?.any (·.id != id)

/-- Where the modes stand: in the default mode, or in the mode of a shift that is held. -/
inductive Stand where
  | home
  | held (k : Shift)

namespace Stand

/-- The id of the mode that a stand is in. -/
def modeId (modes : List Mode) : Stand → Option String
  | home => modes.head?.map Mode.id
  | held k => k.target

/-- **One input**: the stand after it, and the id of the mode that receives it, if it is not consumed. -/
def next (modes : List Mode) (shifts : List Shift) (inp : Input) : Stand → Stand × Option String
  | home =>
    match shifts.find? (·.switch.on.holds inp) with
    | none => (home, home.modeId modes)
    | some k => (if k.leadsAway modes then held k else home, none)
  | held k => if k.switch.off.holds inp then (home, none) else (held k, k.target)

/-- A row of inputs: the stand after them, and which modes received them. -/
def along (modes : List Mode) (shifts : List Shift) : Stand → List Input → Stand × List (Option String)
  | stand, [] => (stand, [])
  | stand, inp :: rest =>
    let (stand, received) := stand.next modes shifts inp
    let (stand, later) := stand.along modes shifts rest
    (stand, received :: later)

end Stand

/-! ## Inputs and the modes that receive them -/

section
variable (desk : Desk)

/-- One input, answered with the id of the mode that received it. -/
def route (inp : Input) : Step (Option String) := do
  emit (.delivered inp)
  match ← steer desk inp with
  | none => pure none
  | some id => do
    let found := (← get).manager.find? id
    passMode desk id inp
    pure (found.map Mode.id)

/-- A row of inputs, answered with the modes that received them. -/
def routeAll : List Input → Step (List (Option String))
  | [] => pure []
  | inp :: rest => do
    let received ← route desk inp
    let later ← routeAll rest
    pure (received :: later)

/-- A row of inputs. -/
def handleAll : List Input → Step Unit
  | [] => pure ()
  | inp :: rest => do
    handle desk inp
    handleAll rest

end

variable {desk : Desk} {s s' : Studio}

theorem handle_route (inp : Input) : handle desk inp = route desk inp >>= fun _ => pure () := by
  rw [handle_eq]
  unfold passOn route
  simp only [bind_assoc]
  congr 1
  funext _
  congr 1
  funext dest
  cases dest with
  | none => rfl
  | some id =>
      simp only [bind_assoc, pure_bind]
      funext s
      rw [bind_apply, get_apply]
      simp only []
      rw [bind_apply]
      cases passMode desk id inp s <;> rfl

/-- A row of inputs that no dispatch fails on can be answered. -/
theorem handleAll_route {inputs : List Input} (h : handleAll desk inputs s = .ok () s') :
    ∃ received, routeAll desk inputs s = .ok received s' := by
  induction inputs generalizing s with
  | nil =>
      obtain ⟨_, rfl⟩ := EStateM.Result.ok.inj h
      exact ⟨[], rfl⟩
  | cons inp rest ih =>
      simp only [handleAll, handle_route] at h
      obtain ⟨_, t, hr, hrest⟩ := bind_ok h
      obtain ⟨received, u, hroute, hu⟩ := bind_ok hr
      obtain ⟨_, rfl⟩ := EStateM.Result.ok.inj hu
      obtain ⟨later, hlater⟩ := ih hrest
      refine ⟨received :: later, ?_⟩
      simp only [routeAll, bind_apply, hroute, hlater, pure_apply]

/-! ## What a dispatch does to the manager -/

theorem utter_manager (v : Vocabulary) (text : String) (s : Studio) :
    (after (utter v text) s).manager = s.manager := by
  unfold after
  rw [utter_apply]
  cases (v.compile s.lastSpeech text).1.fault <;> rfl

/-- **Only triggers that enter a mode touch the manager.** -/
theorem action_manager {a : Action} (ha : ∀ id, a ≠ .enterMode id) (inp : Input) (s : Studio) :
    (after (a.run desk inp) s).manager = s.manager := by
  by_cases hv : ∃ v, a = .speech v
  · obtain ⟨v, rfl⟩ := hv
    simp only [Action.run]
    split
    · exact utter_manager v _ s
    · rfl
    · rfl
  · obtain ⟨ts, es, he⟩ := action_frame ha (fun v h => hv ⟨v, h⟩) inp s
    rw [he]

theorem runTriggers_manager {ts : List Trigger} (ha : ∀ t ∈ ts, ∀ id, t.action ≠ .enterMode id) (inp : Input)
    (s : Studio) : (after (runTriggers desk inp ts) s).manager = s.manager := by
  induction ts generalizing s with
  | nil => rfl
  | cons t rest ih =>
      have hrest : ∀ u, (after (runTriggers desk inp rest) u).manager = u.manager := fun u =>
        ih (fun t ht => ha t (List.mem_cons_of_mem _ ht)) u
      simp only [runTriggers]
      split
      · refine after_bind_rel (R := fun s t => t.manager = s.manager) (fun h h' => h'.trans h) ?_ ?_
        · exact action_manager (ha t (by simp)) inp s
        · exact fun _ u _ => hrest u
      · exact hrest s

/-- An input in a mode latches the switches of the mode and leaves the rest of the manager alone. -/
theorem passMode_manager {id : String} {mode : Mode} {inp : Input} (h : s.manager.find? id = some mode)
    (ha : ∀ t ∈ mode.triggers, ∀ id, t.action ≠ .enterMode id) :
    (after (passMode desk id inp) s).manager = (latched id mode inp s).manager := by
  have hp := passMode_found desk inp h
  cases ho : (ModeSwitch.passAll mode.switches inp).2.2 with
  | error fault =>
      rw [ho] at hp
      rw [after_error hp]
  | ok out =>
      rw [ho] at hp
      rw [after_eq hp]
      exact runTriggers_manager ha out _

/-! ## What the shifts do -/

/-- A manager whose first mode is its default mode, with different ids. -/
structure Manager.Sound (base : Manager) : Prop where
  nodup : (base.modes.map Mode.id).Nodup
  nonempty : base.modes ≠ []
  home : base.home = base.modes.head?.map Mode.id

variable {base : Manager}

theorem find_isSome_iff (m : Manager) (id : String) : (m.find? id).isSome ↔ id ∈ m.modes.map Mode.id := by
  simp [Manager.find?]

theorem home_of_setup {m m' : Manager} (h : m'.setup = m.setup) : m'.home = m.home := by
  show m'.setup.home = m.setup.home
  rw [h]

/-- The default mode is there. -/
theorem exists_home (hb : base.Sound) : ∃ id, base.home = some id ∧ (base.find? id).isSome := by
  cases hm : base.modes with
  | nil => exact absurd hm hb.nonempty
  | cons first rest =>
      refine ⟨first.id, by rw [hb.home, hm]; rfl, ?_⟩
      rw [find_isSome_iff, hm]
      simp

/-- Going back to the default mode cannot fail. -/
theorem restore_ok (hb : base.Sound) (hs : s.manager.setup = base.setup) (inp : Input) :
    ∃ t, restore inp s = .ok () t ∧ t.manager.setup = base.setup ∧ t.manager.current = base.home := by
  obtain ⟨id, hid, hfound⟩ := exists_home hb
  obtain ⟨mode, hmode⟩ := Option.isSome_iff_exists.mp ((find_isSome_of_setup hs id).trans hfound)
  refine ⟨switchedTo id mode (some inp) s, ?_, ?_, ?_⟩
  · rw [restore_eq inp ((home_of_setup hs).trans hid)]
    exact switchTo_found hmode
  · exact (setup_enteredOf s.manager id).trans hs
  · rw [hid]
    rfl

/-- **Turning a shift on** leads to its mode if there is one of that id, and warns if not. -/
theorem enterOrWarn_ok (hs : s.manager.setup = base.setup) (id : String) (inp : Input) :
    ∃ t, enterOrWarn id inp s = .ok () t ∧ t.manager.setup = base.setup ∧
      t.manager.current = if id ∈ base.modes.map Mode.id then some id else s.manager.current := by
  have hiff := find_isSome_iff base id
  rw [← find_isSome_of_setup hs id] at hiff
  unfold enterOrWarn
  cases hf : s.manager.find? id with
  | none =>
      have hno : id ∉ base.modes.map Mode.id := fun h => by simpa [hf] using hiff.mpr h
      rw [if_neg hno, tryCatch_apply, switchTo_unknown hf]
      exact ⟨_, submit_apply _ s, hs, rfl⟩
  | some mode =>
      have hyes : id ∈ base.modes.map Mode.id := hiff.mp (by simp [hf])
      rw [if_pos hyes, tryCatch_apply, switchTo_found hf]
      exact ⟨_, rfl, (setup_enteredOf s.manager id).trans hs, rfl⟩

/-- Where a shift leads: to its own mode, or nowhere. -/
theorem current_of_target (hb : base.Sound) {k : Shift} {id : String} (hk : k.target = some id) :
    (if id ∈ base.modes.map Mode.id then some id else base.home)
      = if k.leadsAway base.modes then k.target else base.home := by
  cases hm : base.modes with
  | nil => exact absurd hm hb.nonempty
  | cons first rest =>
      have hhome : base.home = some first.id := by rw [hb.home, hm]; rfl
      by_cases hid : first.id = id
      · simp [Shift.leadsAway, hk, hid, hhome]
      · simp [Shift.leadsAway, hk, hid]

theorem change_on_iff {k : Switch} {inp : Input} : k.change inp = .on ↔ k.on.holds inp = true := by
  unfold Switch.change
  by_cases hon : k.on.holds inp = true
  · simp [hon]
  · by_cases hoff : k.off.holds inp = true <;> simp [hon, hoff]

/-- A shift that an input does not turn on is passed over. -/
theorem find_cons_of_change_ne {k : Shift} {rest : List Shift} {inp : Input}
    (h : k.switch.change inp ≠ .on) :
    (k :: rest).find? (·.switch.on.holds inp) = rest.find? (·.switch.on.holds inp) := by
  have hno : k.switch.on.holds inp = false := by
    simpa using fun hon => h (change_on_iff.mpr hon)
  simp [hno]

/-- **The shifts of the default mode**: the first that the input turns on takes the input, and those before it
that it turns off enter the default mode anew. -/
theorem tryShifts_ok (hb : base.Sound) {inp : Input} {ks : List Shift} {i : Nat} {taken : Bool}
    (hs : s.manager.setup = base.setup) (hc : s.manager.current = base.home)
    (h : tryShifts desk inp i ks s = .ok taken s') :
    s'.manager.setup = base.setup ∧
      match ks.find? (·.switch.on.holds inp) with
      | none => taken = false ∧ s'.manager.current = base.home
      | some k => taken = true ∧
          s'.manager.current = (if k.leadsAway base.modes then k.target else base.home) ∧
          s'.manager.exit = some k.switch.off := by
  induction ks generalizing i s with
  | nil =>
      obtain ⟨rfl, rfl⟩ := EStateM.Result.ok.inj h
      exact ⟨hs, rfl, hc⟩
  | cons k rest ih =>
      simp only [tryShifts] at h
      cases hchange : k.switch.change inp with
      | on =>
          -- the shift takes the input, whether or not its mode is there
          have hfind : (k :: rest).find? (·.switch.on.holds inp) = some k := by
            simp [change_on_iff.mp hchange]
          rw [hchange] at h
          rw [hfind]
          obtain ⟨_, t, hrun, h⟩ := bind_ok h
          obtain ⟨_, u, hu, h⟩ := bind_ok h
          obtain ⟨_, rfl⟩ := EStateM.Result.ok.inj hu
          obtain ⟨rfl, rfl⟩ := EStateM.Result.ok.inj h
          cases htarget : k.target with
          | none =>
              rw [htarget] at hrun
              exact absurd hrun (by simp [Action.run])
          | some id =>
              rw [htarget] at hrun
              obtain ⟨v, hv, hvs, hvc⟩ := enterOrWarn_ok hs id inp
              obtain ⟨_, rfl⟩ := EStateM.Result.ok.inj (hrun.symm.trans hv)
              refine ⟨(setup_setShift t.manager i true).trans hvs, rfl, ?_, rfl⟩
              rw [← current_of_target hb htarget, ← hc]
              exact hvc
      | off =>
          -- the default mode is entered anew, so the rest meets the input as before
          have hne : k.switch.change inp ≠ .on := by simp [hchange]
          rw [hchange] at h
          rw [find_cons_of_change_ne hne]
          obtain ⟨t, ht, hts, htc⟩ := restore_ok hb hs inp
          obtain ⟨_, u, hrun, h⟩ := bind_ok h
          obtain ⟨_, rfl⟩ := EStateM.Result.ok.inj (hrun.symm.trans ht)
          obtain ⟨_, v, hv, h⟩ := bind_ok h
          obtain ⟨_, rfl⟩ := EStateM.Result.ok.inj hv
          refine ih ?_ ?_ h
          · exact (setup_setShift u.manager i false).trans hts
          · exact htc
      | none =>
          have hne : k.switch.change inp ≠ .on := by simp [hchange]
          rw [hchange] at h
          rw [find_cons_of_change_ne hne]
          exact ih hs hc h

/-! ## The tie between the machine and the studio -/

/-- **The studio follows the machine**: its modes are those that were installed, its current mode is the one
that the machine is in, and while a shift is held its off condition leads back. -/
structure Follows (base : Manager) (stand : Stand) (s : Studio) : Prop where
  setup : s.manager.setup = base.setup
  current : s.manager.current = stand.modeId base.modes
  held : ∀ k, stand = .held k →
    k ∈ base.shifts ∧ k.leadsAway base.modes ∧ s.manager.exit = some k.switch.off

/-- A shift that leads away has its mode among the modes. -/
theorem leadsAway_target {k : Shift} (hb : base.Sound) (h : k.leadsAway base.modes) :
    ∃ id, k.target = some id ∧ id ∈ base.modes.map Mode.id ∧ base.home ≠ some id := by
  unfold Shift.leadsAway at h
  cases hk : k.target with
  | none => simp [hk] at h
  | some id =>
      simp only [hk, Option.any_some, Bool.and_eq_true, List.contains_iff_mem] at h
      refine ⟨id, rfl, h.1, ?_⟩
      rw [hb.home]
      cases hm : base.modes.head? with
      | none => simp
      | some first =>
          have hne := h.2
          simp only [hm, Option.any_some, bne_iff_ne] at hne
          simpa using hne

/-- The mode that the machine is in is the current mode, and one of the modes. -/
theorem follows_currentMode {stand : Stand} (hb : base.Sound) (h : Follows base stand s) :
    ∃ mode ∈ s.manager.modes, s.manager.currentMode? = some mode ∧
      stand.modeId base.modes = some mode.id := by
  obtain ⟨id, hid, hfound⟩ : ∃ id, stand.modeId base.modes = some id ∧ (base.find? id).isSome := by
    cases stand with
    | home =>
        obtain ⟨id, hid, hfound⟩ := exists_home hb
        exact ⟨id, hb.home.symm.trans hid, hfound⟩
    | held k =>
        obtain ⟨id, hid, hmem, _⟩ := leadsAway_target hb (h.held k rfl).2.1
        exact ⟨id, hid, (find_isSome_iff base id).mpr hmem⟩
  obtain ⟨mode, hmode⟩ := Option.isSome_iff_exists.mp ((find_isSome_of_setup h.setup id).trans hfound)
  refine ⟨mode, find_mem hmode, ?_, ?_⟩
  · unfold Manager.currentMode?
    rw [h.current, hid]
    exact hmode
  · rw [hid, find_id hmode]

/-- The shift that an input turns on, as it was installed. -/
theorem find_installed {ks ks' : List Shift} (h : ks'.map Shift.rest = ks.map Shift.rest) (inp : Input) :
    (ks'.find? (·.switch.on.holds inp)).map Shift.rest = (ks.find? (·.switch.on.holds inp)).map Shift.rest := by
  have hrest : ∀ ks : List Shift, (ks.find? (·.switch.on.holds inp)).map Shift.rest
      = (ks.map Shift.rest).find? (·.switch.on.holds inp) := by
    intro ks
    rw [List.find?_map]
    rfl
  rw [hrest, h, ← hrest]

/-- Shifts that are the same at rest lead to the same mode and end on the same condition. -/
theorem shift_of_rest {k k' : Shift} (h : k'.rest = k.rest) :
    k'.target = k.target ∧ k'.switch.off = k.switch.off := by
  obtain ⟨hswitch, htarget⟩ := Shift.mk.inj h
  refine ⟨htarget, ?_⟩
  show k'.switch.reset.off = k.switch.reset.off
  rw [hswitch]

/-- In the default mode an input is steered by the shifts. -/
theorem steer_home (hb : base.Sound) {inp : Input} {dest : Option String} (hf : Follows base .home s)
    (h : steer desk inp s = .ok dest s') :
    Follows base (Stand.home.next base.modes base.shifts inp).1 s' ∧
      dest = (Stand.home.next base.modes base.shifts inp).2 := by
  obtain ⟨id, hid, _⟩ := exists_home hb
  have hcur : s.manager.current = some id := by rw [hf.current, ← hid, hb.home]; rfl
  have hhome : s.manager.home = some id := (home_of_setup hf.setup).trans hid
  unfold steer at h
  rw [bind_apply, get_apply] at h
  simp only [hcur, hhome, if_true] at h
  obtain ⟨taken, t, hshifts, hrest⟩ := bind_ok h
  obtain ⟨rfl, rfl⟩ := EStateM.Result.ok.inj hrest
  obtain ⟨hs, hk⟩ := tryShifts_ok hb hf.setup (hcur.trans hid.symm) hshifts
  -- the studio's shifts have latched, so they are the installed ones only at rest
  have hfind := find_installed (congrArg Manager.shifts hf.setup) inp
  simp only [Stand.next]
  cases hk' : s.manager.shifts.find? (·.switch.on.holds inp) with
  | none =>
      rw [hk'] at hk hfind
      obtain ⟨rfl, hc⟩ := hk
      have hnone : base.shifts.find? (·.switch.on.holds inp) = none := by simpa using hfind.symm
      rw [hnone]
      refine ⟨⟨hs, hc.trans hb.home, fun k hk => absurd hk (by simp)⟩, ?_⟩
      rw [← hid, hb.home]
      rfl
  | some k' =>
      rw [hk'] at hk hfind
      obtain ⟨rfl, hc, he⟩ := hk
      obtain ⟨k, hsome, hkrest⟩ := Option.map_eq_some_iff.mp hfind.symm
      obtain ⟨htarget, hoff⟩ := shift_of_rest hkrest
      have haway : k'.leadsAway base.modes = k.leadsAway base.modes := by
        unfold Shift.leadsAway
        rw [htarget]
      rw [haway, ← htarget] at hc
      rw [hsome]
      refine ⟨?_, rfl⟩
      by_cases ha : k.leadsAway base.modes = true
      · rw [if_pos ha] at hc
        simp only [ha, if_true]
        refine ⟨hs, hc, fun k₁ hk₁ => ?_⟩
        obtain rfl := Stand.held.inj hk₁
        exact ⟨List.mem_of_find?_eq_some hsome, ha, by rw [he, hoff]⟩
      · rw [if_neg ha] at hc
        simp only [ha]
        exact ⟨hs, hc.trans hb.home, fun k₁ hk₁ => absurd hk₁ (by simp)⟩

/-- While a shift is held, only its off condition leads back. -/
theorem steer_held (hb : base.Sound) {k : Shift} {inp : Input} {dest : Option String}
    (hf : Follows base (.held k) s) (h : steer desk inp s = .ok dest s') :
    Follows base ((Stand.held k).next base.modes base.shifts inp).1 s' ∧
      dest = ((Stand.held k).next base.modes base.shifts inp).2 := by
  obtain ⟨hmem, haway, hexit⟩ := hf.held k rfl
  obtain ⟨id, hid, _, hne⟩ := leadsAway_target hb haway
  have hcur : s.manager.current = some id := hf.current.trans hid
  have hhome : s.manager.home ≠ some id := by rwa [home_of_setup hf.setup]
  unfold steer at h
  rw [bind_apply, get_apply] at h
  simp only [hcur, hhome, if_false] at h
  obtain ⟨taken, t, htry, hrest⟩ := bind_ok h
  obtain ⟨rfl, rfl⟩ := EStateM.Result.ok.inj hrest
  unfold tryExit at htry
  rw [bind_apply, get_apply] at htry
  simp only [hexit] at htry
  simp only [Stand.next]
  by_cases hoff : k.switch.off.holds inp = true
  · rw [if_pos hoff] at htry ⊢
    obtain ⟨u, hu, hus, huc⟩ := restore_ok hb hf.setup inp
    obtain ⟨_, v, hv, htry⟩ := bind_ok htry
    obtain ⟨_, rfl⟩ := EStateM.Result.ok.inj (hv.symm.trans hu)
    obtain ⟨_, w, hw, htry⟩ := bind_ok htry
    obtain ⟨_, rfl⟩ := EStateM.Result.ok.inj hw
    obtain ⟨rfl, rfl⟩ := EStateM.Result.ok.inj htry
    exact ⟨⟨hus, huc.trans hb.home, fun k hk => absurd hk (by simp)⟩, rfl⟩
  · rw [if_neg hoff] at htry ⊢
    obtain ⟨rfl, rfl⟩ := EStateM.Result.ok.inj htry
    exact ⟨hf, hid.symm⟩

/-- **Steering an input** is one step of the machine. -/
theorem steer_follows (hb : base.Sound) {stand : Stand} {inp : Input} {dest : Option String}
    (hf : Follows base stand s) (h : steer desk inp s = .ok dest s') :
    Follows base (stand.next base.modes base.shifts inp).1 s' ∧
      dest = (stand.next base.modes base.shifts inp).2 := by
  cases stand with
  | home => exact steer_home hb hf h
  | held k => exact steer_held hb hf h

/-! ## Every run -/

/-- No trigger enters a mode. -/
def Manager.OnlyShifts (m : Manager) : Prop :=
  ∀ id, .enterMode id ∉ m.actions

/-- A mode that an input is passed to leaves the stand as it is. -/
theorem passMode_follows (hb : base.Sound) (ho : base.OnlyShifts) {stand : Stand} {id : String} {inp : Input}
    {mode : Mode} (hf : Follows base stand s) (hm : s.manager.find? id = some mode)
    (h : passMode desk id inp s = .ok () s') : Follows base stand s' := by
  have hn : (s.manager.modes.map Mode.id).Nodup := nodup_of_setup hf.setup hb.nodup
  have ha : ∀ t ∈ mode.triggers, ∀ id, t.action ≠ .enterMode id := by
    intro t ht id he
    have hmem := find_actions hm ht
    rw [he, actions_eq_of_setup hf.setup] at hmem
    exact ho id hmem
  have hs' : s'.manager = (latched id mode inp s).manager := by
    rw [← after_ok h]
    exact passMode_manager hm ha
  refine ⟨?_, ?_, ?_⟩
  · rw [hs']
    exact (setup_passMode hn hm).trans hf.setup
  · rw [hs']
    exact hf.current
  · rw [hs']
    exact hf.held

/-- Only the mode that the machine is in receives inputs. -/
theorem next_received {modes : List Mode} {shifts : List Shift} {stand : Stand} {inp : Input} {id : String}
    (h : (stand.next modes shifts inp).2 = some id) :
    (stand.next modes shifts inp).1.modeId modes = some id := by
  cases stand with
  | home =>
      simp only [Stand.next] at h ⊢
      split at h
      · exact h
      · exact absurd h (by simp)
  | held k =>
      simp only [Stand.next] at h ⊢
      split at h
      · exact absurd h (by simp)
      · rename_i hoff
        rw [if_neg hoff]
        exact h

/-- **One input** is one step of the machine, and the mode that receives it is the machine's. -/
theorem route_follows (hb : base.Sound) (ho : base.OnlyShifts) {stand : Stand} {inp : Input}
    {received : Option String} (hf : Follows base stand s) (h : route desk inp s = .ok received s') :
    Follows base (stand.next base.modes base.shifts inp).1 s' ∧
      received = (stand.next base.modes base.shifts inp).2 := by
  unfold route at h
  rw [bind_apply, emit_apply] at h
  have hnoted : Follows base stand (handed inp s) := ⟨hf.setup, hf.current, hf.held⟩
  obtain ⟨dest, t, hsteer, hpass⟩ := bind_ok h
  obtain ⟨ht, hdest⟩ := steer_follows hb hnoted hsteer
  cases dest with
  | none =>
      obtain ⟨rfl, rfl⟩ := EStateM.Result.ok.inj hpass
      exact ⟨ht, hdest⟩
  | some id =>
      obtain ⟨_, v, hget, hpass⟩ := bind_ok hpass
      obtain ⟨rfl, rfl⟩ := EStateM.Result.ok.inj hget
      obtain ⟨_, u, hmode, hrest⟩ := bind_ok hpass
      obtain ⟨rfl, rfl⟩ := EStateM.Result.ok.inj hrest
      -- the machine has not moved, so the mode it is in is the one the input is passed to
      have hid := next_received hdest.symm
      obtain ⟨mode, _, hcur, _⟩ := follows_currentMode hb ht
      have hfind : t.manager.find? id = some mode := by
        unfold Manager.currentMode? at hcur
        rwa [ht.current, hid] at hcur
      refine ⟨passMode_follows hb ho ht hfind hmode, ?_⟩
      rw [← hdest, hfind, Option.map_some, find_id hfind]

/-- **A row of inputs** takes the studio and the machine the same way. -/
theorem routeAll_follows (hb : base.Sound) (ho : base.OnlyShifts) {stand : Stand} {inputs : List Input}
    {received : List (Option String)} (hf : Follows base stand s)
    (h : routeAll desk inputs s = .ok received s') :
    Follows base (stand.along base.modes base.shifts inputs).1 s' ∧
      received = (stand.along base.modes base.shifts inputs).2 := by
  induction inputs generalizing stand s received with
  | nil =>
      obtain ⟨rfl, rfl⟩ := EStateM.Result.ok.inj h
      exact ⟨hf, rfl⟩
  | cons inp rest ih =>
      simp only [routeAll] at h
      obtain ⟨first, t, hfirst, h⟩ := bind_ok h
      obtain ⟨later, u, hlater, h⟩ := bind_ok h
      obtain ⟨rfl, rfl⟩ := EStateM.Result.ok.inj h
      obtain ⟨ht, rfl⟩ := route_follows hb ho hf hfirst
      obtain ⟨hu, rfl⟩ := ih ht hlater
      exact ⟨hu, rfl⟩

/-- **Shifts work as the machine says.** In every configuration that compiles and in which no trigger enters a
mode, every row of inputs that no dispatch fails on is received by the modes of the machine, one mode for each
input that is not consumed. The current mode is the machine's mode and one of the modes, and while a shift is
held its off condition leads back. -/
theorem shifts_simulate (desk : Desk) (s : Studio) {cfg : Config} {made : Nat} {modes : List Mode}
    {shifts : List Shift}
    (hc : compileRules cfg s.hasRecognizers s.recognizers.length = (made, .ok (modes, shifts)))
    (ho : ∀ mode ∈ modes, ∀ t ∈ mode.triggers, ∀ id, t.action ≠ .enterMode id) :
    ∃ s₀, install cfg s = .ok () s₀ ∧
      ∀ inputs s', handleAll desk inputs s₀ = .ok () s' →
        ∃ stand received, routeAll desk inputs s₀ = .ok received s' ∧
          Stand.home.along modes shifts inputs = (stand, received) ∧
          (∃ mode ∈ s'.manager.modes, s'.manager.currentMode? = some mode ∧
            stand.modeId modes = some mode.id) ∧
          ∀ k, stand = .held k →
            k ∈ shifts ∧ k.leadsAway modes ∧ s'.manager.exit = some k.switch.off := by
  obtain ⟨first, hfirst, hi⟩ := install_compiled hc
  obtain ⟨hne, hcompiled⟩ := compileRules_compiled hc
  have hhome : some first.id = modes.head?.map Mode.id := by
    rw [Option.mem_def.mp hfirst]
    rfl
  have hb : (Manager.fresh modes shifts first).Sound :=
    ⟨hcompiled.nodup, hne, hhome⟩
  have hos : (Manager.fresh modes shifts first).OnlyShifts := by
    intro id hmem
    obtain ⟨mode, hmode, hact⟩ := List.mem_flatMap.mp hmem
    obtain ⟨t, ht, he⟩ := List.mem_map.mp hact
    exact ho mode hmode t ht id he
  refine ⟨_, hi, fun inputs s' hrun => ?_⟩
  obtain ⟨received, hroute⟩ := handleAll_route hrun
  -- installing has entered the first mode, which is where the machine starts
  have hstart : Follows (Manager.fresh modes shifts first) .home
      ((s.withRecognizers made).installed modes shifts first) :=
    ⟨setup_enteredOf _ _, hhome, fun k hk => absurd hk (by simp)⟩
  obtain ⟨hend, hreceived⟩ := routeAll_follows hb hos hstart hroute
  refine ⟨_, received, hroute, Prod.ext rfl hreceived.symm, follows_currentMode hb hend, ?_⟩
  intro k hk
  exact hend.held k hk

/-- A shift between two modes. -/
def twoModes : Config :=
  { modes := [
      { declaration := .str "[idle] -id a", rules := [.str "[switch] button -id ZR -> [mode] -id b"] },
      { declaration := .str "[idle] -id b" }] }

/-- The shift is held and let go, and something is said before and after. -/
def shiftAndBack : List Input :=
  let held := ButtonState.ofButtons [.zr]
  [{ kind := .button, button := some { down := held, up := {}, current := held } }, .spoken "there",
    { kind := .button, button := some { down := {}, up := held, current := {} } }, .spoken "back"]

theorem shifts_simulate_twoModes : ∃ s₀ s', install twoModes {} = .ok () s₀ ∧
    handleAll .quiet shiftAndBack s₀ = .ok () s' ∧
    routeAll .quiet shiftAndBack s₀ = .ok [none, some "b", none, some "a"] s' := by
  have h : (match compileRules twoModes false 0, install twoModes {} with
      | (_, .ok (modes, shifts)), .ok () s₀ =>
          modes.all (fun mode => mode.triggers.isEmpty) &&
          (Stand.home.along modes shifts shiftAndBack).2 == [none, some "b", none, some "a"] &&
          (match handleAll .quiet shiftAndBack s₀ with
            | .ok () _ => true
            | .error _ _ => false)
      | _, _ => false) = true := by decide +kernel
  split at h
  · rename_i made modes shifts s₀ hc hi
    simp only [Bool.and_eq_true, beq_iff_eq, List.all_eq_true, List.isEmpty_iff] at h
    obtain ⟨⟨hno, hreceived⟩, hrun⟩ := h
    split at hrun
    · rename_i s' hs'
      obtain ⟨s₁, hi', hall⟩ := shifts_simulate .quiet {} hc
        (fun mode hmode t ht => absurd ht (by simp [hno mode hmode]))
      obtain ⟨_, rfl⟩ := EStateM.Result.ok.inj (hi.symm.trans hi')
      obtain ⟨stand, received, hroute, halong, _⟩ := hall _ _ hs'
      rw [halong] at hreceived
      exact ⟨s₀, s', hi, hs', hreceived ▸ hroute⟩
    · exact absurd hrun (by simp)
  · exact absurd h (by simp)

end PadScribe
