import PadScribe.Proofs.Holding

/-!
# `Proofs.Phases` — an input passes a mode in phases

An input changes while it passes the switches of a mode: a modifier that is on changes it before the next switch
looks at it. But switches look at nothing that a modifier changes. So the way of an input through a mode can be told
in phases: all switches latch on the input that came, then the modifiers of those that are on change it one after
another, and then the triggers look at what comes out.

What a switch remembers is therefore a matter of the inputs that its mode has seen since it was entered, and of
nothing else: it is on where one of them turned it on and no later one turned it off. A mode is entered, and sees
inputs, in many ways, so the run of a program is told here as a row of visits, read off the hooks of the modes and
the way that each input is steered.

## Contents

* `ModeSwitch.active?`, `Modifier.applyAll`, `Mode.passed`, `passInPhases` — the phases
* `passAll_passed`, `passMode_phases` — the way of an input, in phases
* `TurnedOn`, `turnedOn_concat` — what turns a switch on
* `Switch.Heeds`, `mem_passAll` — a switch that an input was meant for latches on it
* `Visit`, `seenSince`, `Drive.visits`, `visits` — what the modes see in a run
* `Latches`, `enteredOf_latches`, `latched_latches` — what switches remember
* `Tracks`, `moves_tracks`, `drive_latches`, `drives_latch` — rows of moves, one step, and every run
* `phases_and_latches` — both, for modes that are compiled
-/

namespace PadScribe

/-! ## The phases -/

/-- The modifier of a switch that is on. -/
def ModeSwitch.active? (k : ModeSwitch) : Option Modifier :=
  match k.hold with
  | .modify m => if k.switch.isOn then some m else none
  | _ => none

/-- An input that a row of modifiers change, one after another. -/
def Modifier.applyAll (ms : List Modifier) (inp : Input) : Except Fault Input :=
  ms.foldlM (fun inp m => m.apply inp) inp

/-- The input that the triggers of a mode look at: the modifiers of the switches that are on once all of them have
latched change it in order. -/
def Mode.passed (mode : Mode) (inp : Input) : Except Fault Input :=
  Modifier.applyAll ((mode.switches.map (ModeSwitch.latch inp)).filterMap ModeSwitch.active?) inp

/-- **An input in a mode, in phases.** All switches latch on it and put off their work, in order; then the modifiers
of those that are on change it; then it is offered to the triggers. -/
def passInPhases (desk : Desk) (id : String) (inp : Input) : Step Unit := do
  match (← get).manager.find? id with
  | none => return
  | some mode =>
    updateManager (Manager.update id fun m => { m with switches := mode.switches.map (ModeSwitch.latch inp) })
    submitAll (mode.switches.flatMap (ModeSwitch.tasks · inp))
    runTriggers desk (← liftFault (mode.passed inp)) mode.triggers

variable {desk : Desk} {may : Mark → Prop} {s s' t : Studio}

/-- A switch changes an input by its modifier, if it is on. -/
theorem modify_active (k : ModeSwitch) (inp : Input) :
    k.modify inp = Modifier.applyAll k.active?.toList inp := by
  have hone : ∀ m : Modifier, Modifier.applyAll [m] inp = m.apply inp := by
    intro m
    show (m.apply inp >>= fun out => pure out) = m.apply inp
    exact bind_pure _
  unfold ModeSwitch.modify ModeSwitch.active?
  cases k.hold with
  | modify m =>
      dsimp only
      split
      · exact (hone m).symm
      · rfl
  | _ => rfl

theorem applyAll_append (ms later : List Modifier) (inp : Input) :
    Modifier.applyAll (ms ++ later) inp = Modifier.applyAll ms inp >>= Modifier.applyAll later :=
  List.foldlM_append ..

/-- What comes out of a row of switches: the first one latches and changes the input for the others. -/
theorem passAll_out (k : ModeSwitch) (rest : List ModeSwitch) (inp : Input) :
    (ModeSwitch.passAll (k :: rest) inp).2.2
      = (k.latch inp).modify inp >>= fun changed => (ModeSwitch.passAll rest changed).2.2 := by
  rw [ModeSwitch.passAll, ModeSwitch.latch]
  dsimp only
  cases ModeSwitch.modify { k with switch := k.switch.step inp } inp with
  | error e => rfl
  | ok changed => rfl

/-- **What comes out of the switches** is what the modifiers of those that are on make of the input, if all of them
latch on an input like it. -/
theorem passAll_modified {switches : List ModeSwitch} (hs : ∀ k ∈ switches, k.switch.ReadsController)
    {inp came : Input} (hlike : inp.Alike came) : (ModeSwitch.passAll switches came).2.2
      = Modifier.applyAll ((switches.map (ModeSwitch.latch inp)).filterMap ModeSwitch.active?) came := by
  induction switches generalizing came with
  | nil => rfl
  | cons k rest ih =>
      have hk : k.latch came = k.latch inp := latch_alike (hs k List.mem_cons_self) hlike
      have hrest : ∀ k ∈ rest, k.switch.ReadsController := fun k hk => hs k (List.mem_cons_of_mem _ hk)
      have hfirst : (((k :: rest).map (ModeSwitch.latch inp)).filterMap ModeSwitch.active?)
          = (k.latch inp).active?.toList ++ (rest.map (ModeSwitch.latch inp)).filterMap ModeSwitch.active? := by
        rw [List.map_cons, List.filterMap_cons]
        cases (k.latch inp).active? <;> rfl
      rw [passAll_out, hfirst, applyAll_append, ← modify_active, ← hk]
      cases hm : (k.latch came).modify came with
      | error e => rfl
      | ok changed =>
          have hout : came.Alike changed := alike_modify hm
          have hchanged : inp.Alike changed :=
            ⟨hout.device.trans hlike.device, fun c hc => (hout.holds c hc).trans (hlike.holds c hc)⟩
          exact ih hrest hchanged

/-- **The way of an input through the switches, in phases**: if no modifier fails, all of them have latched on the
input that came and put off their work. -/
theorem passAll_passed {mode : Mode} {inp out : Input} (hs : ∀ k ∈ mode.switches, k.switch.ReadsController)
    (h : mode.passed inp = .ok out) : ModeSwitch.passAll mode.switches inp
      = (mode.switches.map (ModeSwitch.latch inp), mode.switches.flatMap (ModeSwitch.tasks · inp), .ok out) := by
  have hout : (ModeSwitch.passAll mode.switches inp).2.2 = .ok out :=
    (passAll_modified hs (alike_refl inp)).trans h
  obtain ⟨n, hlatched, htasks, hall⟩ := passAll_latches hs inp
  have hlen := hall out hout
  rw [List.take_of_length_le hlen, List.drop_of_length_le hlen, List.append_nil] at hlatched
  rw [List.take_of_length_le hlen] at htasks
  exact Prod.ext hlatched (Prod.ext htasks hout)

/-- **A mode passes an input in phases**, if no modifier fails. -/
theorem passMode_phases {id : String} {mode : Mode} {inp out : Input}
    (hs : ∀ k ∈ mode.switches, k.switch.ReadsController) (hf : s.manager.find? id = some mode)
    (h : mode.passed inp = .ok out) : passMode desk id inp s = passInPhases desk id inp s := by
  unfold passMode passInPhases
  rw [bind_apply, bind_apply, get_apply]
  simp only [hf, passAll_passed hs h, h]

/-! ## What turns a switch on -/

/-- **A switch has been turned on**: some input turned it on, and of those after it none turned it off, unless it
turned it on as well. -/
def TurnedOn (k : Switch) (seen : List Input) : Prop :=
  ∃ before inp later, seen = before ++ inp :: later ∧ k.on.holds inp = true ∧
    ∀ x ∈ later, k.off.holds x = true → k.on.holds x = true

theorem not_turnedOn_nil (k : Switch) : ¬ TurnedOn k [] := by
  rintro ⟨before, inp, later, hsplit, -⟩
  exact absurd hsplit (by simp)

/-- One more input turns a switch on, or leaves it on if it does not turn it off. -/
theorem turnedOn_concat (k : Switch) (seen : List Input) (x : Input) : TurnedOn k (seen ++ [x]) ↔
    k.on.holds x = true ∨ (k.off.holds x = true → k.on.holds x = true) ∧ TurnedOn k seen := by
  constructor
  · rintro ⟨before, inp, later, hsplit, hon, hlater⟩
    -- the last input is the one that turned the switch on, or comes after it
    rcases List.eq_nil_or_concat later with rfl | ⟨later', y, rfl⟩
    · obtain ⟨-, hx⟩ := List.append_inj' hsplit rfl
      rw [(List.cons.inj hx).1]
      exact .inl hon
    · have hends : seen ++ [x] = (before ++ inp :: later') ++ [y] := by simpa using hsplit
      obtain ⟨hseen, hx⟩ := List.append_inj' hends rfl
      obtain rfl := (List.cons.inj hx).1
      refine .inr ⟨hlater x (by simp), before, inp, later', hseen, hon, fun z hz => hlater z ?_⟩
      rw [List.concat_eq_append]
      exact List.mem_append_left _ hz
  · rintro (hon | ⟨hlast, before, inp, later, rfl, hon, hlater⟩)
    · exact ⟨seen, x, [], rfl, hon, by simp⟩
    · refine ⟨before, inp, later ++ [x], by simp, hon, fun z hz => ?_⟩
      rcases List.mem_append.mp hz with hz | hz
      · exact hlater z hz
      · rw [List.mem_singleton.mp hz]
        exact hlast

/-- A switch that remembers what turned it on still does so after another input. -/
theorem step_turnedOn {k : Switch} {seen : List Input} (h : k.isOn = true ↔ TurnedOn k seen) (x : Input) :
    (k.step x).isOn = true ↔ TurnedOn (k.step x) (seen ++ [x]) := by
  have hsame : TurnedOn (k.step x) (seen ++ [x]) ↔ TurnedOn k (seen ++ [x]) := by
    unfold Switch.step
    cases k.change x <;> exact Iff.rfl
  rw [hsame, turnedOn_concat, ← h]
  unfold Switch.step Switch.change
  by_cases hon : k.on.holds x = true
  · simp [hon]
  · by_cases hoff : k.off.holds x = true
    · simp [hon, hoff]
    · simp [hon, hoff]

/-- Whether an input is one that a switch goes on or off for. -/
def Switch.Heeds (k : Switch) (inp : Input) : Prop :=
  k.on.holds inp = true ∨ k.off.holds inp = true

theorem heeds_step (k : Switch) (x inp : Input) : (k.step x).Heeds inp ↔ k.Heeds inp := by
  unfold Switch.step
  cases k.change x <;> exact Iff.rfl

/-- An input that a switch does not heed is as good as none. -/
theorem turnedOn_unheeded {k : Switch} {x : Input} (h : ¬ k.Heeds x) (seen : List Input) :
    TurnedOn k (seen ++ [x]) ↔ TurnedOn k seen := by
  obtain ⟨hon, hoff⟩ := not_or.mp h
  rw [turnedOn_concat]
  simp [hon, hoff]

/-- **A switch that an input was meant for** has latched on it, if the input comes through the switches or the switch
does not heed it. -/
theorem mem_passAll {switches : List ModeSwitch} (hs : ∀ k ∈ switches, k.switch.ReadsController) {inp : Input}
    {k : ModeSwitch} (hk : k ∈ (ModeSwitch.passAll switches inp).1)
    (hthrough : k.switch.Heeds inp → ∃ out, (ModeSwitch.passAll switches inp).2.2 = .ok out) :
    ∃ k₀ ∈ switches, k = k₀.latch inp ∨ k = k₀ ∧ ¬ k.switch.Heeds inp := by
  obtain ⟨n, hlatched, -, hall⟩ := passAll_latches hs inp
  rw [hlatched] at hk
  rcases List.mem_append.mp hk with hk | hk
  · obtain ⟨k₀, hk₀, rfl⟩ := List.mem_map.mp hk
    exact ⟨k₀, List.mem_of_mem_take hk₀, .inl rfl⟩
  · refine ⟨k, List.mem_of_mem_drop hk, .inr ⟨rfl, fun hheeds => ?_⟩⟩
    -- the switch stands behind a modifier that failed, but nothing has failed
    obtain ⟨out, hout⟩ := hthrough hheeds
    rw [List.drop_of_length_le (hall out hout)] at hk
    cases hk

/-! ## What the modes see -/

/-- What happens to a mode. -/
inductive Visit where
  /-- It is entered. -/
  | entered (id : String)
  /-- It is handed an input, which comes out of its switches unless a modifier fails. -/
  | saw (id : String) (inp : Input) (through : Bool)

/-- The inputs that a mode has seen since it was entered, with whether they came out of its switches, after one more
visit. -/
def Visit.since (id : String) (seen : List (Input × Bool)) : Visit → List (Input × Bool)
  | entered id' => if id' = id then [] else seen
  | saw id' inp through => if id' = id then seen ++ [(inp, through)] else seen

/-- **The inputs that a mode has seen since it was entered last.** -/
def seenSince (id : String) (vs : List Visit) : List (Input × Bool) :=
  vs.foldl (Visit.since id) []

/-- What a hook says about a visit. -/
def Hook.visit? : Hook → Option Visit
  | enter _ id => some (.entered id)
  | exit _ _ => none

/-- The modes that are entered between two states. -/
def enteredFrom (s t : Studio) : List Visit :=
  (t.hooks.drop s.hooks.length).filterMap Hook.visit?

/-- Whether an input comes out of the switches of a mode. -/
def comesThrough (id : String) (inp : Input) (s : Studio) : Bool :=
  (s.manager.find? id).all fun mode => (mode.passed inp).isOk

/-- The visits while an input is handed to the modes: modes are entered until it has been decided where the input
goes, then that mode sees it, and then its triggers may enter modes. -/
def handedVisits (desk : Desk) (inp : Input) (s s' : Studio) : List Visit :=
  match steer desk inp (handed inp s) with
  | .ok (some id) t => enteredFrom s t ++ .saw id inp (comesThrough id inp t) :: enteredFrom t s'
  | .ok none _ => enteredFrom s s'
  | .error _ _ => enteredFrom s s'

/-- **The visits of one step.** -/
def Drive.visits (desk : Desk) (s : Studio) : Drive → List Visit
  | input inp => handedVisits desk inp s (after (handle desk inp) s)
  | work .pool =>
    match s.pool.head?.bind Task.input? with
    | some inp => handedVisits desk inp { s with pool := s.pool.tail } (after (runHead desk .pool) s)
    | none => enteredFrom s (after (runHead desk .pool) s)
  | work .speech => enteredFrom s (after (runHead desk .speech) s)

/-- **The visits of a run.** -/
def visits (desk : Desk) : List Drive → Studio → List Visit
  | [], _ => []
  | d :: ds, s => d.visits desk s ++ visits desk ds (after (d.act desk) s)

theorem seenSince_concat (id : String) (vs : List Visit) (v : Visit) :
    seenSince id (vs ++ [v]) = v.since id (seenSince id vs) := by
  unfold seenSince
  rw [List.foldl_append]
  rfl

/-! ## What switches remember -/

/-- The switches of a mode. -/
def Manager.switchesOf (m : Manager) (id : String) : Option (List ModeSwitch) :=
  (m.find? id).map Mode.switches

/-- **The switches of every mode remember** what turned them on since the mode was entered, as long as no modifier has
failed on an input that they heed. -/
def Latches (vs : List Visit) (m : Manager) : Prop :=
  ∀ id switches, m.switchesOf id = some switches → ∀ k ∈ switches,
    (∀ p ∈ seenSince id vs, k.switch.Heeds p.1 → p.2 = true) →
      (k.switch.isOn = true ↔ TurnedOn k.switch ((seenSince id vs).map Prod.fst))

variable {vs : List Visit} {m : Manager}

/-- Changing a mode changes its switches. -/
theorem switchesOf_update (m : Manager) (changed other : String) {f : Mode → Mode}
    {g : List ModeSwitch → List ModeSwitch} (hid : ∀ x, (f x).id = x.id) (hg : ∀ x, (f x).switches = g x.switches) :
    (m.update changed f).switchesOf other
      = if changed = other then (m.switchesOf other).map g else m.switchesOf other := by
  unfold Manager.switchesOf
  rw [find_update m changed other hid]
  cases hf : m.find? other with
  | none => simp
  | some x =>
      have hx : x.id = other := find_id hf
      by_cases hsame : changed = other
      · simp [hx, hsame, hg]
      · simp [hx, hsame, Ne.symm hsame]

theorem switchesOf_leftCurrent (m : Manager) (id : String) : m.leftCurrent.switchesOf id = m.switchesOf id := by
  unfold Manager.leftCurrent
  cases m.current with
  | none => rfl
  | some current =>
      have hu := switchesOf_update m current id (f := Mode.left) (g := fun switches => switches) (fun _ => rfl)
        fun _ => rfl
      rw [hu]
      simp

/-- Entering a mode turns its switches off and leaves those of the others as they are. -/
theorem switchesOf_enteredOf (m : Manager) (id other : String) :
    (m.enteredOf id).switchesOf other = if id = other
      then (m.switchesOf other).map (List.map fun k => { k with switch := k.switch.reset })
      else m.switchesOf other := by
  rw [← switchesOf_leftCurrent m other]
  exact switchesOf_update m.leftCurrent id other (fun _ => rfl) fun _ => rfl

/-- Switches that see an input leave those of other modes as they are. -/
theorem switchesOf_latched (id other : String) (mode : Mode) (inp : Input) (s : Studio) :
    (latched id mode inp s).manager.switchesOf other = if id = other
      then (s.manager.switchesOf other).map fun _ => (ModeSwitch.passAll mode.switches inp).1
      else s.manager.switchesOf other :=
  switchesOf_update s.manager id other (fun _ => rfl) fun _ => rfl

/-- **A mode that is entered** remembers nothing. -/
theorem enteredOf_latches (h : Latches vs m) (id : String) : Latches (vs ++ [.entered id]) (m.enteredOf id) := by
  intro other switches hswitches
  rw [switchesOf_enteredOf] at hswitches
  rw [seenSince_concat, Visit.since]
  by_cases hsame : id = other
  · rw [if_pos hsame] at hswitches ⊢
    obtain ⟨before, -, rfl⟩ := Option.map_eq_some_iff.mp hswitches
    intro k hk _
    obtain ⟨k₀, -, rfl⟩ := List.mem_map.mp hk
    exact iff_of_false (by simp [Switch.reset]) (not_turnedOn_nil _)
  · rw [if_neg hsame] at hswitches ⊢
    exact h other switches hswitches

/-- An input comes through a mode where its switches let it out. -/
theorem comesThrough_iff {id : String} {mode : Mode} (hs : ∀ k ∈ mode.switches, k.switch.ReadsController)
    (hf : s.manager.find? id = some mode) (inp : Input) :
    comesThrough id inp s = true ↔ ∃ out, (ModeSwitch.passAll mode.switches inp).2.2 = .ok out := by
  have hpassed : (ModeSwitch.passAll mode.switches inp).2.2 = mode.passed inp :=
    passAll_modified hs (alike_refl inp)
  unfold comesThrough
  rw [hpassed, hf, Option.all_some]
  cases mode.passed inp with
  | ok out => exact iff_of_true rfl ⟨out, rfl⟩
  | error e =>
      refine iff_of_false (by simp [Except.isOk, Except.toBool]) ?_
      rintro ⟨out, hout⟩
      cases hout

/-- **A mode that sees an input** remembers it. -/
theorem latched_latches {id : String} {mode : Mode} (inp : Input) (hr : s.manager.ReadsController)
    (hf : s.manager.find? id = some mode) (h : Latches vs s.manager) :
    Latches (vs ++ [.saw id inp (comesThrough id inp s)]) (latched id mode inp s).manager := by
  intro other switches hswitches
  rw [seenSince_concat, Visit.since]
  rw [switchesOf_latched] at hswitches
  by_cases hsame : id = other
  · subst hsame
    rw [if_pos rfl] at hswitches ⊢
    have hold : s.manager.switchesOf id = some mode.switches := by
      unfold Manager.switchesOf
      rw [hf]
      rfl
    rw [hold] at hswitches
    obtain rfl := Option.some.inj hswitches
    intro k hk hall
    have hreads := hr mode (find_mem hf)
    have hthrough : k.switch.Heeds inp → ∃ out, (ModeSwitch.passAll mode.switches inp).2.2 = .ok out :=
      fun hheeds => (comesThrough_iff hreads hf inp).mp (hall (inp, comesThrough id inp s) (by simp) hheeds)
    have hbefore : ∀ p ∈ seenSince id vs, k.switch.Heeds p.1 → p.2 = true :=
      fun p hp => hall p (List.mem_append_left _ hp)
    rw [List.map_append]
    obtain ⟨k₀, hk₀, rfl | ⟨rfl, hunheeded⟩⟩ := mem_passAll hreads hk hthrough
    · refine step_turnedOn (h id mode.switches hold k₀ hk₀ fun p hp hheeds => ?_) inp
      exact hbefore p hp ((heeds_step k₀.switch inp p.1).mpr hheeds)
    · exact (h id mode.switches hold k hk₀ hbefore).trans (turnedOn_unheeded hunheeded _).symm
  · rw [if_neg hsame] at hswitches ⊢
    exact h other switches hswitches

/-- A mode that is not there sees nothing. -/
theorem unknown_latches {id : String} (inp : Input) (through : Bool) (hf : m.find? id = none) (h : Latches vs m) :
    Latches (vs ++ [.saw id inp through]) m := by
  intro other switches hswitches
  rw [seenSince_concat, Visit.since]
  by_cases hsame : id = other
  · subst hsame
    unfold Manager.switchesOf at hswitches
    rw [hf] at hswitches
    cases hswitches
  · rw [if_neg hsame]
    exact h other switches hswitches

/-! ## Rows of moves -/

/-- Every mark, except that no switches see an input. -/
def Mark.unseen : Mark → Prop
  | pass _ => False
  | _ => True

/-- The hooks grow between two states, and switches remember what turned them on before and since. -/
def Tracks (s s' : Studio) : Prop :=
  ∃ hooks, s'.hooks = s.hooks ++ hooks ∧
    ∀ vs, Latches vs s.manager → Latches (vs ++ hooks.filterMap Hook.visit?) s'.manager

theorem tracks_of_modes (hh : s'.hooks = s.hooks) (hm : s'.manager.modes = s.manager.modes) : Tracks s s' := by
  refine ⟨[], by rw [hh, List.append_nil], fun vs h => ?_⟩
  rw [List.filterMap_nil, List.append_nil]
  intro id switches hswitches
  unfold Manager.switchesOf Manager.find? at hswitches
  rw [hm] at hswitches
  exact h id switches hswitches

theorem tracks_trans (h : Tracks s t) (h' : Tracks t s') : Tracks s s' := by
  obtain ⟨hooks, hh, hl⟩ := h
  obtain ⟨hooks', hh', hl'⟩ := h'
  refine ⟨hooks ++ hooks', by rw [hh', hh, List.append_assoc], fun vs hvs => ?_⟩
  rw [List.filterMap_append, ← List.append_assoc]
  exact hl' _ (hl vs hvs)

/-- **A move that shows no input to switches** lets them remember. -/
theorem move_tracks (h : Move desk Mark.unseen s s') : Tracks s s' := by
  cases h with
  | latch m _ _ _ modes => exact tracks_of_modes rfl modes
  | enter id _ _ =>
      refine ⟨s.switchHooks id, rfl, fun vs hvs => ?_⟩
      have hvisits : (s.switchHooks id).filterMap Hook.visit? = [.entered id] := by
        unfold Studio.switchHooks
        cases s.manager.current <;> rfl
      rw [hvisits]
      exact enteredOf_latches hvs id
  | pass id mode inp _ _ _ allowed => exact allowed.elim
  | _ => exact tracks_of_modes rfl rfl

theorem moves_tracks (h : Moves desk Mark.unseen s s') : Tracks s s' := by
  induction h with
  | refl => exact tracks_of_modes rfl rfl
  | tail _ hm ih => exact tracks_trans ih (move_tracks hm)

/-- What switches remember between two states is the modes that are entered. -/
theorem tracks_latches (h : Tracks s s') (hvs : Latches vs s.manager) :
    Latches (vs ++ enteredFrom s s') s'.manager := by
  obtain ⟨hooks, hh, hl⟩ := h
  unfold enteredFrom
  rw [hh, List.drop_left]
  exact hl vs hvs

/-! ## One step -/

/-- Modes with different ids whose switches look at buttons and stick zones. -/
structure Manager.Readable (m : Manager) : Prop where
  nodup : (m.modes.map Mode.id).Nodup
  reads : m.ReadsController

theorem readable_of_setup {m' : Manager} (h : m'.setup = m.setup) (hm : m.Readable) : m'.Readable :=
  ⟨nodup_of_setup h hm.nodup, readsController_of_setup h hm.reads⟩

/-- **An input that the modes are handed** is remembered by the mode that sees it. More moves may follow. -/
theorem handed_latches {inp : Input} (hm : s.manager.Readable)
    (hmore : Moves desk Mark.unseen (after (handle desk inp) s) s') (hvs : Latches vs s.manager) :
    Latches (vs ++ handedVisits desk inp s s') s'.manager := by
  have hnoted : Tracks s (handed inp s) := tracks_of_modes rfl rfl
  have hsteer : Moves desk Mark.unseen (handed inp s) (after (steer desk inp) (handed inp s)) :=
    steer_moves (fun _ => trivial) inp _
  have happly := handle_apply desk inp s
  unfold handedVisits
  cases hs : steer desk inp (handed inp s) with
  | error fault t =>
      rw [hs] at happly
      rw [after_error hs] at hsteer
      rw [after_error happly] at hmore
      exact tracks_latches (tracks_trans hnoted (moves_tracks (hsteer.trans hmore))) hvs
  | ok dest t =>
      rw [hs] at happly
      rw [after_ok hs] at hsteer
      cases dest with
      | none =>
          rw [after_ok happly] at hmore
          exact tracks_latches (tracks_trans hnoted (moves_tracks (hsteer.trans hmore))) hvs
      | some id =>
          have hbefore : Latches (vs ++ enteredFrom s t) t.manager :=
            tracks_latches (tracks_trans hnoted (moves_tracks hsteer)) hvs
          have ht : t.manager.Readable := readable_of_setup (moves_setup hsteer) hm
          have hpass : after (handle desk inp) s = after (passMode desk id inp) t := after_eq happly
          rw [hpass] at hmore
          dsimp only
          rw [List.append_cons, ← List.append_assoc, ← List.append_assoc]
          cases hf : t.manager.find? id with
          | none =>
              rw [after_ok (passMode_unknown inp hf)] at hmore
              exact tracks_latches (moves_tracks hmore) (unknown_latches inp _ hf hbefore)
          | some mode =>
              have hseen := latched_latches inp ht.reads hf hbefore
              have hrow : Moves desk Mark.unseen (latched id mode inp t) s' :=
                (passMode_latched ht.nodup hf fun _ _ _ _ _ _ _ => trivial).trans hmore
              have hlast := tracks_latches (moves_tracks hrow) hseen
              exact hlast

/-- **Every step** shows no input to switches, or hands the modes one input. -/
theorem drive_cases (desk : Desk) (d : Drive) (s : Studio) :
    ∃ u, u.manager = s.manager ∧ u.hooks = s.hooks ∧
      (Moves desk Mark.unseen u (after (d.act desk) s) ∧ d.visits desk s = enteredFrom s (after (d.act desk) s) ∨
        ∃ inp, Moves desk Mark.unseen (after (handle desk inp) u) (after (d.act desk) s) ∧
          d.visits desk s = handedVisits desk inp u (after (d.act desk) s)) := by
  cases d with
  | input inp => exact ⟨s, rfl, rfl, .inr ⟨inp, .refl, rfl⟩⟩
  | work q =>
      cases q with
      | speech =>
          cases hq : s.speech with
          | nil =>
              have hidle : after (runHead desk .speech) s = s := runHead_speech_empty hq
              refine ⟨s, rfl, rfl, .inl ⟨?_, rfl⟩⟩
              show Moves desk Mark.unseen s (after (runHead desk .speech) s)
              rw [hidle]
          | cons commands rest =>
              have hrun : after (runHead desk .speech) s = _ := runHead_speech hq
              refine ⟨{ s with speech := rest }, rfl, rfl, .inl ⟨?_, rfl⟩⟩
              show Moves desk Mark.unseen _ (after (runHead desk .speech) s)
              rw [hrun]
              exact recordFailure_moves (perform_moves commands [] (fun _ _ _ => trivial) _)
      | pool =>
          cases hq : s.pool with
          | nil =>
              have hidle : after (runHead desk .pool) s = s := runHead_pool_empty hq
              refine ⟨s, rfl, rfl, .inl ⟨?_, by simp [Drive.visits, hq, Drive.act]⟩⟩
              show Moves desk Mark.unseen s (after (runHead desk .pool) s)
              rw [hidle]
          | cons t rest =>
              have hrun : after (runHead desk .pool) s = _ := runHead_pool hq
              refine ⟨{ s with pool := rest }, rfl, rfl, ?_⟩
              cases hi : t.input? with
              | none =>
                  refine .inl ⟨?_, by simp [Drive.visits, hq, hi, Drive.act]⟩
                  show Moves desk Mark.unseen _ (after (runHead desk .pool) s)
                  rw [hrun]
                  exact recordFailure_moves (work_moves hi (fun _ _ => trivial) _)
              | some inp =>
                  refine .inr ⟨inp, ?_, by simp [Drive.visits, hq, hi, Drive.act]⟩
                  show Moves desk Mark.unseen _ (after (runHead desk .pool) s)
                  rw [hrun, work_handles hi]
                  exact recordFailure_note _ _

/-- **One step** of a run. -/
theorem drive_latches (desk : Desk) (d : Drive) (hm : s.manager.Readable) (hvs : Latches vs s.manager) :
    (after (d.act desk) s).manager.setup = s.manager.setup ∧
      Latches (vs ++ d.visits desk s) (after (d.act desk) s).manager := by
  obtain ⟨u, hmanager, hhooks, hstep⟩ := drive_cases desk d s
  rw [← hmanager] at hm hvs ⊢
  rcases hstep with ⟨hmoves, hvisits⟩ | ⟨inp, hmoves, hvisits⟩
  · refine ⟨moves_setup hmoves, ?_⟩
    have hfrom : enteredFrom s (after (d.act desk) s) = enteredFrom u (after (d.act desk) s) := by
      unfold enteredFrom
      rw [hhooks]
    rw [hvisits, hfrom]
    exact tracks_latches (moves_tracks hmoves) hvs
  · have hhandle : Moves desk (fun _ => True) (handed inp u) (after (handle desk inp) u) :=
      handle_moves (fun _ => trivial) trivial hm.nodup
    have hsetup := moves_setup hhandle
    refine ⟨(moves_setup hmoves).trans hsetup, ?_⟩
    rw [hvisits]
    exact handed_latches hm hmoves hvs

/-! ## Every run -/

/-- **A run**, step by step. -/
theorem drives_latch (desk : Desk) (ds : List Drive) (hm : s.manager.Readable) (hvs : Latches vs s.manager) :
    (drive desk ds s).manager.setup = s.manager.setup ∧
      Latches (vs ++ visits desk ds s) (drive desk ds s).manager := by
  induction ds generalizing s vs with
  | nil =>
      rw [visits, List.append_nil]
      exact ⟨rfl, hvs⟩
  | cons d ds ih =>
      obtain ⟨hsetup, hlatched⟩ := drive_latches desk d hm hvs
      obtain ⟨hlater, hlast⟩ := ih (readable_of_setup hsetup hm) hlatched
      rw [visits, ← List.append_assoc]
      exact ⟨hlater.trans hsetup, hlast⟩

/-- Compiled modes, of which the first has been entered, remember nothing. -/
theorem installed_latches {cfg : Config} {modes : List Mode} {shifts : List Shift} (hc : Compiled cfg modes shifts)
    (first : Mode) (s : Studio) : (s.installed modes shifts first).manager.Readable ∧
      Latches [] (s.installed modes shifts first).manager := by
  have hread : (Manager.fresh modes shifts first).Readable :=
    ⟨hc.nodup, fun mode hmode k hk => readsController_of_ofController (hc.switches mode hmode k hk)⟩
  have hfresh : Latches [] (Manager.fresh modes shifts first) := by
    intro id switches hswitches k hk _
    obtain ⟨mode, hmode, rfl⟩ := Option.map_eq_some_iff.mp hswitches
    have hoff : k.switch.isOn = false := by
      rcases hc.switches mode (find_mem hmode) k hk with ⟨which, hk⟩ | ⟨side, direction, hk⟩
      · rw [hk]
        rfl
      · rw [hk]
        rfl
    exact iff_of_false (by simp [hoff]) (not_turnedOn_nil _)
  refine ⟨readable_of_setup (setup_enteredOf _ first.id) hread, ?_⟩
  -- entering the first mode forgets what has not been seen
  have hentered := enteredOf_latches hfresh first.id
  intro id switches hswitches
  have hnone : seenSince id ([] ++ [Visit.entered first.id]) = [] := by
    rw [seenSince_concat, Visit.since]
    split <;> rfl
  have h := hentered id switches hswitches
  rw [hnone] at h
  exact h

/-- A mode is found under its id. -/
theorem switchesOf_mem (hn : (m.modes.map Mode.id).Nodup) {mode : Mode} (h : mode ∈ m.modes) :
    m.switchesOf mode.id = some mode.switches := by
  unfold Manager.switchesOf
  cases hf : m.find? mode.id with
  | none =>
      have hno := List.find?_eq_none.mp hf mode h
      simp at hno
  | some x =>
      obtain rfl := List.inj_on_of_nodup_map hn (find_mem hf) h (find_id hf)
      rfl

/-- The switches of a mode look at what they look at while they are off. -/
theorem readsController_of_rest {mode current : Mode} (hrest : current.rest = mode.rest)
    (hs : ∀ k ∈ mode.switches, k.switch.ReadsController) : ∀ k ∈ current.switches, k.switch.ReadsController := by
  intro k hk
  have hswitches : current.rest.switches = mode.rest.switches := congrArg Mode.switches hrest
  have hreset : { k with switch := k.switch.reset } ∈ mode.rest.switches := by
    rw [← hswitches]
    exact List.mem_map.mpr ⟨k, hk, rfl⟩
  obtain ⟨k₀, hk₀, hsame⟩ := List.mem_map.mp hreset
  have hreads : k₀.switch.reset.ReadsController := hs k₀ hk₀
  have hswitch : k₀.switch.reset = k.switch.reset := congrArg ModeSwitch.switch hsame
  rw [hswitch] at hreads
  exact hreads

/-- **Modes that are compiled pass inputs in phases, and their switches follow the inputs.** Whatever state a mode
is in, and wherever it is installed, an input on which no modifier fails passes it as if all of its switches latched
on the input that came, the modifiers of those that are on then changed it in order, and its triggers looked at what
comes out. And however a program with these modes is driven, a switch is on exactly if some input that its mode has
seen since the mode was entered last turned it on, and no later one turned it off without turning it on as well, as
long as no modifier of the mode has failed since on an input that the switch heeds. -/
theorem phases_and_latches {cfg : Config} {made : Nat} {modes : List Mode} {shifts : List Shift} {s : Studio}
    (hc : compileRules cfg s.hasRecognizers s.recognizers.length = (made, .ok (modes, shifts))) (desk : Desk) :
    (∀ mode ∈ modes, ∀ (current : Mode) (inp : Input), current.rest = mode.rest →
      (ModeSwitch.passAll current.switches inp).2.2 = current.passed inp ∧
      ∀ (out : Input) (t : Studio), t.manager.find? mode.id = some current → current.passed inp = .ok out →
        passMode desk mode.id inp t = passInPhases desk mode.id inp t) ∧
    ∃ s₀, install cfg s = .ok () s₀ ∧ ∀ ds : List Drive,
      (drive desk ds s₀).manager.modes.map Mode.rest = modes.map Mode.rest ∧
      ∀ mode ∈ (drive desk ds s₀).manager.modes,
        let seen := seenSince mode.id (visits desk ds s₀)
        ∀ k ∈ mode.switches, (∀ p ∈ seen, k.switch.Heeds p.1 → p.2 = true) →
          (k.switch.isOn = true ↔ TurnedOn k.switch (seen.map Prod.fst)) := by
  obtain ⟨_, hcompiled⟩ := compileRules_compiled hc
  constructor
  · intro mode hmode current inp hrest
    have hreads : ∀ k ∈ mode.switches, k.switch.ReadsController := fun k hk =>
      readsController_of_ofController (hcompiled.switches mode hmode k hk)
    have hcurrent := readsController_of_rest hrest hreads
    refine ⟨passAll_modified hcurrent (alike_refl inp), fun out t hf hpassed => ?_⟩
    exact passMode_phases hcurrent hf hpassed
  · obtain ⟨first, _, hinstall⟩ := install_compiled hc
    obtain ⟨hread, hlatch⟩ := installed_latches hcompiled first (s.withRecognizers made)
    refine ⟨_, hinstall, fun ds => ?_⟩
    obtain ⟨hsetup, hlatched⟩ := drives_latch desk ds hread hlatch
    have hmodes := hsetup.trans (setup_enteredOf (Manager.fresh modes shifts first) first.id)
    refine ⟨congrArg Manager.modes hmodes, fun mode hmode => ?_⟩
    have hn := (readable_of_setup hsetup hread).nodup
    exact hlatched mode.id mode.switches (switchesOf_mem hn hmode)

/-- A mode with a modifier in front of another switch. -/
def upperAndDrag : Config :=
  { modes := [
      { declaration := .str "[idle] -id a"
        rules := [.str "[switch] button -id Y -> [upper]", .str "[switch] button -id X -> [mouse_toggle]"] }] }

/-- Something is said while the modifier is on, and then the other switch is turned on. -/
def spokenBetween : List Drive :=
  [.input (.press .y []), .input (.spoken "hi"), .input (.press .x [.y])]

/-- Whether both switches of a mode are on after that, and no modifier has failed. -/
def latchedThrough : EStateM.Result Fault Studio Unit → Bool
  | .ok _ s₀ => (drive .quiet spokenBetween s₀).manager.modes.any fun mode =>
      decide (mode.switches.length = 2) && mode.switches.all (·.switch.isOn) &&
        (seenSince mode.id (visits .quiet spokenBetween s₀)).all (·.2)
  | .error _ _ => false

theorem phases_and_latches_upperAndDrag : ∃ modes shifts s₀,
    compileRules upperAndDrag false 0 = (0, .ok (modes, shifts)) ∧ install upperAndDrag {} = .ok () s₀ ∧
    ∃ mode ∈ (drive .quiet spokenBetween s₀).manager.modes, mode.switches.length = 2 ∧
      ∀ k ∈ mode.switches, k.switch.isOn = true ∧
        TurnedOn k.switch ((seenSince mode.id (visits .quiet spokenBetween s₀)).map Prod.fst) := by
  have hc : (compileRules upperAndDrag false 0).1 = 0 ∧ (compileRules upperAndDrag false 0).2.isOk = true := by
    decide +kernel
  have hrun : latchedThrough (install upperAndDrag {}) = true := by decide +kernel
  cases hcompiled : (compileRules upperAndDrag false 0).2 with
  | error fault =>
      rw [hcompiled] at hc
      exact absurd hc.2 (by simp [Except.isOk, Except.toBool])
  | ok out =>
      have hok : compileRules upperAndDrag false 0 = (0, .ok (out.1, out.2)) := Prod.ext hc.1 hcompiled
      obtain ⟨-, s₀, hinstall, hdriven⟩ := phases_and_latches (s := {}) hok .quiet
      rw [hinstall] at hrun
      obtain ⟨mode, hmode, hholds⟩ := List.any_eq_true.mp hrun
      simp only [Bool.and_eq_true, decide_eq_true_eq, List.all_eq_true] at hholds
      obtain ⟨⟨htwo, hon⟩, hthrough⟩ := hholds
      refine ⟨out.1, out.2, s₀, hok, hinstall, mode, hmode, htwo, fun k hk => ⟨hon k hk, ?_⟩⟩
      exact ((hdriven spokenBetween).2 mode hmode k hk fun p hp _ => hthrough p hp).mp (hon k hk)

end PadScribe
