import Mathlib.Data.List.Nodup
import PadScribe.Proofs.Moves

/-!
# `Proofs.Installing` — configurations that compile, and modes that are installed

A configuration that compiles yields at least one mode, its ids are all different, and its shifts and switches
latch on buttons and stick zones only. Such modes can be installed from any state. A configuration that does not
compile leaves all but the recognizers as it was.

## Contents

* `addRule_cases` — all that a rule line can add
* `Compiled`, `compileRules_compiled` — what compiles
* `setModes_first` — installing modes
* `install_compiled`, `reload_cases`, `build_installed` — installing a configuration
-/

namespace PadScribe

variable {s s' : Studio}

theorem except_bind_ok {ε α β : Type} {x : Except ε α} {f : α → Except ε β} {b : β}
    (h : (x >>= f) = .ok b) : ∃ a, x = .ok a ∧ f a = .ok b := by
  cases x with
  | error e => exact absurd h (by simp [bind, Except.bind])
  | ok a => exact ⟨a, rfl, h⟩

/-! ## What a configuration compiles to -/

/-- A switch on a button or a stick zone. -/
def Switch.OfController (k : Switch) : Prop :=
  (∃ which, k = .ofButton which) ∨ (∃ side direction, k = .ofZone side direction)

theorem readSwitch_ofController {name : String} {args : List String} {k : Switch}
    (h : Rule.readSwitch name args = .ok k) : k.OfController := by
  unfold Rule.readSwitch at h
  simp only [] at h
  split at h
  · obtain ⟨opts, _, h⟩ := except_bind_ok h
    obtain ⟨which, _, h⟩ := except_bind_ok h
    exact .inl ⟨which, (Except.ok.inj h).symm⟩
  · split at h
    · obtain ⟨opts, _, h⟩ := except_bind_ok h
      obtain ⟨side, _, h⟩ := except_bind_ok h
      obtain ⟨direction, _, h⟩ := except_bind_ok h
      exact .inr ⟨side, direction, (Except.ok.inj h).symm⟩
    · exact absurd h (by simp)

/-- Whatever a switch rule adds, it latches on a controller. -/
theorem readSwitchRule_ofController {isDefault : Bool} {source target : String} {args targetArgs : List String}
    {r : ModeSwitch ⊕ Shift} (h : Compile.readSwitchRule isDefault source args target targetArgs = .ok r) :
    (r.elim ModeSwitch.switch Shift.switch).OfController := by
  unfold Compile.readSwitchRule at h
  obtain ⟨switch, hswitch, h⟩ := except_bind_ok h
  obtain ⟨modifier, _, h⟩ := except_bind_ok h
  have hk := readSwitch_ofController hswitch
  cases modifier with
  | some m =>
      obtain rfl := Except.ok.inj h
      exact hk
  | none =>
      simp only [] at h
      split at h
      · split at h
        · exact absurd h (by simp)
        · obtain ⟨opts, _, h⟩ := except_bind_ok h
          obtain rfl := Except.ok.inj h
          exact hk
      · split at h
        · obtain ⟨opts, _, h⟩ := except_bind_ok h
          obtain rfl := Except.ok.inj h
          exact hk
        · split at h
          · obtain ⟨opts, _, h⟩ := except_bind_ok h
            obtain rfl := Except.ok.inj h
            exact hk
          · exact absurd h (by simp)

/-- **A rule line** adds a trigger, a switch or a shift. -/
theorem addRule_cases {cfg : Config} {isDefault : Bool} {line : String} {mode mode' : Mode}
    {shifts shifts' : List Shift}
    (h : Compile.addRule cfg isDefault line mode shifts = .ok (mode', shifts')) :
    (∃ t, mode' = { mode with triggers := mode.triggers ++ [t] } ∧ shifts' = shifts ∧
      ∃ name args, Rule.readAction cfg.wordMappings name args = .ok t.action) ∨
    (∃ k, mode' = { mode with switches := mode.switches ++ [k] } ∧ shifts' = shifts ∧ k.switch.OfController) ∨
    (∃ k, mode' = mode ∧ shifts' = shifts ++ [k] ∧ k.switch.OfController) := by
  unfold Compile.addRule at h
  split at h
  · exact absurd h (by simp)
  · simp only [] at h
    split at h
    · -- a trigger line
      obtain ⟨c, _, h⟩ := except_bind_ok h
      obtain ⟨a, ha, h⟩ := except_bind_ok h
      obtain ⟨rfl, rfl⟩ := Prod.mk.inj (Except.ok.inj h)
      exact .inl ⟨⟨c, a⟩, rfl, rfl, _, _, ha⟩
    · split at h
      · -- a switch line, which makes a switch of the mode or a shift
        obtain ⟨r, hr, h⟩ := except_bind_ok h
        cases r with
        | inl k =>
            obtain ⟨rfl, rfl⟩ := Prod.mk.inj (Except.ok.inj h)
            exact .inr (.inl ⟨k, rfl, rfl, readSwitchRule_ofController hr⟩)
        | inr k =>
            obtain ⟨rfl, rfl⟩ := Prod.mk.inj (Except.ok.inj h)
            exact .inr (.inr ⟨k, rfl, rfl, readSwitchRule_ofController hr⟩)
      · exact absurd h (by simp)
  · exact absurd h (by simp)

theorem within_ok {α : Type} {wrap : CompileError → CompileError} {r : Except Fault α} {a : α}
    (h : Compile.within wrap r = .ok a) : r = .ok a := by
  unfold Compile.within at h
  split at h
  · exact absurd h (by simp)
  · exact h

/-- The rule lines of a block keep what every line keeps. -/
theorem addRules_keep {cfg : Config} {isDefault : Bool} {P : Mode × List Shift → Prop}
    (line : ∀ {line mode shifts out}, P (mode, shifts) →
      Compile.addRule cfg isDefault line mode shifts = .ok out → P out)
    {rules : List Json} {mode : Mode} {shifts : List Shift} {out : Mode × List Shift} (hp : P (mode, shifts))
    (h : Compile.addRules cfg isDefault rules mode shifts = .ok out) : P out := by
  induction rules generalizing mode shifts with
  | nil => rwa [← Except.ok.inj h]
  | cons rule rest ih =>
      simp only [Compile.addRules] at h
      split at h
      · exact absurd h (by simp)
      · split at h
        · exact absurd h (by simp)
        · rename_i hl
          exact ih (line hp (within_ok hl)) h

/-- Rule lines keep the id of their mode. -/
theorem addRules_id {cfg : Config} {isDefault : Bool} {rules : List Json} {mode mode' : Mode}
    {shifts shifts' : List Shift}
    (h : Compile.addRules cfg isDefault rules mode shifts = .ok (mode', shifts')) : mode'.id = mode.id := by
  refine addRules_keep (P := fun out => out.1.id = mode.id) ?_ rfl h
  intro line m ks out hm hl
  rcases addRule_cases hl with ⟨t, he, _⟩ | ⟨k, he, _⟩ | ⟨k, he, _⟩
  · rw [he]; exact hm
  · rw [he]; exact hm
  · rw [he]; exact hm

/-- Rule lines add shifts on buttons and stick zones only. -/
theorem addRules_shifts {cfg : Config} {isDefault : Bool} {rules : List Json} {mode mode' : Mode}
    {shifts shifts' : List Shift} (hs : ∀ k ∈ shifts, k.switch.OfController)
    (h : Compile.addRules cfg isDefault rules mode shifts = .ok (mode', shifts')) :
    ∀ k ∈ shifts', k.switch.OfController := by
  refine addRules_keep (P := fun out => ∀ k ∈ out.2, k.switch.OfController) ?_ hs h
  intro line m ks out hm hl
  rcases addRule_cases hl with ⟨t, _, he, _⟩ | ⟨k, _, he, _⟩ | ⟨k, _, he, hk⟩
  · rw [he]; exact hm
  · rw [he]; exact hm
  · rw [he]
    intro k' hk'
    rcases List.mem_append.mp hk' with hk' | hk'
    · exact hm k' hk'
    · rwa [List.mem_singleton.mp hk']

/-- Rule lines add switches on buttons and stick zones only. -/
theorem addRules_switches {cfg : Config} {isDefault : Bool} {rules : List Json} {mode mode' : Mode}
    {shifts shifts' : List Shift} (hs : ∀ k ∈ mode.switches, k.switch.OfController)
    (h : Compile.addRules cfg isDefault rules mode shifts = .ok (mode', shifts')) :
    ∀ k ∈ mode'.switches, k.switch.OfController := by
  refine addRules_keep (P := fun out => ∀ k ∈ out.1.switches, k.switch.OfController) ?_ hs h
  intro line m ks out hm hl
  rcases addRule_cases hl with ⟨t, he, _⟩ | ⟨k, he, _, hk⟩ | ⟨k, he, _⟩
  · rw [he]; exact hm
  · rw [he]
    intro k' hk'
    rcases List.mem_append.mp hk' with hk' | hk'
    · exact hm k' hk'
    · rwa [List.mem_singleton.mp hk']
  · rw [he]; exact hm

/-- The actions of a mode are those of its rule lines. -/
def Mode.ActsBy (cfg : Config) (mode : Mode) : Prop :=
  ∀ t ∈ mode.triggers, ∃ name args, Rule.readAction cfg.wordMappings name args = .ok t.action

theorem addRules_actsBy {cfg : Config} {isDefault : Bool} {rules : List Json} {mode mode' : Mode}
    {shifts shifts' : List Shift} (hm : mode.ActsBy cfg)
    (h : Compile.addRules cfg isDefault rules mode shifts = .ok (mode', shifts')) : mode'.ActsBy cfg := by
  refine addRules_keep (P := fun out => out.1.ActsBy cfg) ?_ hm h
  intro line m ks out hm hl
  rcases addRule_cases hl with ⟨t, he, _, ht⟩ | ⟨k, he, _⟩ | ⟨k, he, _⟩
  · rw [he]
    intro t' ht'
    rcases List.mem_append.mp ht' with ht' | ht'
    · exact hm t' ht'
    · rwa [List.mem_singleton.mp ht']
  · rw [he]; exact hm
  · rw [he]; exact hm

theorem startMode_new {d : Declaration} {kind : ModeKind} {seen : List String} {mode : Mode}
    (h : Compile.startMode d kind seen = .ok mode) :
    mode.id ∉ seen ∧ mode.triggers = [] ∧ mode.switches = [] := by
  unfold Compile.startMode at h
  split at h
  · exact absurd h (by simp)
  · split at h
    · exact absurd h (by simp)
    · rename_i hn
      rw [← Except.ok.inj h]
      exact ⟨by simpa using hn, rfl, rfl⟩

/-- **Modes and shifts as they are compiled**: the ids are all different, shifts and switches latch on
controllers, and every action is that of a rule line. -/
structure Compiled (cfg : Config) (modes : List Mode) (shifts : List Shift) : Prop where
  nodup : (modes.map Mode.id).Nodup
  shifts : ∀ k ∈ shifts, k.switch.OfController
  switches : ∀ mode ∈ modes, ∀ k ∈ mode.switches, k.switch.OfController
  actions : ∀ mode ∈ modes, mode.ActsBy cfg

/-- The blocks of a configuration yield one mode each. -/
theorem blocks_compiled {cfg : Config} {recognizers : Bool} {made n : Nat} {done modes : List Mode}
    {shifts shifts' : List Shift} {blocks : List ModeBlock} (hc : Compiled cfg done shifts)
    (h : Compile.blocks cfg recognizers made done shifts blocks = (n, .ok (modes, shifts'))) :
    modes.length = done.length + blocks.length ∧ Compiled cfg modes shifts' := by
  induction blocks generalizing made done shifts with
  | nil =>
      obtain ⟨rfl, rfl⟩ := Prod.mk.inj (Except.ok.inj (Prod.mk.inj h).2)
      exact ⟨by simp, hc⟩
  | cons block rest ih =>
      simp only [Compile.blocks] at h
      split at h
      · exact absurd (Prod.mk.inj h).2 (by simp)
      · split at h
        · exact absurd (Prod.mk.inj h).2 (by simp)
        · split at h
          · exact absurd (Prod.mk.inj h).2 (by simp)
          · rename_i start hstart _ mode ks hrules
            obtain ⟨hnew, hnone, hempty⟩ := startMode_new hstart
            -- the id is checked against the modes before it, and rule lines keep it
            have hid : mode.id ∉ done.map Mode.id := by
              rw [addRules_id hrules]
              exact hnew
            have hn : ((done ++ [mode]).map Mode.id).Nodup := by
              rw [List.map_append]
              exact List.Nodup.append hc.nodup (by simp) (by simpa using hid)
            have hacts : mode.ActsBy cfg :=
              addRules_actsBy (fun t ht => absurd ht (by simp [hnone])) hrules
            have hswitches : ∀ k ∈ mode.switches, k.switch.OfController :=
              addRules_switches (by simp [hempty]) hrules
            have hall : ∀ m ∈ done ++ [mode], (∀ k ∈ m.switches, k.switch.OfController) ∧ m.ActsBy cfg := by
              intro m hm
              rcases List.mem_append.mp hm with hm | hm
              · exact ⟨hc.switches m hm, hc.actions m hm⟩
              · rw [List.mem_singleton.mp hm]
                exact ⟨hswitches, hacts⟩
            have hnext : Compiled cfg (done ++ [mode]) ks :=
              ⟨hn, addRules_shifts hc.shifts hrules, fun m hm => (hall m hm).1, fun m hm => (hall m hm).2⟩
            obtain ⟨hlen, hrest⟩ := ih hnext h
            refine ⟨?_, hrest⟩
            simp only [hlen, List.length_append, List.length_cons, List.length_nil]
            omega

/-- **What compiles** has at least one mode. -/
theorem compileRules_compiled {cfg : Config} {recognizers : Bool} {made n : Nat} {modes : List Mode}
    {shifts : List Shift} (h : compileRules cfg recognizers made = (n, .ok (modes, shifts))) :
    modes ≠ [] ∧ Compiled cfg modes shifts := by
  unfold compileRules at h
  split at h
  · exact absurd (Prod.mk.inj h).2 (by simp)
  · rename_i hne
    obtain ⟨hlen, hc⟩ := blocks_compiled ⟨by simp, by simp, by simp, by simp⟩ h
    refine ⟨?_, hc⟩
    rintro rfl
    have hz : cfg.modes.length = 0 := by simpa using hlen.symm
    exact hne (by simpa using hz)

/-! ## Installing modes -/

/-- The check for ids used twice accepts the modes whose ids are new and all different. -/
theorem duplicateId_eq_none_iff {seen : List String} {modes : List Mode} :
    duplicateId? seen modes = none ↔ (∀ m ∈ modes, m.id ∉ seen) ∧ (modes.map Mode.id).Nodup := by
  induction modes generalizing seen with
  | nil => simp [duplicateId?]
  | cons m rest ih =>
      by_cases hm : m.id ∈ seen
      · simp [duplicateId?, hm]
      · simp only [duplicateId?, List.contains_iff_mem, hm, if_false, ih, List.mem_cons, not_or,
          List.map_cons, List.nodup_cons, List.mem_map, not_exists, not_and]
        constructor
        · rintro ⟨hall, hn⟩
          exact ⟨fun x hx => hx.elim (fun he => he ▸ hm) fun hx => (hall x hx).2, fun x hx => (hall x hx).1, hn⟩
        · rintro ⟨hall, hne, hn⟩
          exact ⟨fun x hx => ⟨hne x hx, hall x (.inr hx)⟩, hn⟩

/-- Modes and shifts before any of them is entered. -/
def Manager.fresh (modes : List Mode) (shifts : List Shift) (first : Mode) : Manager :=
  { modes, shifts, home := some first.id }

/-- The studio once modes have been installed and the first of them entered. -/
def Studio.installed (s : Studio) (modes : List Mode) (shifts : List Shift) (first : Mode) : Studio :=
  { s with
    manager := (Manager.fresh modes shifts first).enteredOf first.id
    control := { s.control with modeId := first.id }
    pool := s.pool ++ s.manager.exitTasks none ++ first.enterTasks none
    retired := s.retired ++ [s.manager.leftCurrent.modes]
    hooks := s.hooks ++ s.manager.current.toList.map (.exit s.retired.length)
      ++ [.enter (s.retired.length + 1) first.id]
    record := s.record ++ [.switched none first.id] }

/-- Every action of the modes that are installed is that of a rule line. -/
theorem installed_actions {cfg : Config} {modes : List Mode} {shifts : List Shift} (hc : Compiled cfg modes shifts)
    (first : Mode) (s : Studio) : ∀ a ∈ (s.installed modes shifts first).manager.actions,
      ∃ name args, Rule.readAction cfg.wordMappings name args = .ok a := by
  have hacts := actions_eq_of_setup (setup_enteredOf (Manager.fresh modes shifts first) first.id)
  rw [show (s.installed modes shifts first).manager.actions = (Manager.fresh modes shifts first).actions from hacts]
  intro a ha
  obtain ⟨mode, hmode, hact⟩ := List.mem_flatMap.mp ha
  obtain ⟨t, ht, rfl⟩ := List.mem_map.mp hact
  exact hc.actions mode hmode t ht

/-- **Modes with different ids** are installed. -/
theorem setModes_first {first : Mode} {rest : List Mode} {shifts : List Shift}
    (hn : ((first :: rest).map Mode.id).Nodup) :
    setModes (first :: rest) shifts s = .ok () (s.installed (first :: rest) shifts first) := by
  have hd : duplicateId? [] (first :: rest) = none := duplicateId_eq_none_iff.mpr ⟨by simp, hn⟩
  have hfind : (Manager.fresh (first :: rest) shifts first).find? first.id = some first := by
    simp [Manager.find?, Manager.fresh]
  unfold setModes leaveCurrent
  -- the modes before are left and retired, then the first mode is entered
  simp only [hd, bind_apply, get_apply, submitAll_apply, updateManager_apply, modify_apply]
  rw [switchTo_found hfind]
  have hera : (s.retired ++ [s.manager.leftCurrent.modes]).length = s.retired.length + 1 := by simp
  simp only [switchedTo, Studio.switchHooks, hera]
  rfl

/-- The recognizers once those of a configuration have been made. -/
def Studio.withRecognizers (s : Studio) (made : Nat) : Studio :=
  { s with recognizers :=
      s.recognizers ++ List.replicate (made - s.recognizers.length) { failing := s.failing } }

theorem install_eq {cfg : Config} {made : Nat} {r : Except Fault (List Mode × List Shift)}
    (h : compileRules cfg s.hasRecognizers s.recognizers.length = (made, r)) :
    install cfg s = (liftFault r >>= fun out => setModes out.1 out.2) (s.withRecognizers made) := by
  unfold install
  rw [bind_apply, get_apply]
  simp only [h, bind_apply, set_apply]
  rfl

/-- **A configuration that compiles** is installed, from any state. -/
theorem install_compiled {cfg : Config} {made : Nat} {modes : List Mode} {shifts : List Shift}
    (h : compileRules cfg s.hasRecognizers s.recognizers.length = (made, .ok (modes, shifts))) :
    ∃ first ∈ modes.head?, install cfg s
      = .ok () ((s.withRecognizers made).installed modes shifts first) := by
  obtain ⟨hne, hc⟩ := compileRules_compiled h
  cases modes with
  | nil => exact absurd rfl hne
  | cons first rest =>
      refine ⟨first, by simp, ?_⟩
      rw [install_eq h, bind_apply, liftFault_apply]
      exact setModes_first hc.nodup

/-- One that does not compile changes the recognizers only. -/
theorem install_refused {cfg : Config} {made : Nat} {fault : Fault}
    (h : compileRules cfg s.hasRecognizers s.recognizers.length = (made, .error fault)) :
    install cfg s = .error fault (s.withRecognizers made) := by
  rw [install_eq h, bind_apply, liftFault_apply]

/-- **A configuration that is read again** either does not compile and changes the recognizers only, or is
installed with its settings. -/
theorem reload_cases (cfg : Config) (s : Studio) :
    (∃ made fault, reload cfg s = .error fault (s.withRecognizers made)) ∨
    ∃ made modes shifts, ∃ first ∈ modes.head?,
      compileRules cfg s.hasRecognizers s.recognizers.length = (made, .ok (modes, shifts)) ∧
      reload cfg s
        = .ok () { (s.withRecognizers made).installed modes shifts first with settings := cfg.settings } := by
  unfold reload
  obtain ⟨⟨made, r⟩, hc⟩ : ∃ c, compileRules cfg s.hasRecognizers s.recognizers.length = c := ⟨_, rfl⟩
  cases r with
  | error fault =>
      refine .inl ⟨made, fault, ?_⟩
      rw [bind_apply, install_refused hc]
  | ok out =>
      obtain ⟨modes, shifts⟩ := out
      obtain ⟨first, hfirst, hi⟩ := install_compiled hc
      refine .inr ⟨made, modes, shifts, first, hfirst, hc, ?_⟩
      rw [bind_apply, hi]
      rfl

/-- Building a program is reading its configuration for the first time. -/
theorem build_reload {cfg : Config} {start : Studio} (h : Studio.build cfg start = .ok s) :
    reload cfg start = .ok () s := by
  unfold Studio.build at h
  split at h
  · rename_i hrun
    obtain rfl := Except.ok.inj h
    exact hrun
  · exact absurd h (by simp)

/-- **A program that is built** runs what its configuration compiles to. -/
theorem build_compiled {cfg : Config} {start : Studio} (h : Studio.build cfg start = .ok s) :
    ∃ made modes shifts, ∃ first ∈ modes.head?,
      compileRules cfg start.hasRecognizers start.recognizers.length = (made, .ok (modes, shifts)) ∧
      s = { (start.withRecognizers made).installed modes shifts first with settings := cfg.settings } := by
  have hr := build_reload h
  rcases reload_cases cfg start with ⟨made, fault, he⟩ | ⟨made, modes, shifts, first, hf, hc, he⟩
  · exact absurd (hr.symm.trans he) (by simp)
  · obtain ⟨_, rfl⟩ := EStateM.Result.ok.inj (hr.symm.trans he)
    exact ⟨made, modes, shifts, first, hf, hc, rfl⟩

/-- Its modes and shifts are as they are compiled. -/
theorem build_installed {cfg : Config} {start : Studio} (h : Studio.build cfg start = .ok s) :
    ∃ made modes shifts, ∃ first ∈ modes.head?, Compiled cfg modes shifts ∧
      s = { (start.withRecognizers made).installed modes shifts first with settings := cfg.settings } := by
  obtain ⟨made, modes, shifts, first, hf, hc, hs⟩ := build_compiled h
  exact ⟨made, modes, shifts, first, hf, (compileRules_compiled hc).2, hs⟩

end PadScribe
