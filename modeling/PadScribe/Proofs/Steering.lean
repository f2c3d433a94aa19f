import PadScribe.Proofs.Returning
import PadScribe.Proofs.Shifting

/-!
# `Proofs.Steering` — where an input is steered

The modes of a running program are sound: their ids are all different and the first of them is the default mode.
So going back to the default mode never fails, and where an input goes can be said without running anything. In
the default mode the first shift that the input turns on takes it; the shifts before that one only enter the
default mode anew. In any other mode the condition that leads back takes the input or lets it pass.

Nothing fails on the way but one thing: a shift whose mode its rule left empty.

## Contents

* `run_sound`, `run_setup` — what runs keep
* `tryShifts_append`, `tryShifts_first` — the first shift that an input turns on
* `steer_led`, `steer_nowhere` — an input that a shift takes
* `steer_back`, `steer_stays` — an input in another mode
-/

namespace PadScribe

variable {desk : Desk} {s s' : Studio}

/-! ## What runs keep -/

/-- Managers with one setup are sound together. -/
theorem sound_of_setup {m m' : Manager} (h : m'.setup = m.setup) (hm : m.Sound) : m'.Sound := by
  have hmodes : m'.modes.map Mode.rest = m.modes.map Mode.rest := congrArg Manager.modes h
  have hids : m'.modes.map Mode.id = m.modes.map Mode.id := by
    have hrest : ∀ m : Manager, (m.modes.map Mode.rest).map Mode.id = m.modes.map Mode.id := by
      intro m
      simp [Function.comp_def]
    rw [← hrest, hmodes, hrest]
  refine ⟨nodup_of_setup h hm.nodup, ?_, ?_⟩
  · intro hnil
    rw [hnil] at hmodes
    exact hm.nonempty (List.map_eq_nil_iff.mp hmodes.symm)
  · rw [home_of_setup h, hm.home, ← List.head?_map, ← List.head?_map, hids]

theorem installed_sound {cfg : Config} {modes : List Mode} {shifts : List Shift} {first : Mode}
    (hf : first ∈ modes.head?) (hc : Compiled cfg modes shifts) :
    (s.installed modes shifts first).manager.Sound := by
  have hne : modes ≠ [] := by
    rintro rfl
    exact absurd hf (by simp)
  refine sound_of_setup (setup_enteredOf (Manager.fresh modes shifts first) first.id) ⟨hc.nodup, hne, ?_⟩
  show some first.id = modes.head?.map Mode.id
  rw [Option.mem_def.mp hf]
  rfl

theorem build_sound {cfg : Config} {start : Studio} (h : Studio.build cfg start = .ok s) : s.manager.Sound := by
  obtain ⟨made, modes, shifts, first, hf, hc, rfl⟩ := build_installed h
  exact installed_sound (s := start.withRecognizers made) hf hc

theorem walk_setup {said : String → Prop} {is : List Input} (h : Walk desk said s is s') :
    s'.manager.setup = s.manager.setup := by
  induction h with
  | refl => rfl
  | move _ hm ih => exact (move_setup hm).trans ih
  | hand _ _ ih => exact ih

/-- An event that reads no configuration keeps the setup. -/
theorem act_setup (desk : Desk) {e : Event} (he : ∀ cfg, e ≠ .reload cfg) (hw : Wired s) :
    (after (e.act desk) s).manager.setup = s.manager.setup := by
  obtain ⟨is, hwalk, _⟩ : ∃ is, Walk desk (fun _ => True) s is (after (e.act desk) s) ∧ _ :=
    act_walk he hw fun _ _ _ _ _ => trivial
  exact walk_setup hwalk

/-- **Until a configuration is read again, a run keeps the setup.** -/
theorem run_setup {es : List Event} (he : ∀ e ∈ es, ∀ cfg, e ≠ .reload cfg) (hw : Wired s) :
    (run desk es s).manager.setup = s.manager.setup := by
  induction es generalizing s with
  | nil => rfl
  | cons e rest ih =>
      have hfirst := act_setup desk (he e List.mem_cons_self) hw
      exact (ih (fun e' h => he e' (List.mem_cons_of_mem _ h)) (act_wired e hw)).trans hfirst

theorem act_sound (e : Event) (hw : Wired s) (hb : s.manager.Sound) :
    (after (e.act desk) s).manager.Sound := by
  by_cases he : ∃ cfg, e = .reload cfg
  · obtain ⟨cfg, rfl⟩ := he
    show (after (reload cfg) s).manager.Sound
    rcases reload_cases cfg s with ⟨made, fault, h⟩ | ⟨made, modes, shifts, first, hf, hc, h⟩
    · rw [after_error h]
      exact hb
    · rw [after_ok h]
      exact installed_sound (s := s.withRecognizers made) hf (compileRules_compiled hc).2
  · exact sound_of_setup (act_setup desk (fun cfg h => he ⟨cfg, h⟩) hw) hb

/-- **The modes of a running program are sound.** -/
theorem run_sound (es : List Event) (hw : Wired s) (hb : s.manager.Sound) : (run desk es s).manager.Sound := by
  have keep : ∀ (e : Event) (t : Studio), Wired t ∧ t.manager.Sound →
      Wired (after (e.act desk) t) ∧ (after (e.act desk) t).manager.Sound :=
    fun e _ h => ⟨act_wired e h.1, act_sound e h.1 h.2⟩
  have hrun : Wired (run desk es s) ∧ (run desk es s).manager.Sound := afterAll_keep keep es ⟨hw, hb⟩
  exact hrun.2

/-- The default mode of a sound manager is there. -/
theorem exists_homeMode {m : Manager} {id : String} (hb : m.Sound) (hh : m.home = some id) :
    ∃ mode, m.find? id = some mode := by
  obtain ⟨id', hid', hfound⟩ := exists_home hb
  obtain rfl : id = id' := Option.some.inj (hh.symm.trans hid')
  exact Option.isSome_iff_exists.mp hfound

/-! ## The first shift that an input turns on -/

/-- What a shift does that an input turns on. -/
def turnOn (desk : Desk) (inp : Input) (i : Nat) (k : Shift) : Step Bool := do
  (Action.enterMode k.target).run desk inp
  updateManager fun m => { m.setShift i true with exit := some k.switch.off }
  return true

/-- Shifts after shifts: the later ones see the input if none of the earlier ones takes it. -/
theorem tryShifts_append (inp : Input) (i : Nat) (before rest : List Shift) :
    tryShifts desk inp i (before ++ rest) = (do
      if ← tryShifts desk inp i before then return true
      else tryShifts desk inp (i + before.length) rest) := by
  induction before generalizing i with
  | nil => rfl
  | cons k before ih =>
      have hlen : i + (k :: before).length = i + 1 + before.length := by
        rw [List.length_cons]
        omega
      simp only [List.cons_append, tryShifts, hlen]
      split
      · simp only [bind_assoc, pure_bind, if_true]
      · simp only [bind_assoc, ih]
      · exact ih (i + 1)

/-- **The first shift that an input turns on** meets it in the default mode, whatever the shifts before it do. -/
theorem tryShifts_first (desk : Desk) {id : String} {inp : Input} {k : Shift}
    (hb : s.manager.Sound) (hh : s.manager.home = some id) (hc : s.manager.current = some id)
    (hk : s.manager.shifts.find? (·.switch.on.holds inp) = some k) :
    ∃ t i, tryShifts desk inp 0 s.manager.shifts s = turnOn desk inp i k t ∧
      t.manager.setup = s.manager.setup ∧ t.manager.current = some id := by
  obtain ⟨hon, before, later, hks, hno⟩ := List.find?_eq_some_iff_append.mp hk
  have hoff : ∀ k' ∈ before, k'.switch.on.holds inp = false := by
    intro k' hk'
    simpa using hno k' hk'
  obtain ⟨mode, hmode⟩ := exists_homeMode hb hh
  obtain ⟨t, _, ht, _⟩ := tryShifts_ends desk 0 hoff hh hmode
  have hset : t.manager.setup = s.manager.setup := by
    have hmoves : Moves desk (fun _ => True) s (after (tryShifts desk inp 0 before) s) := by
      refine tryShifts_moves (fun _ => trivial) inp 0 before s fun k' hk' => ?_
      rw [Manager.offs, hks]
      exact List.mem_map.mpr ⟨k', List.mem_append_left _ hk', rfl⟩
    rw [← after_ok ht]
    exact moves_setup hmoves
  refine ⟨t, 0 + before.length, ?_, hset, tryShifts_current hh hc ht⟩
  have hchange : k.switch.change inp = .on := change_on_iff.mpr hon
  rw [hks, tryShifts_append, bind_apply, ht]
  simp only [Bool.false_eq_true, if_false, tryShifts, hchange]
  rfl

/-! ## An input in the default mode -/

theorem steer_first (desk : Desk) {id : String} {inp : Input} {k : Shift} (hb : s.manager.Sound)
    (hh : s.manager.home = some id) (hc : s.manager.current = some id)
    (hk : s.manager.shifts.find? (·.switch.on.holds inp) = some k) :
    ∃ t i, steer desk inp s = (turnOn desk inp i k >>= fun _ => pure none) t ∧
      t.manager.setup = s.manager.setup ∧ t.manager.current = some id := by
  obtain ⟨t, i, ht, hrest⟩ := tryShifts_first desk hb hh hc hk
  refine ⟨t, i, ?_, hrest⟩
  have htaken : ∀ taken u, turnOn desk inp i k t = .ok taken u → taken = true := by
    intro taken u hu
    unfold turnOn at hu
    obtain ⟨_, v, _, hu⟩ := bind_ok hu
    obtain ⟨_, w, _, hu⟩ := bind_ok hu
    exact (EStateM.Result.ok.inj hu).1.symm
  unfold steer
  rw [bind_apply, get_apply]
  simp only [hc, hh, if_true]
  rw [bind_apply, bind_apply, ht]
  cases hu : turnOn desk inp i k t with
  | error e u => rfl
  | ok taken u =>
      rw [htaken taken u hu]
      rfl

/-- **A shift that leads to a mode** takes the input, and its off condition becomes the way back. -/
theorem steer_led (desk : Desk) {id target : String} {inp : Input} {k : Shift} (hb : s.manager.Sound)
    (hh : s.manager.home = some id) (hc : s.manager.current = some id)
    (hk : s.manager.shifts.find? (·.switch.on.holds inp) = some k) (ht : k.target = some target) :
    ∃ t, steer desk inp s = .ok none t ∧
      t.manager.current = (if target ∈ s.manager.modes.map Mode.id then some target else some id) ∧
      t.manager.exit = some k.switch.off := by
  obtain ⟨t, i, hsteer, hset, hcur⟩ := steer_first desk hb hh hc hk
  obtain ⟨u, hu, _, hucur⟩ := enterOrWarn_ok hset target inp
  refine ⟨{ u with manager := { u.manager.setShift i true with exit := some k.switch.off } }, ?_, ?_, rfl⟩
  · rw [hsteer]
    simp only [turnOn, ht, Action.run, bind_apply, hu, updateManager_apply, pure_apply]
  · rw [← hcur]
    exact hucur

/-- **A shift without a mode** fails, and the default mode stays current. -/
theorem steer_nowhere (desk : Desk) {id : String} {inp : Input} {k : Shift} (hb : s.manager.Sound)
    (hh : s.manager.home = some id) (hc : s.manager.current = some id)
    (hk : s.manager.shifts.find? (·.switch.on.holds inp) = some k) (ht : k.target = none) :
    ∃ fault t, steer desk inp s = .error fault t ∧ t.manager.current = some id := by
  obtain ⟨t, i, hsteer, _, hcur⟩ := steer_first desk hb hh hc hk
  refine ⟨.shape .wrongKind, t, ?_, hcur⟩
  rw [hsteer]
  simp only [turnOn, ht, Action.run, bind_apply, throw_apply]

/-! ## An input in another mode -/

/-- **The way back** takes the input. -/
theorem steer_back (desk : Desk) {id : String} {inp : Input} {c : Condition} (hb : s.manager.Sound)
    (hc : s.manager.current = some id) (hne : s.manager.home ≠ some id) (hx : s.manager.exit = some c)
    (h : c.holds inp = true) :
    ∃ t, steer desk inp s = .ok none t ∧ t.manager.current = s.manager.home := by
  obtain ⟨t, ht, _, hcur⟩ := restore_ok hb rfl inp
  refine ⟨{ t with manager := { t.manager with exit := none } }, ?_, hcur⟩
  unfold steer
  rw [bind_apply, get_apply]
  simp only [hc, hne, if_false]
  unfold tryExit
  simp only [bind_apply, get_apply, hx, h, if_true, ht, updateManager_apply, pure_apply]

/-- **Every other input** goes to the current mode. -/
theorem steer_stays (desk : Desk) {id : String} {inp : Input} (hc : s.manager.current = some id)
    (hne : s.manager.home ≠ some id) (h : ∀ c, s.manager.exit = some c → c.holds inp = false) :
    steer desk inp s = .ok (some id) s := by
  unfold steer
  rw [bind_apply, get_apply]
  simp only [hc, hne, if_false]
  unfold tryExit
  rw [bind_apply, bind_apply, get_apply]
  simp only []
  cases hx : s.manager.exit with
  | none => rfl
  | some c =>
      simp only [h c hx, Bool.false_eq_true, if_false]
      rfl

end PadScribe
