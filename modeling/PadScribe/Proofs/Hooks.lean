import PadScribe.Proofs.Compiling

/-!
# `Proofs.Hooks` — the hooks of modes

Every mode is told when it is entered and when it is left. Modes change in many ways: a shift or a trigger enters
one, the way back leads to the default mode, a configuration that is read again replaces all of them, and some
requests are refused. Whatever happens, each mode that is entered is left before another one is entered, and the
current mode is the one that was entered last. So of all speech modes, those that were replaced included, only the
current one can have an open line, and audio that is fed to any other goes nowhere.

## Contents

* `ManagerCall` — what the manager of modes is asked to do
* `Studio.HooksInTurn`, `Mode.Paused`, `Mode.OpenIff` — hooks and lines
* `Attended`, `move_attended` — what every change of the state keeps
* `setModes_attended`, `handle_attended`, `switchTo_attended` — what every call keeps
* `compileRules_paused` — modes that can be installed
* `hooks_in_turn` — every run
-/

namespace PadScribe

variable {desk : Desk} {may : Mark → Prop} {s s' : Studio}

/-! ## Hooks and lines -/

/-- What a mode is told about one visit. -/
def visitHooks (visit : Nat × String) : List Hook :=
  [.enter visit.1 visit.2, .exit visit.1 visit.2]

/-- **Hooks in turn**: some visits that are over, and then the visit of the current mode, which has begun. -/
def Studio.HooksInTurn (s : Studio) : Prop :=
  ∃ visits : List (Nat × String),
    s.hooks = visits.flatMap visitHooks ++ s.manager.current.toList.map (.enter s.retired.length)

namespace Mode

/-- A mode whose line, if it has one, is paused. -/
def Paused (m : Mode) : Prop :=
  ∀ line, m.kind = .speech line → line.paused = true

/-- A mode whose line, if it has one, is open exactly under a condition. -/
def OpenIff (m : Mode) (p : Prop) : Prop :=
  ∀ line, m.kind = .speech line → (line.paused = false ↔ p)

variable {m : Mode} {p : Prop}

theorem paused_of_openIff (ho : m.OpenIff p) (hp : ¬ p) : m.Paused := by
  intro line hl
  have hne : ¬ line.paused = false := fun h => hp ((ho line hl).mp h)
  simpa using hne

theorem openIff_of_paused (h : m.Paused) (hp : ¬ p) : m.OpenIff p := by
  intro line hl
  simp [h line hl, hp]

/-- A kind whose line has been opened or paused. -/
theorem setPaused_line {b : Bool} {kind : ModeKind} {line : SpeechLine} (h : setPaused b kind = .speech line) :
    line.paused = b := by
  cases kind with
  | speech line' =>
      obtain rfl := ModeKind.speech.inj h
      rfl
  | _ => exact absurd h (by simp [setPaused])

/-- The line of a mode that has been entered is open. -/
theorem openIff_entered (m : Mode) (hp : p) : m.entered.OpenIff p := by
  intro line hl
  simp [setPaused_line hl, hp]

/-- The line of a mode that has been left is paused. -/
theorem paused_left (m : Mode) : m.left.Paused :=
  fun _ hl => setPaused_line hl

/-- **Audio for a paused mode goes nowhere**, whatever its recognizer would do. -/
theorem feed_paused (h : m.Paused) {line : SpeechLine} (hl : m.kind = .speech line) (alone : Bool)
    (audio : String) (s : Studio) : line.feed alone m.id audio s = .ok () s := by
  unfold SpeechLine.feed
  cases line.recognizer with
  | none => rfl
  | some i => simp [h line hl]

end Mode

/-! ## What every change of the state keeps -/

/-- **Modes that are told in turn.** The ids are all different, the hooks were run in turn, only the line of the
current mode is open, and the modes that were replaced are paused. -/
structure Attended (s : Studio) : Prop where
  nodup : (s.manager.modes.map Mode.id).Nodup
  hooks : s.HooksInTurn
  lines : ∀ mode ∈ s.manager.modes, mode.OpenIff (s.manager.current = some mode.id)
  retired : ∀ modes ∈ s.retired, ∀ mode ∈ modes, mode.Paused

/-- The modes once the current one has been left. -/
theorem mem_leftCurrent {m : Manager} {mode : Mode} (h : mode ∈ m.leftCurrent.modes) :
    ∃ x ∈ m.modes, mode = if m.current = some x.id then x.left else x := by
  unfold Manager.leftCurrent at h
  cases hc : m.current with
  | none =>
      rw [hc] at h
      exact ⟨mode, h, by simp⟩
  | some id =>
      rw [hc] at h
      obtain ⟨x, hx, rfl⟩ := List.mem_map.mp h
      exact ⟨x, hx, by simp [eq_comm]⟩

/-- **Leaving the current mode pauses every line.** -/
theorem leftCurrent_paused {m : Manager} (h : ∀ mode ∈ m.modes, mode.OpenIff (m.current = some mode.id)) :
    ∀ mode ∈ m.leftCurrent.modes, mode.Paused := by
  intro mode hmode
  obtain ⟨x, hx, rfl⟩ := mem_leftCurrent hmode
  split
  · exact Mode.paused_left x
  · rename_i hne
    exact Mode.paused_of_openIff (h x hx) hne

/-- **A mode that is entered** has the only open line, once every line was paused. -/
theorem enteredOf_lines {m : Manager} (id : String) (h : ∀ mode ∈ m.leftCurrent.modes, mode.Paused) :
    ∀ mode ∈ (m.enteredOf id).modes, mode.OpenIff ((m.enteredOf id).current = some mode.id) := by
  intro mode hmode
  have hcurrent : (m.enteredOf id).current = some id := rfl
  rw [hcurrent]
  obtain ⟨x, hx, rfl⟩ := List.mem_map.mp hmode
  by_cases hid : x.id = id
  · rw [if_pos hid]
    exact Mode.openIff_entered x (congrArg some hid.symm)
  · rw [if_neg hid]
    have hne : ¬ some id = some x.id := fun he => hid (Option.some.inj he).symm
    exact Mode.openIff_of_paused (h x hx) hne

/-- The hooks of a mode change end the visit of the current mode and begin another one. -/
theorem hooks_switched (h : s.HooksInTurn) (id : String) :
    ∃ visits : List (Nat × String),
      s.hooks ++ s.switchHooks id = visits.flatMap visitHooks ++ [.enter s.retired.length id] := by
  obtain ⟨visits, hv⟩ := h
  unfold Studio.switchHooks
  rw [hv]
  cases s.manager.current with
  | none => exact ⟨visits, by simp⟩
  | some current => exact ⟨visits ++ [(s.retired.length, current)], by simp [visitHooks]⟩

/-- **A change of the state** keeps the modes told in turn. -/
theorem move_attended (h : Move desk may s s') (ha : Attended s) : Attended s' := by
  have hn : (s'.manager.modes.map Mode.id).Nodup := nodup_of_setup (move_setup h) ha.nodup
  cases h with
  | latch m _ current _ modes =>
      refine ⟨hn, ?_, ?_, ha.retired⟩
      · show ∃ visits : List (Nat × String), s.hooks = _ ++ m.current.toList.map _
        rw [current]
        exact ha.hooks
      · show ∀ mode ∈ m.modes, mode.OpenIff (m.current = some mode.id)
        rw [current, modes]
        exact ha.lines
  | enter id _ _ =>
      exact ⟨hn, hooks_switched ha.hooks id, enteredOf_lines id (leftCurrent_paused ha.lines), ha.retired⟩
  | pass id mode inp _ _ _ _ =>
      refine ⟨hn, ha.hooks, fun y hy => ?_, ha.retired⟩
      -- the switches of a mode latch, and its line stays as it is
      obtain ⟨x, hx, rfl⟩ := List.mem_map.mp hy
      have hline := ha.lines x hx
      split
      · exact hline
      · exact hline
  | _ => exact ⟨hn, ha.hooks, ha.lines, ha.retired⟩

theorem moves_attended (h : Moves desk may s s') (ha : Attended s) : Attended s' := by
  induction h with
  | refl => exact ha
  | tail _ hm ih => exact move_attended hm ih

/-! ## What every call keeps -/

/-- What the manager of modes is asked to do. -/
inductive ManagerCall where
  /-- Modes and shifts are installed in place of those there were. -/
  | setModes (modes : List Mode) (shifts : List Shift)
  /-- The modes are handed an input. -/
  | handle (inp : Input)
  /-- A mode is entered. -/
  | switchTo (id : String) (inp : Option Input)

/-- What the manager does on a call. -/
def ManagerCall.act (desk : Desk) : ManagerCall → Step Unit
  | setModes modes shifts => PadScribe.setModes modes shifts
  | handle inp => PadScribe.handle desk inp
  | switchTo id inp => PadScribe.switchTo id inp

/-- Modes that can be installed have not been entered yet; whatever cannot be installed may be asked for too. -/
def ManagerCall.Fresh : ManagerCall → Prop
  | setModes modes _ => duplicateId? [] modes = none → ∀ mode ∈ modes, mode.Paused
  | _ => True

theorem switchTo_attended (id : String) (inp : Option Input) (ha : Attended s) :
    Attended (after (switchTo id inp) s) := by
  have hmoves : Moves .quiet (fun _ => True) s (after (switchTo id inp) s) := switchTo_moves trivial inp s
  exact moves_attended hmoves ha

theorem handle_attended (inp : Input) (ha : Attended s) : Attended (after (handle desk inp) s) := by
  have hnoted : Attended (handed inp s) := ⟨ha.nodup, ha.hooks, ha.lines, ha.retired⟩
  have hmoves : Moves desk (fun _ => True) (handed inp s) (after (handle desk inp) s) :=
    handle_moves (fun _ => trivial) trivial ha.nodup
  exact moves_attended hmoves hnoted

/-- Modes that are refused change nothing. -/
theorem setModes_refused {modes : List Mode} (shifts : List Shift)
    (h : modes = [] ∨ ∃ id, duplicateId? [] modes = some id) : ∃ e, setModes modes shifts s = .error (.mode e) s := by
  cases modes with
  | nil => exact ⟨.noneConfigured, rfl⟩
  | cons first rest =>
      obtain ⟨id, hid⟩ := h.resolve_left (by simp)
      refine ⟨.duplicate id, ?_⟩
      unfold setModes
      simp only [hid, throw_apply]

/-- Modes that are installed are told in turn, after those that they replace. -/
theorem installed_attended {first : Mode} {rest : List Mode} (shifts : List Shift)
    (hn : ((first :: rest).map Mode.id).Nodup) (hp : ∀ mode ∈ first :: rest, mode.Paused) (ha : Attended s) :
    Attended (s.installed (first :: rest) shifts first) := by
  have hsetup := setup_enteredOf (Manager.fresh (first :: rest) shifts first) first.id
  refine ⟨nodup_of_setup hsetup hn, ?_, enteredOf_lines first.id hp, ?_⟩
  · -- the visit of the mode that was current is over
    obtain ⟨visits, hv⟩ := ha.hooks
    have hera : (s.retired ++ [s.manager.leftCurrent.modes]).length = s.retired.length + 1 := by simp
    show ∃ visits : List (Nat × String),
      s.hooks ++ s.manager.current.toList.map (.exit s.retired.length) ++ [.enter (s.retired.length + 1) first.id]
        = visits.flatMap visitHooks ++ [.enter (s.retired ++ [s.manager.leftCurrent.modes]).length first.id]
    rw [hera, hv]
    cases s.manager.current with
    | none => exact ⟨visits, by simp⟩
    | some current => exact ⟨visits ++ [(s.retired.length, current)], by simp [visitHooks]⟩
  · intro modes hmodes
    rcases List.mem_append.mp hmodes with hmodes | hmodes
    · exact ha.retired modes hmodes
    · rw [List.mem_singleton.mp hmodes]
      exact leftCurrent_paused ha.lines

theorem setModes_attended {modes : List Mode} (shifts : List Shift)
    (hf : duplicateId? [] modes = none → ∀ mode ∈ modes, mode.Paused) (ha : Attended s) :
    Attended (after (setModes modes shifts) s) := by
  cases modes with
  | nil =>
      obtain ⟨e, he⟩ : ∃ e, setModes [] shifts s = .error (.mode e) s := setModes_refused shifts (.inl rfl)
      rwa [after_error he]
  | cons first rest =>
      cases hd : duplicateId? [] (first :: rest) with
      | some id =>
          obtain ⟨e, he⟩ : ∃ e, setModes (first :: rest) shifts s = .error (.mode e) s :=
            setModes_refused shifts (.inr ⟨id, hd⟩)
          rwa [after_error he]
      | none =>
          have hn := (duplicateId_eq_none_iff.mp hd).2
          rw [after_ok (setModes_first hn)]
          exact installed_attended shifts hn (hf hd) ha

/-- **Every call** keeps the modes told in turn. -/
theorem call_attended {c : ManagerCall} (hf : c.Fresh) (ha : Attended s) : Attended (after (c.act desk) s) := by
  cases c with
  | setModes modes shifts => exact setModes_attended shifts hf ha
  | handle inp => exact handle_attended inp ha
  | switchTo id inp => exact switchTo_attended id inp ha

/-- **Modes that have just been compiled** are paused. -/
theorem compileRules_paused {cfg : Config} {recognizers : Bool} {made : Nat} {modes : List Mode}
    {shifts : List Shift} (h : (compileRules cfg recognizers made).2 = .ok (modes, shifts)) :
    ∀ mode ∈ modes, mode.Paused := by
  intro mode hmode line hline
  have hblocks : compileRules cfg recognizers made = (_, .ok (modes, shifts)) := Prod.ext rfl h
  obtain ⟨_, block, _, es, hof⟩ := modesOf_mem (compileRules_modesOf hblocks) hmode
  obtain ⟨d, hd, _, hkind⟩ := hof.declared
  rcases hkind with hkind | ⟨number, hkind⟩
  · exact (readDeclaration_line hd (hkind.symm.trans hline)).2
  · -- the number of a recognizer does not open the line
    rw [hkind] at hline
    cases hk : d.kind with
    | speech line' =>
        rw [hk] at hline
        obtain rfl := ModeKind.speech.inj hline
        exact (readDeclaration_line hd hk).2
    | _ =>
        rw [hk] at hline
        exact absurd hline (by simp [Declaration.withRecognizer])

/-! ## Every run -/

/-- **The hooks of modes in every run.** Whatever the manager of modes is asked to do, in whatever order, modes are
entered and left in turn, and the current mode is the one that was entered last and has not been left. So of the
modes that are installed only the line of the current one is open, every mode that was replaced is paused, and
audio that is fed to any mode but the current one does nothing, whatever the state of its recognizer. -/
theorem hooks_in_turn (desk : Desk) (calls : List ManagerCall) (hf : ∀ c ∈ calls, c.Fresh) {start s : Studio}
    (hmanager : start.manager = {}) (hretired : start.retired = []) (hhooks : start.hooks = [])
    (hs : afterAll (ManagerCall.act desk) calls start = s) :
    s.HooksInTurn ∧
    (∀ mode ∈ s.manager.modes, mode.OpenIff (s.manager.current = some mode.id)) ∧
    (∀ modes ∈ s.retired, ∀ mode ∈ modes, mode.Paused) ∧
    ∀ mode, (mode ∈ s.manager.modes ∧ s.manager.current ≠ some mode.id ∨ ∃ modes ∈ s.retired, mode ∈ modes) →
      ∀ line, mode.kind = .speech line → ∀ alone audio u, line.feed alone mode.id audio u = .ok () u := by
  have hstart : Attended start := by
    refine ⟨by simp [hmanager], ⟨[], by simp [hmanager, hhooks]⟩, by simp [hmanager], by simp [hretired]⟩
  have ha : Attended s := by
    rw [← hs]
    exact afterAll_keep_of_mem (fun c hc s => call_attended (hf c hc)) hstart
  refine ⟨ha.hooks, ha.lines, ha.retired, ?_⟩
  rintro mode (⟨hmem, hcurrent⟩ | ⟨modes, hmodes, hmem⟩) line hline alone audio u
  · exact Mode.feed_paused (Mode.paused_of_openIff (ha.lines mode hmem) hcurrent) hline alone audio u
  · exact Mode.feed_paused (ha.retired modes hmodes mode hmem) hline alone audio u

/-- Two modes with lines, the first of which leads to the second. -/
def twoLines : Config :=
  { modes := [{ declaration := .str "[speech] -id a", rules := [.str "[trigger] button -id X -> [mode] -id b"] },
      { declaration := .str "[speech] -id b" }] }

/-- Modes are installed, the second is entered, two requests are refused, and the modes are installed again. -/
def installedTwice (modes : List Mode) (shifts : List Shift) : List ManagerCall :=
  [.setModes modes shifts,
    .handle { kind := .button, button := some ⟨ButtonState.ofButtons [.x], {}, ButtonState.ofButtons [.x]⟩ },
    .setModes [] [], .switchTo "c" none, .setModes modes shifts]

theorem hooks_in_turn_twoLines : ∃ modes shifts s,
    (compileRules twoLines true 0).2 = .ok (modes, shifts) ∧
    afterAll (ManagerCall.act .quiet) (installedTwice modes shifts) {} = s ∧
    s.hooks = [.enter 1 "a", .exit 1 "a", .enter 1 "b", .exit 1 "b", .enter 2 "a"] ∧
    s.manager.current = some "a" ∧
    (∀ mode ∈ s.manager.modes, mode.OpenIff (s.manager.current = some mode.id)) ∧
    ∀ modes ∈ s.retired, ∀ mode ∈ modes, mode.Paused := by
  have h : (compileRules twoLines true 0).2.toOption.any (fun out =>
      (afterAll (ManagerCall.act .quiet) (installedTwice out.1 out.2) {}).hooks
          == [.enter 1 "a", .exit 1 "a", .enter 1 "b", .exit 1 "b", .enter 2 "a"] &&
        (afterAll (ManagerCall.act .quiet) (installedTwice out.1 out.2) {}).manager.current == some "a") = true := by
    decide +kernel
  cases hc : (compileRules twoLines true 0).2 with
  | error fault =>
      rw [hc] at h
      exact absurd h (by simp [Except.toOption])
  | ok out =>
      obtain ⟨modes, shifts⟩ := out
      rw [hc] at h
      obtain ⟨hhooks, hcurrent⟩ : _ ∧ _ := by simpa [Except.toOption] using h
      have hf : ∀ c ∈ installedTwice modes shifts, c.Fresh := by
        intro c hmem
        simp only [installedTwice, List.mem_cons, List.not_mem_nil, or_false] at hmem
        rcases hmem with rfl | rfl | rfl | rfl | rfl
        · exact fun _ => compileRules_paused hc
        · trivial
        · exact fun _ mode hm => absurd hm (by simp)
        · trivial
        · exact fun _ => compileRules_paused hc
      obtain ⟨-, hlines, hretired, -⟩ :=
        @hooks_in_turn .quiet (installedTwice modes shifts) hf {} _ rfl rfl rfl rfl
      exact ⟨modes, shifts, _, rfl, rfl, hhooks, hcurrent, hlines, hretired⟩

end PadScribe
