import PadScribe.Studio.Session

/-!
# `Proofs.Setup` — what stays the same until modes are installed again

Inputs latch switches, pause and open speech lines and change the current mode. Everything else that the
installed modes say stays as it is: their ids, conditions, modifiers, triggers, and the targets of the shifts.
`Manager.setup` is that part, as a manager in which every switch is off, every line is paused and no mode has
been entered. Two managers with one setup find the same modes under the same ids and run the same actions.

## Contents

* `Mode.rest`, `Shift.rest`, `Manager.setup` — the part that stays
* `Manager.actions`, `Manager.offs` — the actions of all triggers and the conditions that end shifts
* `rest_passAll`, `setup_update`, `setup_setShift`, `setup_leftCurrent` — what keeps it
* `find_setup`, `actions_setup` — what it determines
-/

namespace PadScribe

/-- A mode with every switch off and its speech line paused. -/
def Mode.rest (m : Mode) : Mode :=
  m.entered.left

/-- A shift that is off. -/
def Shift.rest (k : Shift) : Shift :=
  { k with switch := k.switch.reset }

/-- The part of a manager that stays the same until modes are installed again. -/
def Manager.setup (m : Manager) : Manager :=
  { modes := m.modes.map Mode.rest, shifts := m.shifts.map Shift.rest, home := m.home }

/-- The actions of every trigger of every mode. -/
def Manager.actions (m : Manager) : List Action :=
  m.modes.flatMap fun mode => mode.triggers.map Trigger.action

/-- The conditions that turn the shifts off. -/
def Manager.offs (m : Manager) : List Condition :=
  m.shifts.map (·.switch.off)

/-! ## Modes and shifts at rest -/

@[simp] theorem rest_id (m : Mode) : m.rest.id = m.id := rfl

@[simp] theorem rest_triggers (m : Mode) : m.rest.triggers = m.triggers := rfl

theorem setPaused_setPaused (p q : Bool) (kind : ModeKind) :
    Mode.setPaused p (Mode.setPaused q kind) = Mode.setPaused p kind := by
  cases kind <;> rfl

@[simp] theorem rest_entered (m : Mode) : m.entered.rest = m.rest := by
  show Mode.mk _ _ _ _ = Mode.mk _ _ _ _
  simp [Mode.entered, setPaused_setPaused, Switch.reset]

@[simp] theorem rest_left (m : Mode) : m.left.rest = m.rest := by
  show Mode.mk _ _ _ _ = Mode.mk _ _ _ _
  simp [Mode.entered, Mode.left, setPaused_setPaused]

/-- A switch keeps its conditions on every input. -/
theorem reset_step (s : Switch) (inp : Input) : (s.step inp).reset = s.reset := by
  unfold Switch.step
  cases s.change inp <;> rfl

/-- **Passing the switches only latches them.** -/
theorem rest_passAll (switches : List ModeSwitch) (inp : Input) :
    (ModeSwitch.passAll switches inp).1.map (fun s => { s with switch := s.switch.reset })
      = switches.map fun s => { s with switch := s.switch.reset } := by
  induction switches generalizing inp with
  | nil => rfl
  | cons s rest ih =>
      simp only [ModeSwitch.passAll]
      cases ModeSwitch.modify { s with switch := s.switch.step inp } inp with
      | error e =>
          -- the switches after a modifier that fails have not seen the input
          simp [reset_step]
      | ok changed => simp [reset_step, ih changed]

theorem rest_switches {m : Mode} {switches : List ModeSwitch} (inp : Input)
    (h : switches = (ModeSwitch.passAll m.switches inp).1) : ({ m with switches } : Mode).rest = m.rest := by
  subst h
  show Mode.mk _ _ _ _ = Mode.mk _ _ _ _
  simp only [Mode.entered, rest_passAll]

/-! ## What keeps a setup -/

theorem setup_modes_update (m : Manager) {id : String} {f : Mode → Mode}
    (hf : ∀ x ∈ m.modes, x.id = id → (f x).rest = x.rest) :
    (m.update id f).modes.map Mode.rest = m.modes.map Mode.rest := by
  simp only [Manager.update, List.map_map]
  apply List.map_congr_left
  intro x hx
  by_cases hid : x.id = id
  · simp [hid, hf x hx hid]
  · simp [hid]

/-- Changing a mode that is the same at rest. -/
theorem setup_update (m : Manager) {id : String} {f : Mode → Mode}
    (hf : ∀ x ∈ m.modes, x.id = id → (f x).rest = x.rest) : (m.update id f).setup = m.setup := by
  simp only [Manager.setup, setup_modes_update m hf]
  rfl

theorem setup_leftCurrent (m : Manager) : m.leftCurrent.setup = m.setup := by
  unfold Manager.leftCurrent
  cases m.current with
  | none => rfl
  | some id => exact setup_update m (fun x _ _ => rest_left x)

theorem setup_setShift (m : Manager) (i : Nat) (isOn : Bool) : (m.setShift i isOn).setup = m.setup := by
  have hk : ∀ ks : List Shift, ∀ i,
      (ks.modify i fun k => { k with switch := { k.switch with isOn } }).map Shift.rest = ks.map Shift.rest := by
    intro ks
    -- the index moves along with the shifts
    induction ks with
    | nil => intro i; simp
    | cons k rest ih =>
        intro i
        cases i with
        | zero => simp [Shift.rest, Switch.reset]
        | succ i => simp [ih i]
  simp only [Manager.setup, Manager.setShift, hk]

/-! ## What a setup determines -/

theorem find_setup (m : Manager) (id : String) : m.setup.find? id = (m.find? id).map Mode.rest := by
  simp only [Manager.find?, Manager.setup, List.find?_map]
  rfl

theorem actions_setup (m : Manager) : m.setup.actions = m.actions := by
  simp only [Manager.actions, Manager.setup, List.flatMap_map, rest_triggers]

/-- Managers with one setup run the same actions. -/
theorem actions_eq_of_setup {m m' : Manager} (h : m'.setup = m.setup) : m'.actions = m.actions := by
  rw [← actions_setup, h, actions_setup]

/-- Managers with one setup have shifts that end on the same conditions. -/
theorem offs_eq_of_setup {m m' : Manager} (h : m'.setup = m.setup) : m'.offs = m.offs := by
  have hsetup : ∀ m : Manager, m.setup.offs = m.offs := by
    intro m
    simp only [Manager.offs, Manager.setup, List.map_map]
    rfl
  rw [← hsetup, h, hsetup]

/-- Managers with one setup have modes under the same ids. -/
theorem find_isSome_of_setup {m m' : Manager} (h : m'.setup = m.setup) (id : String) :
    (m'.find? id).isSome = (m.find? id).isSome := by
  have hf := congrArg Option.isSome (congrArg (·.find? id) h)
  simpa [find_setup] using hf

theorem find_id {m : Manager} {id : String} {mode : Mode} (h : m.find? id = some mode) : mode.id = id := by
  have hp := List.find?_some h
  simpa using hp

theorem find_mem {m : Manager} {id : String} {mode : Mode} (h : m.find? id = some mode) : mode ∈ m.modes :=
  List.mem_of_find?_eq_some h

/-- The actions of a mode that is found are among the manager's. -/
theorem find_actions {m : Manager} {id : String} {mode : Mode} (h : m.find? id = some mode) {t : Trigger}
    (ht : t ∈ mode.triggers) : t.action ∈ m.actions :=
  List.mem_flatMap.mpr ⟨mode, find_mem h, List.mem_map.mpr ⟨t, ht, rfl⟩⟩

end PadScribe
