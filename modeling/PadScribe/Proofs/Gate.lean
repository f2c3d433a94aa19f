import PadScribe.Device.Desktop
import PadScribe.Proofs.Events

/-!
# `Proofs.Gate` — what reaches the modes while the program is off

The gate drops the inputs of controllers and of spoken lines while the program is off. Work that was put off
does not pass the gate: a trigger that speaks, a replay and a result of a recognizer wait in the queue of short
work and are handed to the modes when their turn comes, whatever the switch of the user says then. So what the
modes are handed while the program is off is exactly what the heads of that queue hand on.

## Contents

* `Desk.Outward` — desks whose answers reach the outside only
* `Studio.deliveries` — the inputs that the modes were handed
* `deliveries_while_off` — the inputs of an event while the program is off
-/

namespace PadScribe

/-- A desk whose answers never claim that the modes were handed an input. -/
def Desk.Outward (desk : Desk) : Prop :=
  ∀ r, desk.Answers r → ∀ e ∈ r.effects, e.input? = none

/-- The inputs that the modes were handed so far. -/
def Studio.deliveries (s : Studio) : List Input :=
  s.record.filterMap Effect.input?

variable {desk : Desk} {said : String → Prop} {s s' : Studio}

/-! ## The desks -/

theorem plain_outward (shell : List String → ShellResult) : (Desk.plain shell).Outward := by
  rintro r (⟨q, rfl⟩ | ⟨q, rfl⟩ | ⟨q, rfl⟩) e he
  -- each request has one answer, the effect of its own name
  · cases q <;> rw [List.mem_singleton.mp he] <;> rfl
  · cases q <;> rw [List.mem_singleton.mp he] <;> rfl
  · cases q <;> rw [List.mem_singleton.mp he] <;> rfl

/-- Device events hand on no input. -/
theorem ofEvents_quiet (events : List DeviceEvent) : ∀ e ∈ events.map Effect.device, e.input? = none := by
  intro e he
  obtain ⟨_, _, rfl⟩ := List.mem_map.mp he
  rfl

theorem toggle_quiet (name : String) (down : Bool) :
    ∀ e ∈ (Pointer.toggle name down).effects, e.input? = none := by
  unfold Pointer.toggle
  split
  · exact ofEvents_quiet _
  · simp

theorem click_quiet (name : String) (double : Bool) :
    ∀ e ∈ (Pointer.click name double).effects, e.input? = none := by
  unfold Pointer.click
  simp only []
  split
  · exact ofEvents_quiet _
  · exact ofEvents_quiet _
  · simp

theorem movement_quiet (dx dy : Number) : ∀ e ∈ (Pointer.move dx dy).effects, e.input? = none := by
  unfold Pointer.move
  split
  · simp
  · split
    · exact ofEvents_quiet _
    · exact ofEvents_quiet _

theorem pointer_quiet (q : PointerRequest) : ∀ e ∈ (Pointer.respond q).effects, e.input? = none := by
  cases q with
  | move dx dy => exact movement_quiet _ _
  | click button double =>
      cases button with
      | none => exact fun e he => absurd he (by simp [Pointer.respond, Pointer.onButton])
      | some b => exact click_quiet b.name double
  | toggle button down =>
      cases button with
      | none => exact fun e he => absurd he (by simp [Pointer.respond, Pointer.onButton])
      | some b => exact toggle_quiet b.name down
  | releaseAll => exact ofEvents_quiet _

theorem keyboard_quiet (failure : Option String) (q : KeyRequest) :
    ∀ e ∈ (Keyboard.respond failure q).effects, e.input? = none := by
  cases q with
  | typeText text =>
      intro e he
      rw [List.mem_singleton.mp he]
      rfl
  | tap names =>
      intro e he
      simp only [Keyboard.respond, Keyboard.tap] at he
      split at he
      · exact absurd he (by simp)
      · split at he
        · obtain ⟨_, _, rfl⟩ := List.mem_map.mp he
          rfl
        · exact absurd he (by simp)

theorem popup_quiet (p : Popup) (q : Notice) : ∀ e ∈ (p.respond q).effects, e.input? = none := by
  have hnotify : ∀ title text icon, ∀ e ∈ (p.notify title text icon).effects, e.input? = none := by
    intro title text icon e he
    simp only [Popup.notify] at he
    split at he
    · rw [List.mem_singleton.mp he]
      rfl
    · exact absurd he (by simp)
  cases q with
  | notify title text icon => exact hnotify title text icon
  | alert title text => exact hnotify _ _ _

theorem desktop_outward (hasPointer : Bool) (shell : List String → ShellResult) :
    (Desk.desktop hasPointer shell).Outward := by
  rintro r (⟨q, rfl⟩ | ⟨q, rfl⟩ | ⟨q, rfl⟩)
  · cases hasPointer with
    | false => exact fun e he => absurd he (by simp [Desk.desktop, Pointer.ignore])
    | true => exact pointer_quiet q
  · exact keyboard_quiet none q
  · exact popup_quiet {} q

/-! ## Deliveries -/

theorem deliveries_append {s : Studio} (es : List Effect) (h : ∀ e ∈ es, e.input? = none) :
    (s.record ++ es).filterMap Effect.input? = s.deliveries := by
  have hes : es.filterMap Effect.input? = [] := List.filterMap_eq_nil_iff.mpr h
  rw [List.filterMap_append, hes, List.append_nil]
  rfl

/-- A move hands on nothing. -/
theorem move_deliveries {may : Mark → Prop} (hd : desk.Outward) (h : Move desk may s s') :
    s'.deliveries = s.deliveries := by
  cases h with
  | enter id _ _ => exact deliveries_append [.switched _ id] (by simp [Effect.input?])
  | understand v text _ _ es plain _ _ => exact deliveries_append es fun e he => (plain e he).1
  | note e plain => exact deliveries_append [e] (by simpa using plain.1)
  | answer r answers => exact deliveries_append r.effects (hd r (answers_of_plainly answers))
  | grip q g _ _ => exact deliveries_append (desk.pointer q).effects (hd _ (.inl ⟨q, rfl⟩))
  | _ => rfl

/-- **A walk hands on the inputs that it lists.** -/
theorem walk_deliveries (hd : desk.Outward) {is : List Input} (h : Walk desk said s is s') :
    s'.deliveries = s.deliveries ++ is := by
  induction h with
  | refl => simp
  | move _ hm ih => rw [move_deliveries hd hm, ih]
  | hand _ inp ih =>
      simp only [Studio.deliveries, handed, List.filterMap_append] at ih ⊢
      rw [ih]
      simp [Effect.input?]

theorem reload_deliveries (cfg : Config) (s : Studio) : (after (reload cfg) s).deliveries = s.deliveries := by
  rcases reload_cases cfg s with ⟨made, fault, h⟩ | ⟨made, modes, shifts, first, _, _, h⟩
  · rw [after_error h]
    rfl
  · rw [after_ok h]
    exact deliveries_append [.switched none first.id] (by simp [Effect.input?])

/-- **What reaches the modes while the program is off.** In every run of the program, an event that comes
while the program is off hands the modes exactly the input of the piece of short work that it runs, if it runs
one that has an input; and there is a current mode to look at it. -/
theorem deliveries_while_off (hd : desk.Outward) {cfg : Config} {start s : Studio}
    (hb : Studio.build cfg start = .ok s) (es : List Event) (e : Event)
    (hoff : (run desk es s).control.enabled = false) :
    (run desk (es ++ [e]) s).deliveries
        = (run desk es s).deliveries ++ (e.handsOn (run desk es s)).toList ∧
      (run desk es s).manager.currentMode?.isSome := by
  have hw : Wired (run desk es s) := run_wired es (build_wired hb)
  refine ⟨?_, hw.current⟩
  rw [run_append]
  by_cases he : ∃ cfg, e = .reload cfg
  · -- a reload installs modes and hands on nothing
    obtain ⟨cfg, rfl⟩ := he
    exact (reload_deliveries cfg _).trans (List.append_nil _).symm
  · obtain ⟨is, hwalk, hs⟩ : ∃ is, Walk desk (fun _ => True) (run desk es s) is _ ∧ _ :=
      act_walk (fun cfg h => he ⟨cfg, h⟩) hw fun _ _ _ _ _ => trivial
    rw [walk_deliveries hd hwalk, hs hoff]

/-- A button that says hello, and a mode that hears it. -/
def greeter : Config :=
  { modes := [{
      declaration := .str "[idle] -id a"
      rules := [.str "[trigger] button -id Y -> [speak] -text hello", .str "[trigger] speech -> [speech]"] }] }

/-- The button of the greeter goes down. -/
def greet : Event :=
  .report none (.button (ButtonState.ofButtons [.y]) {} (ButtonState.ofButtons [.y]))

/-- The greeting waits in the queue while the program is switched off, and is heard after that. -/
theorem greeter_hears : ∃ s, Studio.build greeter {} = .ok s ∧
    (run .quiet [greet, .enable false] s).control.enabled = false ∧
    (run .quiet [greet, .enable false, .work .pool] s).deliveries.length
      = (run .quiet [greet, .enable false] s).deliveries.length + 1 := by
  have h : (Studio.build greeter {}).toOption.any (fun s =>
      decide ((run .quiet [greet, .enable false] s).control.enabled = false ∧
        (run .quiet [greet, .enable false, .work .pool] s).deliveries.length
          = (run .quiet [greet, .enable false] s).deliveries.length + 1)) = true := by decide +kernel
  obtain ⟨s, hs, ht⟩ := exists_built h
  exact ⟨s, hs, of_decide_eq_true ht⟩

theorem deliveries_while_off_greeter : ∃ s, Studio.build greeter {} = .ok s ∧
    Desk.quiet.Outward ∧ (run .quiet [greet, .enable false] s).control.enabled = false ∧
    (run .quiet ([greet, .enable false] ++ [.work .pool]) s).deliveries
        = (run .quiet [greet, .enable false] s).deliveries
          ++ ((Event.work .pool).handsOn (run .quiet [greet, .enable false] s)).toList ∧
      (run .quiet [greet, .enable false] s).manager.currentMode?.isSome := by
  obtain ⟨s, hb, hoff, _⟩ := greeter_hears
  exact ⟨s, hb, plain_outward _, hoff, deliveries_while_off (plain_outward _) hb _ (.work .pool) hoff⟩

/-- **The gate is not the only way in**: it is not so that the modes are handed nothing while the program is
off. -/
theorem not_silent_while_off : ¬ ∀ (desk : Desk) (cfg : Config) (start s : Studio), desk.Outward →
    Studio.build cfg start = .ok s → ∀ (es : List Event) (e : Event),
      (run desk es s).control.enabled = false →
        (run desk (es ++ [e]) s).deliveries = (run desk es s).deliveries := by
  intro h
  obtain ⟨s, hb, hoff, hlen⟩ := greeter_hears
  have heq := h .quiet greeter {} s (plain_outward _) hb [greet, .enable false] (.work .pool) hoff
  simp only [List.cons_append, List.nil_append] at heq
  rw [heq] at hlen
  omega

end PadScribe
