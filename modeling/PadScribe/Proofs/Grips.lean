import PadScribe.Studio.Session

/-!
# `Proofs.Grips` — what the pointer is told about its buttons

The pointer is told to press or to release one of its buttons, or to release all of them. What it was told last
about a button decides whether the button is held. Presses and releases of rules wait in the queue of short work
before they reach the pointer; the gate tells it to release all buttons at once. So there are two rows of
grips: those that reached the pointer, read off the record, and those that wait.

## Contents

* `Grip`, `lastTold`, `Held` — rows of grips, and what they leave held
* `Task.grip?`, `Effect.grip?`, `Effect.entered?` — grips and entered modes in tasks and in the record
* `Studio.grips`, `Studio.waitingGrips`, `Studio.allGrips`, `Studio.entrances` — the rows of a studio
* `Desk.AnswersPlainly`, `Desk.Shows` — desks whose record shows the grips
-/

namespace PadScribe

/-! ## Rows of grips -/

/-- What the pointer is told about its buttons. -/
inductive Grip where
  | toggle (button : Option PointerButton) (down : Bool)
  | releaseAll
  deriving DecidableEq, Repr

/-- What a grip says about a button: whether it is to be held. -/
def Grip.about (b : Option PointerButton) : Grip → Option Bool
  | toggle c down => if c = b then some down else none
  | releaseAll => some false

/-- What was said last about a button in a row of grips. -/
def lastTold (b : Option PointerButton) (gs : List Grip) : Option Bool :=
  (gs.filterMap (Grip.about b)).getLast?

/-- A button is held after a row of grips: the last of them that is about the button is a press. -/
def Held (b : Option PointerButton) (gs : List Grip) : Prop :=
  lastTold b gs = some true

instance (b : Option PointerButton) (gs : List Grip) : Decidable (Held b gs) :=
  inferInstanceAs (Decidable (lastTold b gs = some true))

@[simp] theorem lastTold_nil (b : Option PointerButton) : lastTold b [] = none := rfl

/-- **The later row decides** wherever it says anything about the button. -/
theorem lastTold_append (b : Option PointerButton) (gs gs' : List Grip) :
    lastTold b (gs ++ gs') = (lastTold b gs').or (lastTold b gs) := by
  unfold lastTold
  rw [List.filterMap_append, List.getLast?_append]

theorem lastTold_singleton (b : Option PointerButton) (g : Grip) : lastTold b [g] = g.about b := by
  unfold lastTold
  cases h : g.about b <;> simp [h]

/-- A row after all buttons were released starts anew. -/
theorem held_append_releaseAll (b : Option PointerButton) (gs gs' : List Grip) :
    Held b (gs ++ [.releaseAll] ++ gs') ↔ Held b gs' := by
  unfold Held
  rw [lastTold_append, lastTold_append, lastTold_singleton]
  cases lastTold b gs' <;> simp [Grip.about]

/-! ## Grips and entered modes in tasks and in the record -/

/-- What a request tells the pointer about its buttons. -/
def PointerRequest.grip? : PointerRequest → Option Grip
  | toggle button down => some (.toggle button down)
  | releaseAll => some .releaseAll
  | _ => none

/-- What a piece of work tells the pointer about its buttons. -/
def Task.grip? : Task → Option Grip
  | toggle button down => some (.toggle button down)
  | _ => none

/-- The grip that the record shows. -/
def Effect.grip? : Effect → Option Grip
  | toggle button down => some (.toggle button down)
  | releaseAll => some .releaseAll
  | _ => none

/-- The mode that the record shows to have been entered. -/
def Effect.entered? : Effect → Option String
  | switched _ next => some next
  | _ => none

namespace Studio

/-- The grips that reached the pointer. -/
def grips (s : Studio) : List Grip :=
  s.record.filterMap Effect.grip?

/-- The grips that wait in the queue of short work. -/
def waitingGrips (s : Studio) : List Grip :=
  s.pool.filterMap Task.grip?

/-- The grips that reached the pointer and then those that will. -/
def allGrips (s : Studio) : List Grip :=
  s.grips ++ s.waitingGrips

/-- The modes that were entered so far. -/
def entrances (s : Studio) : List String :=
  s.record.filterMap Effect.entered?

/-- Once no work waits, all grips have reached the pointer. -/
theorem allGrips_eq_grips {s : Studio} (h : s.pool = []) : s.allGrips = s.grips := by
  unfold allGrips waitingGrips
  rw [h, List.filterMap_nil, List.append_nil]

end Studio

/-! ## Desks -/

/-- What a desk answers a request with that is not about the buttons of the pointer. -/
def Desk.AnswersPlainly (desk : Desk) (r : Response) : Prop :=
  (∃ q : PointerRequest, q.grip? = none ∧ r = desk.pointer q) ∨
    (∃ q, r = desk.keyboard q) ∨ (∃ q, r = desk.notifier q)

/-- **A desk whose record shows the grips**: each of them as itself, and nothing else as one. No answer claims
that a mode was entered. -/
structure Desk.Shows (desk : Desk) : Prop where
  grip : ∀ q g, PointerRequest.grip? q = some g →
    (desk.pointer q).effects.filterMap Effect.grip? = [g] ∧
      (desk.pointer q).effects.filterMap Effect.entered? = []
  plain : ∀ r, desk.AnswersPlainly r →
    r.effects.filterMap Effect.grip? = [] ∧ r.effects.filterMap Effect.entered? = []

/-- At a plain desk every request reaches the outside as itself. -/
theorem plain_shows (shell : List String → ShellResult) : (Desk.plain shell).Shows where
  grip := by
    intro q g h
    cases q with
    | toggle button down =>
        obtain rfl := Option.some.inj h
        exact ⟨rfl, rfl⟩
    | releaseAll =>
        obtain rfl := Option.some.inj h
        exact ⟨rfl, rfl⟩
    | _ => exact absurd h (by simp [PointerRequest.grip?])
  plain := by
    rintro r (⟨q, hq, rfl⟩ | ⟨q, rfl⟩ | ⟨q, rfl⟩)
    · cases q with
      | move dx dy => exact ⟨rfl, rfl⟩
      | click button double => exact ⟨rfl, rfl⟩
      | _ => exact absurd hq (by simp [PointerRequest.grip?])
    · cases q <;> exact ⟨rfl, rfl⟩
    · cases q <;> exact ⟨rfl, rfl⟩

end PadScribe
