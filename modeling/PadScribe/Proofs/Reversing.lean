import PadScribe.Proofs.Edges

/-!
# `Proofs.Reversing` — a stick that moves back

A stick report tells of the first zone that its two positions disagree about, of the four edges and the neutral
zone. Which zone that is does not depend on which of the positions comes first. That decides only whether the
zone is entered or left. So a stick that moves back between the same two positions, however many zones lie in
between, is reported by the reverse event, and where nothing is reported one way nothing is reported the other.

## Contents

* `Direction.crossing_swap`, `Direction.firstCrossing_swap`, `Direction.between_swap` — the motion back
* `Position.SameZones`, `Direction.between_plain_iff` — no event
* `Direction.events`, `Direction.events_swap`, `Direction.events_eq_nil_iff` — the events of a report
* **`stick_report_reverses`** — a report and the report of the motion back
-/

namespace PadScribe

/-! ## The motion back -/

namespace Direction

@[simp] theorem reverse_reverse (d : Direction) : d.reverse.reverse = d := by
  cases d <;> rfl

@[simp] theorem reverse_eq_plain_iff {d : Direction} : d.reverse = .plain ↔ d = .plain := by
  cases d <;> decide

/-- A zone that is entered one way is left the other way. -/
theorem crossing_swap (d : Direction) (was now : Bool) : d.crossing now was = (d.crossing was now).reverse := by
  cases was <;> cases now
  case true.false => exact (reverse_reverse d).symm
  all_goals rfl

/-- A zone other than the plain one is crossed unless the stick stays in it or out of it. -/
theorem crossing_plain_iff {d : Direction} (hd : d ≠ .plain) (was now : Bool) :
    d.crossing was now = .plain ↔ was = now := by
  cases was <;> cases now <;> simp [crossing, hd]

section
variable {α : Type} [LE α] [DecidableLE α] [Neg α]

/-- **The first crossing of the motion back** is of the same zone. -/
theorem firstCrossing_swap (edge : α) (current previous : Position α) (zones : List Direction) :
    firstCrossing edge previous current zones = (firstCrossing edge current previous zones).reverse := by
  induction zones with
  | nil => rfl
  | cons d rest ih =>
      unfold firstCrossing
      rw [crossing_swap d (previous.atEdge edge d) (current.atEdge edge d), ih]
      cases d.crossing (previous.atEdge edge d) (current.atEdge edge d) <;> rfl

/-- **The event of the motion back** is the reverse one. -/
theorem between_swap (t : Thresholds α) (current previous : Position α) :
    between t previous current = (between t current previous).reverse := by
  have hneutral : neutralCrossing t.neutral previous current =
      (neutralCrossing t.neutral current previous).reverse := crossing_swap _ _ _
  unfold between
  rw [firstCrossing_swap, hneutral]
  cases firstCrossing t.edge current previous edges <;> rfl

/-! ## No event -/

/-- There is no crossing among some edges exactly when the positions agree about each of them. -/
theorem firstCrossing_plain_iff (edge : α) (current previous : Position α) (zones : List Direction)
    (h : .plain ∉ zones) :
    firstCrossing edge current previous zones = .plain ↔
      ∀ d ∈ zones, previous.atEdge edge d = current.atEdge edge d := by
  induction zones with
  | nil => simp [firstCrossing]
  | cons d rest ih =>
      rw [List.mem_cons, not_or] at h
      obtain ⟨hd, hrest⟩ := h
      have hcrossing := crossing_plain_iff (Ne.symm hd) (previous.atEdge edge d) (current.atEdge edge d)
      unfold firstCrossing
      rw [List.forall_mem_cons, ← ih hrest, ← hcrossing]
      cases d.crossing (previous.atEdge edge d) (current.atEdge edge d) <;> simp

end

end Direction

section
variable {α : Type} [LE α] [DecidableLE α] [Neg α]

/-- Two positions lie in the same of the five zones. -/
structure Position.SameZones (t : Thresholds α) (p q : Position α) : Prop where
  edges : ∀ d ∈ Direction.edges, p.atEdge t.edge d = q.atEdge t.edge d
  neutral : p.atNeutral t.neutral = q.atNeutral t.neutral

/-- **There is no event exactly between positions in the same zones.** -/
theorem Direction.between_plain_iff (t : Thresholds α) (current previous : Position α) :
    between t current previous = .plain ↔ previous.SameZones t current := by
  have hedges := firstCrossing_plain_iff t.edge current previous edges (by decide)
  have hneutral : neutralCrossing t.neutral current previous = .plain ↔
      previous.atNeutral t.neutral = current.atNeutral t.neutral := crossing_plain_iff (by decide) _ _
  have hbetween : between t current previous = .plain ↔
      firstCrossing t.edge current previous edges = .plain ∧
        neutralCrossing t.neutral current previous = .plain := by
    unfold between
    cases firstCrossing t.edge current previous edges <;> simp
  rw [hbetween, hedges, hneutral]
  exact ⟨fun h => ⟨h.1, h.2⟩, fun h => ⟨h.edges, h.neutral⟩⟩

/-! ## The inputs of a report -/

/-- The events that a report tells of: one, or none. -/
def Direction.events (t : Thresholds α) (current previous : Position α) : List Direction :=
  let event := between t current previous
  if event = .plain then [] else [event]

theorem Direction.reported_eq (t : Thresholds α) (current previous : Position α) :
    reported t current previous = .plain :: events t current previous := by
  unfold reported events
  dsimp only
  split <;> rfl

theorem Direction.events_single (t : Thresholds α) (current previous : Position α) :
    (events t current previous).length ≤ 1 ∧ .plain ∉ events t current previous := by
  unfold events
  dsimp only
  split
  next => simp
  next hevent => simpa using Ne.symm hevent

/-- The motion back tells of the reverse events. -/
theorem Direction.events_swap (t : Thresholds α) (current previous : Position α) :
    events t previous current = (events t current previous).map reverse := by
  unfold events
  rw [between_swap]
  simp only [reverse_eq_plain_iff]
  split <;> rfl

theorem Direction.events_eq_nil_iff (t : Thresholds α) (current previous : Position α) :
    events t current previous = [] ↔ previous.SameZones t current := by
  rw [← between_plain_iff]
  unfold events
  simp

end

/-! ## Reports -/

/-- **A stick report and the report of the motion back.** Two positions are reported as one movement and at most one
event after it; there is none exactly when they agree about all five zones, and the event of the motion back is the
reverse one: none for none. So it is with the inputs that the program hands on for a report and for the report of
the motion back, whatever the thresholds are and however many zones are crossed at once. -/
theorem stick_report_reverses :
    (∀ {α : Type} [LE α] [DecidableLE α] [Neg α] (t : Thresholds α) (current previous : Position α),
      let event := Direction.between t current previous
      Direction.reported t current previous = .plain :: (if event = .plain then [] else [event]) ∧
        (event = .plain ↔ previous.SameZones t current) ∧
        Direction.between t previous current = if event = .plain then .plain else event.reverse) ∧
    (∀ (settings : Settings) (n e : Number),
      settings.neutralThreshold.toNumber = .ok n → settings.edgeThreshold.toNumber = .ok e →
      ∀ (device : Option Device) (side : Side) (current previous : Position Float),
        let events := Direction.events ⟨n, e⟩ (current.map Number.real) (previous.map Number.real)
        events.length ≤ 1 ∧ .plain ∉ events ∧
          (events = [] ↔ (previous.map Number.real).SameZones ⟨n, e⟩ (current.map Number.real)) ∧
          ∀ (desk : Desk) (send : Input → Step Unit), (∀ inp s, (after (send inp) s).settings = s.settings) →
            ∀ s : Studio, s.settings = settings →
              receive desk send device (.stick side current previous) s =
                (stickMovement device side current :: events.map (stickInput device side current)).forM send s ∧
              receive desk send device (.stick side previous current) s =
                (stickMovement device side previous ::
                  (events.map Direction.reverse).map (stickInput device side previous)).forM send s) := by
  constructor
  · intro α _ _ _ t current previous event
    refine ⟨Direction.reported_eq t current previous, Direction.between_plain_iff t current previous, ?_⟩
    rw [Direction.between_swap]
    split
    next hplain => exact Direction.reverse_eq_plain_iff.mpr hplain
    next => rfl
  · intro settings n e hn he device side current previous events
    obtain ⟨hone, hplain⟩ := Direction.events_single ⟨n, e⟩ (current.map Number.real) (previous.map Number.real)
    refine ⟨hone, hplain, Direction.events_eq_nil_iff _ _ _, fun desk send hkeeps s hs => ?_⟩
    have hthere : receive desk send device (.stick side current previous) s = _ :=
      receive_stick hkeeps hn he device side current previous hs
    have hback : receive desk send device (.stick side previous current) s = _ :=
      receive_stick hkeeps hn he device side previous current hs
    rw [Direction.reported_eq] at hthere hback
    rw [Direction.events_swap] at hback
    exact ⟨hthere, hback⟩

/-- A stick that is thrown from the left edge into the upper right corner enters two edges and leaves a third. -/
theorem stick_report_reverses_thrown :
    (let t : Thresholds Int := ⟨0, 1⟩
      let event := Direction.between t ⟨1, 1⟩ ⟨-1, 0⟩
      event = .up ∧ Direction.reported t ⟨1, 1⟩ ⟨-1, 0⟩ = .plain :: (if event = .plain then [] else [event]) ∧
        (event = .plain ↔ (⟨-1, 0⟩ : Position Int).SameZones t ⟨1, 1⟩) ∧
        Direction.between t ⟨-1, 0⟩ ⟨1, 1⟩ = if event = .plain then .plain else event.reverse) ∧
    (let settings : Settings := {}
      let n : Number := .real 0.08
      let e : Number := .real 0.70
      let corner : Position Float := ⟨1, 1⟩
      let edge : Position Float := ⟨-1, 0⟩
      let desk : Desk := .plain fun _ => .exited 0
      let record (inp : Input) : Step Unit := emit (.delivered inp)
      let events := Direction.events ⟨n, e⟩ (corner.map Number.real) (edge.map Number.real)
      settings.neutralThreshold.toNumber = .ok n ∧ settings.edgeThreshold.toNumber = .ok e ∧ events = [.up] ∧
        receive desk record none (.stick .right corner edge) {} =
          (stickMovement none .right corner :: events.map (stickInput none .right corner)).forM record {} ∧
        receive desk record none (.stick .right edge corner) {} =
          (stickMovement none .right edge ::
            (events.map Direction.reverse).map (stickInput none .right edge)).forM record {}) := by
  constructor
  · exact ⟨by decide, stick_report_reverses.1 ⟨0, 1⟩ ⟨1, 1⟩ ⟨-1, 0⟩⟩
  · intro settings n e corner edge desk record events
    obtain ⟨-, -, -, hreports⟩ := stick_report_reverses.2 settings n e rfl rfl none .right corner edge
    exact ⟨rfl, rfl, by decide +kernel, hreports desk record (fun _ _ => rfl) {} rfl⟩

end PadScribe
