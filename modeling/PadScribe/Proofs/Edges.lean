import PadScribe.Proofs.Numbers
import PadScribe.Proofs.Run

/-!
# `Proofs.Edges` — zone switches and where the stick is

A switch on an edge of a stick is turned by the events of that edge. A report tells of one crossing at most:
of all the edges that a stick crosses between two positions, the first is told and the others are passed
over. A switch is right about the stick after each crossing of its edge that is told, and each one that is
passed over makes it wrong where it was right and right where it was wrong.

## Contents

* `Direction.crossed`, `Direction.told?`, `Direction.between_eq` — the crossing that a report tells of
* `Direction.turn`, `Direction.turn_between` — what a report makes of a switch
* `Direction.trail`, `Direction.missed`, `Direction.turn_trail` — what a row of reports makes of it
* `Direction.missed_up` — no crossing of the upper edge is passed over
* `Input.Says`, `Switch.Tracks`, `Switch.tracks_parity` — switches and inputs
* `stickInputs`, `receiveMoves_eq` — a row of stick reports hands on its inputs
* **`zone_switch_tracks`** — a zone switch is right exactly after an even number of crossings passed over
-/

namespace PadScribe

/-! ## The crossing that a report tells of -/

/-- The crossing of a zone is plain while the stick stays in it or out of it. -/
theorem Direction.crossing_eq (d : Direction) (was now : Bool) :
    d.crossing was now = if was = now then .plain else if now then d else d.reverse := by
  cases was <;> cases now <;> rfl

/-- Entering and leaving an edge are events of that edge only. -/
theorem Direction.event_of_edge : ∀ z ∈ edges, ∀ d ∈ edges, ∀ now : Bool,
    let event := if now then z else z.reverse
    event ≠ .plain ∧ (event = d ↔ z = d ∧ now = true) ∧ (event = d.reverse ↔ z = d ∧ now = false) := by
  decide

/-- The events of the neutral zone are not events of an edge. -/
theorem Direction.event_of_neutral : ∀ d ∈ edges, ∀ was now : Bool,
    neutral.crossing was now ≠ d ∧ neutral.crossing was now ≠ d.reverse := by
  decide

section
variable {α : Type} [LE α] [DecidableLE α] [Neg α]

/-- Whether a stick crosses the border of a zone between two positions. -/
def Direction.crossed (edge : α) (current previous : Position α) (d : Direction) : Bool :=
  previous.atEdge edge d != current.atEdge edge d

/-- The edge that a report tells of: the first one that the stick crosses, if it crosses any. -/
def Direction.told? (edge : α) (current previous : Position α) : Option Direction :=
  edges.find? (crossed edge current previous)

/-- The first crossing among some edges is that of the first of them that is crossed. -/
theorem Direction.firstCrossing_eq (edge : α) (current previous : Position α) :
    ∀ zones : List Direction, (∀ z ∈ zones, z ∈ edges) →
      firstCrossing edge current previous zones =
        match zones.find? (crossed edge current previous) with
        | none => .plain
        | some z => if current.atEdge edge z then z else z.reverse
  | [], _ => rfl
  | z :: rest, hzones => by
    have hrest := firstCrossing_eq edge current previous rest fun y hy => hzones y (List.mem_cons_of_mem _ hy)
    have hevent := (event_of_edge z (hzones z List.mem_cons_self) z (hzones z List.mem_cons_self)
      (current.atEdge edge z)).1
    unfold firstCrossing
    rw [crossing_eq]
    by_cases hsame : previous.atEdge edge z = current.atEdge edge z
    · rw [if_pos hsame, List.find?_cons_of_neg (by simp [crossed, hsame])]
      exact hrest
    · rw [if_neg hsame, List.find?_cons_of_pos (by simp [crossed, hsame])]
      dsimp only
      split
      · contradiction
      · rfl

/-- What a report tells: the event of the first edge that the stick crosses, or something about the neutral
zone where it crosses none. -/
theorem Direction.between_eq (t : Thresholds α) (current previous : Position α) :
    between t current previous =
      match told? t.edge current previous with
      | none => neutralCrossing t.neutral current previous
      | some z => if current.atEdge t.edge z then z else z.reverse := by
  unfold between told?
  rw [firstCrossing_eq t.edge current previous edges fun _ h => h]
  cases hz : edges.find? (crossed t.edge current previous) with
  | none => rfl
  | some z =>
    have hmem := List.mem_of_find?_eq_some hz
    have hevent := (event_of_edge z hmem z hmem (current.atEdge t.edge z)).1
    dsimp only
    split
    · contradiction
    · rfl

/-! ## Turning a switch -/

/-- What an event makes of a switch on an edge: on if it enters, off if it leaves, as it was otherwise. -/
def Direction.turn (d : Direction) (isOn : Bool) (event : Direction) : Bool :=
  if event = d then true else if event = d.reverse then false else isOn

theorem Direction.turn_plain {d : Direction} (hd : d ∈ edges) (isOn : Bool) : d.turn isOn .plain = isOn := by
  revert d isOn
  decide

/-- A report sets the switch of the edge that it tells of to where the stick is, and leaves the switches of
the other edges. -/
theorem Direction.turn_between (t : Thresholds α) {d : Direction} (hd : d ∈ edges)
    (current previous : Position α) (isOn : Bool) :
    d.turn isOn (between t current previous) =
      if told? t.edge current previous = some d then current.atEdge t.edge d else isOn := by
  rw [between_eq]
  unfold turn
  cases htold : told? t.edge current previous with
  | none =>
    obtain ⟨henter, hleave⟩ := event_of_neutral d hd
      (previous.atNeutral t.neutral) (current.atNeutral t.neutral)
    dsimp only
    rw [neutralCrossing, if_neg henter, if_neg hleave, if_neg nofun]
  | some z =>
    obtain ⟨-, henter, hleave⟩ := event_of_edge z (List.mem_of_find?_eq_some htold) d hd (current.atEdge t.edge z)
    dsimp only at henter hleave ⊢
    by_cases hz : z = d
    · subst hz
      simp only [henter, hleave]
      cases current.atEdge t.edge z <;> simp
    · rw [if_neg fun h => hz (henter.mp h).1, if_neg fun h => hz (hleave.mp h).1,
        if_neg fun h => hz (Option.some.inj h)]

/-- The directions of the inputs that a stick report gives: its movement, and its event if it has one. -/
def Direction.reported (t : Thresholds α) (current previous : Position α) : List Direction :=
  let event := between t current previous
  if event = .plain then [.plain] else [.plain, event]

/-- The directions of the inputs that a row of stick reports gives, each from the position before it. -/
def Direction.trail (t : Thresholds α) : Position α → List (Position α) → List Direction
  | _, [] => []
  | previous, current :: rest => reported t current previous ++ trail t current rest

/-- How many crossings of an edge were passed over since the last one that was told. -/
def Direction.missed (edge : α) (d : Direction) : Nat → Position α → List (Position α) → Nat
  | n, _, [] => n
  | n, previous, current :: rest =>
    missed edge d
      (if told? edge current previous = some d then 0
        else if crossed edge current previous d then n + 1 else n) current rest

/-- The same for all the inputs of a report: its movement turns no switch. -/
theorem Direction.turn_reported (t : Thresholds α) {d : Direction} (hd : d ∈ edges)
    (current previous : Position α) (isOn : Bool) :
    (reported t current previous).foldl d.turn isOn =
      if told? t.edge current previous = some d then current.atEdge t.edge d else isOn := by
  rw [← turn_between t hd]
  unfold reported
  dsimp only
  split
  next hplain => rw [hplain]; rfl
  next =>
    rw [List.foldl_cons, turn_plain hd]
    rfl

/-- **The parity of what was passed over.** The induction is on the reports; what carries it is that a switch
is right about the last position exactly when the count is even. -/
theorem Direction.turn_trail (t : Thresholds α) {d : Direction} (hd : d ∈ edges) :
    ∀ (positions : List (Position α)) (previous : Position α) (n : Nat) (isOn : Bool),
      (isOn = previous.atEdge t.edge d ↔ n % 2 = 0) →
      ((trail t previous positions).foldl d.turn isOn = (positions.getLastD previous).atEdge t.edge d ↔
        missed t.edge d n previous positions % 2 = 0)
  | [], _, _, _, h => h
  | current :: rest, previous, n, isOn, h => by
    unfold trail missed
    rw [List.foldl_append, List.getLastD_cons, turn_reported t hd]
    apply turn_trail t hd rest
    by_cases htold : told? t.edge current previous = some d
    · simp [htold]
    · rw [if_neg htold, if_neg htold]
      unfold crossed
      by_cases hsame : previous.atEdge t.edge d = current.atEdge t.edge d
      · rw [if_neg (by simpa using hsame), ← hsame]
        exact h
      · rw [if_pos (by simpa using hsame)]
        have hflip : isOn = current.atEdge t.edge d ↔ ¬ isOn = previous.atEdge t.edge d := by
          revert hsame
          cases isOn <;> cases current.atEdge t.edge d <;> cases previous.atEdge t.edge d <;> decide
        rw [hflip, h]
        omega

/-- The upper edge is looked at first, so that none of its crossings is passed over. -/
theorem Direction.missed_up (edge : α) :
    ∀ (positions : List (Position α)) (previous : Position α), missed edge .up 0 previous positions = 0
  | [], _ => rfl
  | current :: rest, previous => by
    have hfirst : (if told? edge current previous = some .up then 0
        else if crossed edge current previous .up then 0 + 1 else 0) = 0 := by
      by_cases hcrossed : crossed edge current previous .up = true
      · have htold : told? edge current previous = some .up := List.find?_cons_of_pos hcrossed
        rw [if_pos htold]
      · rw [if_neg hcrossed, ite_self]
    unfold missed
    rw [hfirst]
    exact missed_up edge rest current

end

/-! ## Switches and inputs -/

/-- An input of a stick of a side that tells of a direction. -/
structure Input.Says (side : Side) (d : Direction) (inp : Input) : Prop where
  kind : inp.kind = .stick
  report : ∃ r, inp.stick = some r ∧ r.side = side ∧ r.direction = d

/-- A zone switch in the on or the off state. -/
def Switch.ofZoneAt (side : Side) (d : Direction) (isOn : Bool) : Switch :=
  { Switch.ofZone side d with isOn }

theorem Input.Says.holds_iff {side : Side} {d e : Direction} {inp : Input} (h : inp.Says side e) :
    (Condition.stickZone side d).holds inp = true ↔ e = d := by
  obtain ⟨hkind, r, hr, rfl, rfl⟩ := h
  simp [Condition.holds, hkind, hr]

/-- What a stick input does to a zone switch. -/
theorem Switch.step_says {side : Side} {d e : Direction} {inp : Input} (h : inp.Says side e) (b : Bool) :
    (Switch.ofZoneAt side d b).step inp = Switch.ofZoneAt side d (d.turn b e) := by
  unfold Switch.step Switch.change Switch.ofZoneAt Switch.ofZone Direction.turn
  simp only [h.holds_iff]
  split_ifs <;> rfl

theorem Switch.foldl_says {side : Side} {d : Direction} {events : List Direction} {inputs : List Input}
    (h : List.Forall₂ (Input.Says side) events inputs) (b : Bool) :
    inputs.foldl Switch.step (Switch.ofZoneAt side d b) =
      Switch.ofZoneAt side d (events.foldl d.turn b) := by
  induction h generalizing b with
  | nil => rfl
  | cons hsays _ ih => rw [List.foldl_cons, List.foldl_cons, Switch.step_says hsays, ih]

/-- Whether a switch on an edge is right about a position: on exactly when the position is at the edge. -/
def Switch.Tracks {α : Type} [LE α] [DecidableLE α] [Neg α] (edge : α) (d : Direction) (p : Position α)
    (switch : Switch) : Prop :=
  switch.isOn = true ↔ p.atEdge edge d = true

/-- A switch on an edge that is right to begin with, after the inputs of a row of reports. -/
theorem Switch.tracks_parity {α : Type} [LE α] [DecidableLE α] [Neg α] {t : Thresholds α} {side : Side}
    {d : Direction} {centre : Position α} {positions : List (Position α)} {inputs : List Input}
    (hd : d ∈ Direction.edges)
    (hcentre : centre.atEdge t.edge d = false)
    (h : List.Forall₂ (Input.Says side) (Direction.trail t centre positions) inputs) :
    (inputs.foldl Switch.step (Switch.ofZone side d)).Tracks t.edge d (positions.getLastD centre) ↔
      Direction.missed t.edge d 0 centre positions % 2 = 0 := by
  unfold Switch.Tracks
  have hfold : inputs.foldl Switch.step (Switch.ofZone side d) = _ := Switch.foldl_says h false
  rw [hfold, ← Direction.turn_trail t hd positions centre 0 false (by simp [hcentre])]
  exact Bool.eq_iff_iff.symm

/-! ## Over linearly ordered numbers -/

theorem Position.centre_off {α : Type} [LinearOrder α] [NegZeroClass α] {edge : α} (h : 0 < edge)
    {d : Direction} : (⟨0, 0⟩ : Position α).atEdge edge d = false := by
  cases d <;> simp [Position.atEdge, h]

/-! ## In the program -/

/-- The input of a direction that a stick report tells of. -/
def stickInput (device : Option Device) (side : Side) (position : Position Float) (direction : Direction) :
    Input :=
  { kind := .stick, device, stick := some { side, position, direction } }

/-- The inputs that a row of stick reports gives, each from the position before it. -/
def stickInputs (t : Thresholds Number) (side : Side) :
    Position Float → List (Option Device × Position Float) → List Input
  | _, [] => []
  | previous, (device, current) :: rest =>
    (Direction.reported t (current.map .real) (previous.map .real)).map (stickInput device side current) ++
      stickInputs t side current rest

theorem stickInputs_say (t : Thresholds Number) (side : Side) :
    ∀ (moves : List (Option Device × Position Float)) (previous : Position Float),
      List.Forall₂ (Input.Says side)
        (Direction.trail t (previous.map .real) (moves.map fun m => m.2.map .real))
        (stickInputs t side previous moves)
  | [], _ => .nil
  | (device, current) :: rest, previous => by
    refine List.rel_append ?_ (stickInputs_say t side rest current)
    rw [List.forall₂_map_right_iff]
    exact List.forall₂_same.mpr fun direction _ => ⟨rfl, _, rfl, rfl, rfl⟩

/-- Takes in a row of stick reports, each from the position before it. -/
def receiveMoves (desk : Desk) (send : Input → Step Unit) (side : Side) :
    Position Float → List (Option Device × Position Float) → Step Unit
  | _, [] => pure ()
  | previous, (device, current) :: rest => do
    receive desk send device (.stick side current previous)
    receiveMoves desk send side current rest

section
variable {desk : Desk} {send : Input → Step Unit} {settings : Settings} {n e : Number} {s : Studio}

/-- The event of a stick report under settings whose thresholds are numbers. -/
theorem stickEvent_eq (hn : settings.neutralThreshold.toNumber = .ok n)
    (he : settings.edgeThreshold.toNumber = .ok e) (device : Option Device) (side : Side)
    (current previous : Position Float) :
    let event := Direction.between ⟨n, e⟩ (current.map .real) (previous.map .real)
    stickEvent? settings device side current previous =
      .ok (if event = .plain then none else some (stickInput device side current event)) := by
  have hdirection : settings.direction (current.map .real) (previous.map .real) =
      .ok (Direction.between ⟨n, e⟩ (current.map .real) (previous.map .real)) := by
    unfold Settings.direction Direction.between
    rw [hn, he]
    dsimp only [bind, Except.bind, pure, Except.pure]
    split <;> simp_all
  unfold stickEvent?
  rw [hdirection]
  cases Direction.between ⟨n, e⟩ (current.map .real) (previous.map .real) <;> rfl

/-- **A stick report hands on its inputs, one after another.** -/
theorem receive_stick (hkeeps : ∀ inp s, (after (send inp) s).settings = s.settings)
    (hn : settings.neutralThreshold.toNumber = .ok n) (he : settings.edgeThreshold.toNumber = .ok e)
    (device : Option Device) (side : Side) (current previous : Position Float) (hs : s.settings = settings) :
    receive desk send device (.stick side current previous) s =
      ((Direction.reported ⟨n, e⟩ (current.map .real) (previous.map .real)).map
        (stickInput device side current)).forM send s := by
  have hmove : stickMovement device side current = stickInput device side current .plain := rfl
  -- the thresholds are looked up after the movement was handed on, where they are still those of the settings
  have hevent {t : Studio} (ht : send (stickInput device side current .plain) s = .ok () t) :
      liftFault (stickEvent? t.settings device side current previous) =
        pure (let event := Direction.between ⟨n, e⟩ (current.map .real) (previous.map .real)
          if event = .plain then none else some (stickInput device side current event)) := by
    have hsettings : t.settings = settings := by
      rw [← hs, ← hkeeps (stickInput device side current .plain) s, after_ok ht]
    rw [hsettings, stickEvent_eq hn he]
    rfl
  unfold receive Direction.reported
  dsimp only at hevent ⊢
  rw [hmove, bind_apply]
  by_cases hplain : Direction.between ⟨n, e⟩ (current.map .real) (previous.map .real) = .plain
  · rw [if_pos hplain] at hevent ⊢
    simp only [List.map_cons, List.map_nil, List.forM_eq_forM, List.forM_cons, List.forM_nil, bind_apply]
    cases hsend : send (stickInput device side current .plain) s with
    | error fault t => rfl
    | ok a t => simp [hevent hsend]
  · rw [if_neg hplain] at hevent ⊢
    simp only [List.map_cons, List.map_nil, List.forM_eq_forM, List.forM_cons, List.forM_nil, bind_apply,
      bind_pure_unit]
    cases hsend : send (stickInput device side current .plain) s with
    | error fault t => rfl
    | ok a t => simp [hevent hsend]

theorem forM_settings (hkeeps : ∀ inp s, (after (send inp) s).settings = s.settings) :
    ∀ (inputs : List Input) (s : Studio), (after (inputs.forM send) s).settings = s.settings
  | [], _ => rfl
  | inp :: rest, s =>
    after_bind_rel (R := fun a b => b.settings = a.settings) (fun h₁ h₂ => h₂.trans h₁) (hkeeps inp s)
      fun _ t _ => forM_settings hkeeps rest t

/-- **A row of stick reports hands on its inputs, one after another.** -/
theorem receiveMoves_eq (hkeeps : ∀ inp s, (after (send inp) s).settings = s.settings)
    (hn : settings.neutralThreshold.toNumber = .ok n) (he : settings.edgeThreshold.toNumber = .ok e)
    (side : Side) :
    ∀ (moves : List (Option Device × Position Float)) (previous : Position Float) (s : Studio),
      s.settings = settings →
      receiveMoves desk send side previous moves s = (stickInputs ⟨n, e⟩ side previous moves).forM send s
  | [], _, _, _ => rfl
  | (device, current) :: rest, previous, s, hs => by
    unfold receiveMoves stickInputs
    rw [List.forM_eq_forM, List.forM_append, bind_apply, bind_apply,
      receive_stick hkeeps hn he device side current previous hs, List.forM_eq_forM]
    cases hreport : forM ((Direction.reported ⟨n, e⟩ (current.map .real) (previous.map .real)).map
        (stickInput device side current)) send s with
    | error fault t => rfl
    | ok _ t =>
      have ht : t.settings = settings := by
        rw [← hs, ← forM_settings hkeeps _ s, List.forM_eq_forM, after_ok hreport]
      exact receiveMoves_eq hkeeps hn he side rest current t ht

/-- The centre is in no edge zone when the edges begin above a number that is not negative. -/
theorem Position.real_centre_off (h0 : Number.whole 0 ≤ n) (hne : n ≤ e) (hen : ¬ e ≤ n) (d : Direction) :
    ((⟨0, 0⟩ : Position Float).map .real).atEdge e d = false := by
  have hzero : Number.sign? (.real 0) = some 0 := by rfl
  have hminus : Number.sign? (-.real 0) = some 0 := by rfl
  have hout {z : Number} (hz : z.sign? = some 0) : decide (e ≤ z) = false :=
    decide_eq_false (Number.above_zero h0 hne hen hz)
  cases d
  case up | right => exact hout hzero
  case down | left => exact hout hminus
  all_goals rfl

end

/-! ## The switches of a stick -/

/-- **A zone switch is right about the stick exactly after an even number of crossings of its edge that were
passed over since the last one told**: over any linearly ordered numbers, and in the program, whose stick
reports hand on their inputs to whatever leaves the settings alone. -/
theorem zone_switch_tracks :
    (∀ {α : Type} [LinearOrder α] [NegZeroClass α] (t : Thresholds α), 0 ≤ t.neutral → t.neutral < t.edge →
      ∀ (side : Side), ∀ d ∈ Direction.edges, ∀ (positions : List (Position α)) (inputs : List Input),
        List.Forall₂ (Input.Says side) (Direction.trail t ⟨0, 0⟩ positions) inputs →
        ((inputs.foldl Switch.step (Switch.ofZone side d)).Tracks t.edge d (positions.getLastD ⟨0, 0⟩) ↔
          Direction.missed t.edge d 0 ⟨0, 0⟩ positions % 2 = 0)) ∧
    (∀ (settings : Settings) (n e : Number),
      settings.neutralThreshold.toNumber = .ok n → settings.edgeThreshold.toNumber = .ok e →
      .whole 0 ≤ n → n ≤ e → ¬ e ≤ n →
      ∀ (side : Side), ∀ d ∈ Direction.edges, ∀ moves : List (Option Device × Position Float),
        let centre : Position Float := ⟨0, 0⟩
        let positions := moves.map fun m => m.2.map Number.real
        ∃ inputs : List Input,
          (∀ (desk : Desk) (send : Input → Step Unit), (∀ inp s, (after (send inp) s).settings = s.settings) →
            ∀ s : Studio, s.settings = settings →
              receiveMoves desk send side centre moves s = inputs.forM send s) ∧
          ((inputs.foldl Switch.step (Switch.ofZone side d)).Tracks e d (positions.getLastD (centre.map .real)) ↔
            Direction.missed e d 0 (centre.map .real) positions % 2 = 0)) := by
  constructor
  · intro α _ _ t h0 hlt side d hd positions inputs hsays
    exact Switch.tracks_parity hd (Position.centre_off (h0.trans_lt hlt)) hsays
  · intro settings n e hn he h0 hne hen side d hd moves centre positions
    refine ⟨stickInputs ⟨n, e⟩ side centre moves, ?_, ?_⟩
    · intro desk send hkeeps s hs
      exact receiveMoves_eq hkeeps hn he side moves centre s hs
    · exact Switch.tracks_parity (t := ⟨n, e⟩) hd (Position.real_centre_off h0 hne hen d)
        (stickInputs_say ⟨n, e⟩ side moves centre)

theorem zone_switch_tracks_flick :
    (let t : Thresholds Int := ⟨0, 1⟩
      let inputs := [stickInput none .right ⟨1, 1⟩ .plain, stickInput none .right ⟨1, 1⟩ .up]
      0 ≤ t.neutral ∧ t.neutral < t.edge ∧ .right ∈ Direction.edges ∧
        List.Forall₂ (Input.Says .right) (Direction.trail t ⟨0, 0⟩ [⟨1, 1⟩]) inputs ∧
        ((inputs.foldl Switch.step (Switch.ofZone .right .right)).Tracks t.edge .right ⟨1, 1⟩ ↔
          Direction.missed t.edge .right 0 ⟨0, 0⟩ [⟨1, 1⟩] % 2 = 0)) ∧
    (let settings : Settings := {}
      let n : Number := .real 0.08
      let e : Number := .real 0.70
      let centre : Position Float := ⟨0, 0⟩
      let corner : Position Float := ⟨1, 1⟩
      settings.neutralThreshold.toNumber = .ok n ∧ settings.edgeThreshold.toNumber = .ok e ∧
        .whole 0 ≤ n ∧ n ≤ e ∧ ¬ e ≤ n ∧
        ∃ inputs : List Input,
          receiveMoves (.plain fun _ => .exited 0) (fun inp => emit (.delivered inp)) .right centre
            [(none, corner)] {} = inputs.forM (fun inp => emit (.delivered inp)) {} ∧
          ((inputs.foldl Switch.step (Switch.ofZone .right .right)).Tracks e .right (corner.map .real) ↔
            Direction.missed e .right 0 (centre.map .real) [corner.map .real] % 2 = 0)) := by
  constructor
  · intro t inputs
    have hsays : List.Forall₂ (Input.Says .right) (Direction.trail t ⟨0, 0⟩ [⟨1, 1⟩]) inputs :=
      .cons ⟨rfl, _, rfl, rfl, rfl⟩ (.cons ⟨rfl, _, rfl, rfl, rfl⟩ .nil)
    exact ⟨by decide, by decide, by decide, hsays,
      zone_switch_tracks.1 t (by decide) (by decide) .right .right (by decide) [⟨1, 1⟩] inputs hsays⟩
  · intro settings n e centre corner
    have h0 : .whole 0 ≤ n := by decide +kernel
    have hne : n ≤ e := by decide +kernel
    have hen : ¬ e ≤ n := by decide +kernel
    obtain ⟨inputs, hrun, htracks⟩ :=
      zone_switch_tracks.2 settings n e rfl rfl h0 hne hen .right .right (by decide) [(none, corner)]
    exact ⟨rfl, rfl, h0, hne, hen, inputs,
      hrun (.plain fun _ => .exited 0) (fun inp => emit (.delivered inp)) (fun _ _ => rfl) {} rfl, htracks⟩

/-- A flick from the centre into the upper right corner: the report tells of the upper edge, and the switch on
the right one stays off while the stick is there. -/
theorem flick_passed_over :
    ∃ inputs : List Input,
      receiveMoves (.plain fun _ => .exited 0) (fun inp => emit (.delivered inp)) .right ⟨0, 0⟩
        [(none, ⟨1, 1⟩)] {} = .ok () { record := inputs.map .delivered } ∧
      (inputs.foldl Switch.step (Switch.ofZone .right .right)).isOn = false ∧
      ((⟨1, 1⟩ : Position Float).map Number.real).atEdge (Number.real 0.70) .right = true :=
  ⟨[stickInput none .right ⟨1, 1⟩ .plain, stickInput none .right ⟨1, 1⟩ .up], rfl, rfl, by decide +kernel⟩

end PadScribe
