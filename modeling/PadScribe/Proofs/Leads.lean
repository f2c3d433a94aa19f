import PadScribe.Proofs.Latching

/-!
# `Proofs.Leads` — what is put in front of spoken text

The only thing that a modifier does to spoken text is to put its prefix in front of it. So what comes out of the
switches of a mode is the text with a lead in front, which depends on nothing but the switches that are on: spoken
text latches none of them. And spoken text always reaches the current mode, since no shift listens to it.

## Contents

* `Modifier.lead`, `ModeSwitch.lead`, `leadOf` — what is put in front of it
* `apply_said`, `passAll_said` — what comes out
* `Input.Becomes` — what switches make of an input
* `steer_speech` — where an input of spoken text goes
-/

namespace PadScribe

theorem kind_of_said {inp : Input} {text : String} (h : inp.said? = some text) : inp.kind = .speech := by
  unfold Input.said? at h
  split at h
  · rename_i hk _
    exact hk
  · exact absurd h (by simp)

/-- What a modifier puts in front of spoken text. -/
def Modifier.lead : Modifier → String
  | addPrefix (some text) space => if space then text ++ " " else text
  | _ => ""

/-- What a switch puts in front of spoken text. -/
def ModeSwitch.lead (k : ModeSwitch) : String :=
  match k.hold with
  | .modify m => if k.switch.isOn then m.lead else ""
  | _ => ""

/-- What a row of switches puts in front of spoken text: each switch puts its own in front of what those before it
did. -/
def leadOf : List ModeSwitch → String
  | [] => ""
  | k :: rest => leadOf rest ++ k.lead

/-- An input that keeps its text has an empty lead put in front of it. -/
theorem said_unled {inp out : Input} (h : out.said? = inp.said?) : out.said? = inp.said?.map ("" ++ ·) := by
  rw [h]
  simp

theorem boost_said {factor : Option Float} {inp out : Input} (h : Modifier.applyBoost factor inp = .ok out) :
    out.said? = inp.said? := by
  unfold Modifier.applyBoost at h
  split at h
  · obtain rfl := Except.ok.inj h
    rfl
  · exact absurd h (by simp)
  · split at h
    · obtain rfl := Except.ok.inj h
      rfl
    · exact absurd h (by simp)
  · exact absurd h (by simp)
  · obtain rfl := Except.ok.inj h
    rfl

/-- A prefix goes in front of a text that is there. -/
theorem prefixed_said {text said out : Option String} {space : Bool}
    (h : Modifier.prefixed text space said = .ok out) : out = said.map ((Modifier.addPrefix text space).lead ++ ·) := by
  unfold Modifier.prefixed at h
  split at h
  · obtain rfl := Except.ok.inj h
    rfl
  · split at h
    · exact absurd h (by simp)
    · obtain rfl := Except.ok.inj h
      rfl
  · exact absurd h (by simp)

/-- **A modifier** puts its lead in front of the text of an input. -/
theorem apply_said {m : Modifier} {inp out : Input} (h : m.apply inp = .ok out) :
    out.said? = inp.said?.map (m.lead ++ ·) := by
  cases m with
  | boost factor => exact said_unled (boost_said h)
  | addPrefix text space =>
      simp only [Modifier.apply, Modifier.applyPrefix] at h
      split at h
      · rename_i u hk hu
        have hin : inp.said? = u.text := by simp [Input.said?, hk, hu]
        cases hp : Modifier.prefixed text space u.text with
        | error e =>
            rw [hp] at h
            exact absurd h (by simp [Except.map])
        | ok said =>
            rw [hp] at h
            obtain rfl := Except.ok.inj h
            rw [hin, ← prefixed_said hp]
            simp [Input.said?, hk]
      · rename_i hno
        obtain rfl := Except.ok.inj h
        have hnone : inp.said? = none := by
          unfold Input.said?
          split
          · rename_i u hk hu
            exact absurd hu (hno u hk)
          · rfl
        rw [hnone]
        rfl

theorem modify_said {k : ModeSwitch} {inp out : Input} (h : k.modify inp = .ok out) :
    out.said? = inp.said?.map (k.lead ++ ·) := by
  have hsame : (Except.ok inp : Except Fault Input) = .ok out → out.said? = inp.said?.map ("" ++ ·) := by
    intro he
    exact said_unled (by rw [Except.ok.inj he])
  obtain ⟨switch, hold⟩ := k
  cases hold with
  | modify m =>
      simp only [ModeSwitch.modify] at h
      simp only [ModeSwitch.lead]
      by_cases hon : switch.isOn = true
      · rw [if_pos hon] at h ⊢
        exact apply_said h
      · rw [if_neg hon] at h ⊢
        exact hsame h
  | gyro => exact hsame h
  | pointer button => exact hsame h

/-! ## What switches make of an input -/

/-- What some row of switches makes of an input. -/
def Input.Becomes (inp out : Input) : Prop :=
  ∃ switches, (ModeSwitch.passAll switches inp).2.2 = .ok out

theorem becomes_refl (inp : Input) : inp.Becomes inp :=
  ⟨[], rfl⟩

/-- An input passes the first switch and then the others. -/
theorem passAll_ok_cons {k : ModeSwitch} {rest : List ModeSwitch} {inp out : Input}
    (h : (ModeSwitch.passAll (k :: rest) inp).2.2 = .ok out) :
    ∃ changed, ModeSwitch.modify { k with switch := k.switch.step inp } inp = .ok changed ∧
      (ModeSwitch.passAll rest changed).2.2 = .ok out := by
  simp only [ModeSwitch.passAll] at h
  cases hm : ModeSwitch.modify { k with switch := k.switch.step inp } inp with
  | error e =>
      rw [hm] at h
      exact absurd h (by simp)
  | ok changed =>
      rw [hm] at h
      exact ⟨changed, rfl, h⟩

/-- An input keeps its device, and the conditions on buttons and stick zones that it meets. -/
theorem becomes_alike {inp out : Input} (h : inp.Becomes out) : inp.Alike out := by
  obtain ⟨switches, h⟩ := h
  induction switches generalizing inp with
  | nil =>
      obtain rfl := Except.ok.inj h
      exact alike_refl inp
  | cons k rest ih =>
      obtain ⟨changed, hm, h⟩ := passAll_ok_cons h
      have hfirst : inp.Alike changed := alike_modify hm
      have hrest : changed.Alike out := ih h
      exact ⟨hrest.device.trans hfirst.device, fun c hc => (hrest.holds c hc).trans (hfirst.holds c hc)⟩

/-- An input without a text is given none. -/
theorem becomes_unsaid {inp out : Input} (h : inp.Becomes out) (hs : inp.said? = none) : out.said? = none := by
  obtain ⟨switches, h⟩ := h
  induction switches generalizing inp with
  | nil =>
      obtain rfl := Except.ok.inj h
      exact hs
  | cons k rest ih =>
      obtain ⟨changed, hm, h⟩ := passAll_ok_cons h
      exact ih (by rw [modify_said hm, hs, Option.map_none]) h

/-- **The switches of a mode** put their lead in front of the text of an input. -/
theorem passAll_said {switches : List ModeSwitch} (hs : ∀ k ∈ switches, k.switch.ReadsController) {inp out : Input}
    (h : (ModeSwitch.passAll switches inp).2.2 = .ok out) : out.said? = inp.said?.map (leadOf switches ++ ·) := by
  induction switches generalizing inp with
  | nil =>
      obtain rfl := Except.ok.inj h
      exact said_unled rfl
  | cons k rest ih =>
      obtain ⟨changed, hm, hout⟩ := passAll_ok_cons h
      have hrest := ih (fun k hk => hs k (List.mem_cons_of_mem _ hk)) hout
      have hfirst := modify_said hm
      cases hsaid : inp.said? with
      | none => rw [hrest, hfirst, hsaid, Option.map_none, Option.map_none, Option.map_none]
      | some text =>
          -- spoken text latches no switch, so the lead is that of the switches as they were
          have hnone := change_spoken (hs k List.mem_cons_self) (kind_of_said hsaid)
          have hstep : k.switch.step inp = k.switch := by
            unfold Switch.step
            rw [hnone]
          rw [hstep] at hfirst
          rw [hrest, hfirst, hsaid]
          simp [leadOf, String.append_assoc]

/-! ## Where spoken text goes -/

variable {desk : Desk} {s : Studio} {inp : Input}

/-- A condition that spoken text does not meet is met by no input of its kind. -/
theorem holds_of_deaf {condition : Condition} (h : ∀ text, condition.holds (.spoken text) = false)
    (hk : inp.kind = .speech) : condition.holds inp = false := by
  cases condition with
  | speech => exact absurd (h "a") (by decide)
  | _ => simp [Condition.holds, hk]

/-- A switch that does not listen to spoken text is left alone by every input of its kind. -/
theorem change_of_deaf {k : Switch} (h : k.Deaf) (hk : inp.kind = .speech) : k.change inp = .none := by
  have hon : k.on.holds inp = false := by
    refine holds_of_deaf (fun text => ?_) hk
    have hchange := h text
    unfold Switch.change at hchange
    split at hchange
    · exact absurd hchange (by simp)
    · rename_i hno
      simpa using hno
  unfold Switch.change
  rw [hon, holds_of_deaf (off_of_deaf h) hk]
  rfl

/-- **An input of spoken text reaches the current mode.** -/
theorem steer_speech (hw : Wired s) {id : String} (hid : s.manager.current = some id) (hk : inp.kind = .speech) :
    steer desk inp s = .ok (some id) s := by
  have hshifts : ∀ shifts : List Shift, (∀ k ∈ shifts, k.switch.Deaf) → ∀ i,
      tryShifts desk inp i shifts s = .ok false s := by
    intro shifts hdeaf
    induction shifts with
    | nil => exact fun _ => rfl
    | cons k rest ih =>
        intro i
        simp only [tryShifts, change_of_deaf (hdeaf k List.mem_cons_self) hk]
        exact ih (fun k hk => hdeaf k (List.mem_cons_of_mem _ hk)) (i + 1)
  have hexit : tryExit inp s = .ok false s := by
    unfold tryExit
    rw [bind_apply, get_apply]
    cases hx : s.manager.exit with
    | none => simp only [hx, pure_apply]
    | some condition =>
        simp only [hx, holds_of_deaf (hw.exit condition hx) hk, Bool.false_eq_true, if_false, pure_apply]
  unfold steer
  rw [bind_apply, get_apply]
  simp only [hid]
  by_cases hhome : s.manager.home = some id
  · rw [if_pos hhome, bind_apply, hshifts _ hw.deaf]
    rfl
  · rw [if_neg hhome, bind_apply, hexit]
    rfl

end PadScribe
