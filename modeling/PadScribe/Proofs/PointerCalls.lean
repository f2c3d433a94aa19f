import Mathlib.Data.List.Induction
import PadScribe.Device.Pointer

/-!
# `Proofs.PointerCalls` — what the virtual pointer device is written

The device is told of buttons and movements by events, and what it was written takes effect with the next
synchronisation. A call writes events of its own, whatever was called before. So what holds of every call by itself
holds of a row of calls, and only the buttons that are held hang together: the device sees a button held when the
last event about it is a press. Which buttons these are can be said of the calls alone.

A movement is by whole numbers; by doubles it is as good, if they have a whole part.

## Contents

* `Call`, `Call.answer`, `Call.events` — the calls and what they write
* `Synced`, `synced_of_last` — rows of events in which every write takes effect
* `Call.Measured`, `answer_cases`, `call_synced` — one call
* `about`, `Holds`, `Call.tells`, `lastSeen_events` — what is said of a button
* `Call.Concerns`, `Gripped`, `holds_iff_gripped` — the buttons that calls leave held
* **`calls_synced_and_held`** — a row of calls
-/

namespace PadScribe.Pointer

/-! ## Calls -/

/-- What the pointer is called for. A button is called by any name, also by one that there is not. -/
inductive Call where
  | move (dx dy : Number)
  | click (name : String) (double : Bool)
  | toggle (name : String) (down : Bool)
  | releaseAll

/-- The event that an effect is, if the device is written one. -/
def event? : Effect → Option DeviceEvent
  | .device e => some e
  | _ => none

namespace Call

/-- What comes of a call. -/
def answer : Call → Response
  | move dx dy => Pointer.move dx dy
  | click name double => Pointer.click name double
  | toggle name down => Pointer.toggle name down
  | releaseAll => Pointer.releaseAll

/-- The events that the device is written in a call. -/
def events (c : Call) : List DeviceEvent :=
  c.answer.effects.filterMap event?

/-- Whether a call moves by numbers that have a whole part, if it moves. Every whole number has one. -/
def Measured : Call → Prop
  | move dx dy => (∃ n, dx.truncate = .ok n) ∧ ∃ n, dy.truncate = .ok n
  | _ => True

end Call

@[simp] theorem filterMap_device (es : List DeviceEvent) : (es.map Effect.device).filterMap event? = es := by
  rw [List.filterMap_map]
  exact List.filterMap_some

theorem events_ofEvents {c : Call} {es : List DeviceEvent} (h : c.answer = ofEvents es) : c.events = es := by
  rw [Call.events, h, ofEvents, filterMap_device]

/-! ## Writes that take effect -/

/-- **Every write takes effect**: a synchronisation follows it. -/
def Synced (events : List DeviceEvent) : Prop :=
  ∀ before type code value after, events = before ++ .write type code value :: after → .syn ∈ after

theorem synced_nil : Synced [] := by
  intro before type code value after h
  exact absurd h (by simp)

/-- Events that end with a synchronisation take effect. -/
theorem synced_of_last {events : List DeviceEvent} (h : events.getLast? = some .syn) : Synced events := by
  rintro before type code value after rfl
  cases after with
  | nil => simp at h
  | cons e after =>
      have hlast : (e :: after).getLast? = some .syn := by
        simpa [List.getLast?_append, List.getLast?_cons] using h
      exact List.mem_of_getLast? hlast

/-- A movement along an axis by a number that has a whole part. -/
theorem axisEvents_measured (axis : Nat) {n : Number} (h : ∃ d, n.truncate = .ok d) :
    ∃ es, axisEvents axis n = .ok es := by
  obtain ⟨d, hd⟩ := h
  unfold axisEvents
  split
  · exact ⟨_, rfl⟩
  · exact ⟨_, by rw [hd]; rfl⟩

/-- **A call is done or refused**: its events end with a synchronisation, or it fails before it writes any. -/
theorem answer_cases {c : Call} (hc : c.Measured) :
    (∃ es, c.answer = ofEvents es ∧ es.getLast? = some .syn) ∨ ∃ fault, c.answer = ⟨[], some fault⟩ := by
  cases c with
  | move dx dy =>
      obtain ⟨xs, hx⟩ := axisEvents_measured axisX hc.1
      obtain ⟨ys, hy⟩ := axisEvents_measured axisY hc.2
      exact .inl ⟨xs ++ ys ++ [.syn], by simp only [Call.answer, move, hx, hy], by simp⟩
  | click name double =>
      cases hwheel : wheelTicks.lookup name with
      | some tick =>
          refine .inl ⟨_, by simp only [Call.answer, click, hwheel]; rfl, ?_⟩
          cases double <;> rfl
      | none =>
          cases hbutton : buttonCodes.lookup name with
          | some code =>
              refine .inl ⟨_, by simp only [Call.answer, click, hwheel, hbutton]; rfl, ?_⟩
              cases double <;> rfl
          | none => exact .inr ⟨.unknownPointerButton name, by simp only [Call.answer, click, hwheel, hbutton]⟩
  | toggle name down =>
      cases hbutton : buttonCodes.lookup name with
      | some code => exact .inl ⟨buttonEvents code down, by simp only [Call.answer, toggle, hbutton], rfl⟩
      | none => exact .inr ⟨.unknownPointerButton name, by simp only [Call.answer, toggle, hbutton]⟩
  | releaseAll => exact .inl ⟨_, rfl, rfl⟩

/-- **One call** leaves no write without a synchronisation, and one that fails has written nothing. -/
theorem call_synced {c : Call} (hc : c.Measured) :
    Synced c.events ∧ (c.answer.fault ≠ none → c.answer.effects = []) := by
  rcases answer_cases hc with ⟨es, hdone, hlast⟩ | ⟨fault, hrefused⟩
  · rw [events_ofEvents hdone, hdone]
    exact ⟨synced_of_last hlast, fun hfault => absurd rfl hfault⟩
  · rw [Call.events, hrefused]
    exact ⟨synced_nil, fun _ => rfl⟩

/-! ## What is said of a button -/

/-- What an event says of the button of a code: whether it is down. -/
def about (code : Nat) : DeviceEvent → Option Bool
  | .write type c value => if type = keyEvents ∧ c = code then some (value != 0) else none
  | _ => none

/-- What events said last of the button of a code. -/
def lastSeen (code : Nat) (events : List DeviceEvent) : Option Bool :=
  (events.filterMap (about code)).getLast?

/-- **The device sees a button held** after some events: the last of them that is about it is a press. -/
def Holds (code : Nat) (events : List DeviceEvent) : Prop :=
  lastSeen code events = some true

theorem lastSeen_append (code : Nat) (es es' : List DeviceEvent) :
    lastSeen code (es ++ es') = (lastSeen code es').or (lastSeen code es) := by
  unfold lastSeen
  rw [List.filterMap_append, List.getLast?_append]

/-- What a call says of the button of a code in the end. -/
def Call.tells (code : Nat) : Call → Option Bool
  | move _ _ => none
  | click name _ =>
    if wheelTicks.lookup name = none ∧ buttonCodes.lookup name = some code then some false else none
  | toggle name down => if buttonCodes.lookup name = some code then some down else none
  | releaseAll => if code ∈ buttonCodes.map Prod.snd then some false else none

/-- Movements say nothing of buttons. -/
theorem lastSeen_axisEvents {code axis : Nat} {n : Number} {es : List DeviceEvent}
    (h : axisEvents axis n = .ok es) : lastSeen code es = none := by
  unfold axisEvents at h
  split at h
  · rw [← Except.ok.inj h]
    rfl
  · cases hn : n.truncate with
    | error e =>
        rw [hn] at h
        cases h
    | ok d =>
        rw [hn] at h
        rw [← Except.ok.inj h]
        rfl

theorem lastSeen_buttonEvents (code other : Nat) (down : Bool) :
    lastSeen code (buttonEvents other down) = if other = code then some down else none := by
  by_cases h : other = code
  · subst h
    cases down <;> simp [lastSeen, buttonEvents, List.filterMap_cons, about, keyEvents]
  · simp [lastSeen, buttonEvents, about, h]

theorem lastSeen_twice (code : Nat) (double : Bool) (es : List DeviceEvent) :
    lastSeen code (if double then es ++ es else es) = lastSeen code es := by
  cases double with
  | false => rfl
  | true =>
      rw [if_pos rfl, lastSeen_append]
      cases lastSeen code es <;> rfl

/-- **What a call writes** says of every button what the call says. -/
theorem lastSeen_events (code : Nat) (c : Call) : lastSeen code c.events = c.tells code := by
  cases c with
  | move dx dy =>
      simp only [Call.events, Call.answer, Call.tells, move]
      cases hx : axisEvents axisX dx with
      | error e => rfl
      | ok xs =>
          cases hy : axisEvents axisY dy with
          | error e =>
              simp only [filterMap_device]
              exact lastSeen_axisEvents hx
          | ok ys =>
              simp only [ofEvents, filterMap_device, lastSeen_append, lastSeen_axisEvents hx, lastSeen_axisEvents hy]
              rfl
  | click name double =>
      simp only [Call.events, Call.answer, Call.tells, click]
      cases hwheel : wheelTicks.lookup name with
      | some tick =>
          simp only [ofEvents, filterMap_device, lastSeen_twice]
          simp [lastSeen, tickEvents, about, relativeEvents, keyEvents]
      | none =>
          cases hbutton : buttonCodes.lookup name with
          | none => simp [lastSeen]
          | some other =>
              simp only [ofEvents, filterMap_device, lastSeen_twice, lastSeen_append, lastSeen_buttonEvents]
              by_cases h : other = code <;> simp [h]
  | toggle name down =>
      simp only [Call.events, Call.answer, Call.tells, toggle]
      cases hbutton : buttonCodes.lookup name with
      | none => simp [lastSeen]
      | some other =>
          simp only [ofEvents, filterMap_device, lastSeen_buttonEvents]
          by_cases h : other = code <;> simp [h]
  | releaseAll =>
      rw [events_ofEvents (c := .releaseAll) rfl]
      simp only [buttonCodes, List.flatMap_cons, List.flatMap_nil, List.append_nil, lastSeen_append,
        lastSeen_buttonEvents, Call.tells, List.map_cons, List.map_nil, List.mem_cons, List.not_mem_nil, or_false]
      by_cases hleft : code = 272
      · simp [hleft]
      · by_cases hright : code = 273
        · simp [hright]
        · by_cases hcenter : code = 274
          · simp [hcenter]
          · simp [hleft, hright, hcenter, Ne.symm hleft, Ne.symm hright, Ne.symm hcenter]

theorem lastSeen_calls (code : Nat) (calls : List Call) :
    lastSeen code (calls.flatMap Call.events) = (calls.filterMap (Call.tells code)).getLast? := by
  induction calls using List.reverseRecOn with
  | nil => rfl
  | append_singleton calls c ih =>
      rw [List.flatMap_append, lastSeen_append, ih, List.filterMap_append, List.getLast?_append,
        List.flatMap_singleton, lastSeen_events]
      cases h : c.tells code <;> simp [h]

/-! ## The buttons that calls leave held -/

/-- Whether a call is about the button of a name, as a toggle or a click of it or as the release of all. -/
def Call.Concerns (name : String) : Call → Prop
  | move _ _ => False
  | click n _ => n = name
  | toggle n _ => n = name
  | releaseAll => True

/-- **The calls leave a button held**: its latest toggle is a press, and no click of it and no release of all buttons
comes later. -/
def Gripped (name : String) (calls : List Call) : Prop :=
  ∃ before after, calls = before ++ .toggle name true :: after ∧ ∀ c ∈ after, ¬ c.Concerns name

/-- A button has one name. -/
theorem name_of_code {name other : String} {code : Nat} (h : buttonCodes.lookup name = some code)
    (h' : buttonCodes.lookup other = some code) : other = name := by
  have hall : ∀ p ∈ buttonCodes, ∀ q ∈ buttonCodes, p.2 = q.2 → p.1 = q.1 := by decide
  obtain ⟨_, _, hname, -⟩ := List.lookup_eq_some_iff.mp h
  obtain ⟨_, _, hother, -⟩ := List.lookup_eq_some_iff.mp h'
  exact hall (other, code) (hother ▸ List.mem_append_right _ List.mem_cons_self) (name, code)
    (hname ▸ List.mem_append_right _ List.mem_cons_self) rfl

/-- No button is called like a wheel direction. -/
theorem wheel_of_button {name : String} {code : Nat} (h : buttonCodes.lookup name = some code) :
    wheelTicks.lookup name = none := by
  have hall : ∀ p ∈ buttonCodes, wheelTicks.lookup p.1 = none := by decide
  obtain ⟨_, _, hname, -⟩ := List.lookup_eq_some_iff.mp h
  exact hall (name, code) (hname ▸ List.mem_append_right _ List.mem_cons_self)

theorem tells_press_iff {code : Nat} {c : Call} :
    c.tells code = some true ↔ ∃ name, buttonCodes.lookup name = some code ∧ c = .toggle name true := by
  cases c with
  | toggle name down =>
      simp only [Call.tells, Option.ite_none_right_eq_some, Option.some.injEq, Call.toggle.injEq]
      exact ⟨fun ⟨h, hdown⟩ => ⟨name, h, rfl, hdown⟩, fun ⟨_, h, he, hdown⟩ => ⟨he ▸ h, hdown⟩⟩
  | _ => simp [Call.tells]

/-- A call says nothing of the button of a name exactly when it is not about it. -/
theorem tells_none_iff {name : String} {code : Nat} (h : buttonCodes.lookup name = some code) (c : Call) :
    c.tells code = none ↔ ¬ c.Concerns name := by
  have hsame : ∀ n, buttonCodes.lookup n = some code ↔ n = name := fun n => ⟨name_of_code h, fun he => he ▸ h⟩
  cases c with
  | move dx dy => simp [Call.tells, Call.Concerns]
  | click n double =>
      have hwheel : wheelTicks.lookup n = none ∧ buttonCodes.lookup n = some code ↔ n = name :=
        ⟨fun hboth => (hsame n).mp hboth.2, fun he => ⟨he ▸ wheel_of_button h, (hsame n).mpr he⟩⟩
      rw [Call.tells, if_congr hwheel rfl rfl, Call.Concerns]
      by_cases he : n = name <;> simp [he]
  | toggle n down => simp [Call.tells, Call.Concerns, hsame]
  | releaseAll =>
      obtain ⟨_, _, hname, -⟩ := List.lookup_eq_some_iff.mp h
      have hcode : code ∈ buttonCodes.map Prod.snd :=
        List.mem_map.mpr ⟨(name, code), hname ▸ List.mem_append_right _ List.mem_cons_self, rfl⟩
      simp [Call.tells, Call.Concerns, hcode]

/-- **The device sees held what the calls leave held.** -/
theorem holds_iff_gripped (code : Nat) (calls : List Call) :
    Holds code (calls.flatMap Call.events) ↔ ∃ name, buttonCodes.lookup name = some code ∧ Gripped name calls := by
  unfold Holds
  rw [lastSeen_calls, List.getLast?_filterMap, List.findSome?_eq_some_iff]
  constructor
  · rintro ⟨later, c, earlier, hcalls, htells, hlater⟩
    obtain ⟨name, hname, rfl⟩ := tells_press_iff.mp htells
    refine ⟨name, hname, earlier.reverse, later.reverse, ?_, fun c hc => ?_⟩
    · rw [← List.reverse_reverse calls, hcalls]
      simp
    · exact (tells_none_iff hname c).mp (hlater c (List.mem_reverse.mp hc))
  · rintro ⟨name, hname, before, after, rfl, hafter⟩
    refine ⟨after.reverse, .toggle name true, before.reverse, by simp, tells_press_iff.mpr ⟨name, hname, rfl⟩, ?_⟩
    intro c hc
    exact (tells_none_iff hname c).mpr (hafter c (List.mem_reverse.mp hc))

/-! ## A row of calls -/

/-- **Every write takes effect, a call that fails has written nothing, and the device sees held what was gripped.** In
any row of calls, each call that moves by numbers with a whole part, or does not move, follows every write with a
synchronisation before it ends, and writes nothing if it fails. And the device sees exactly the buttons held whose
latest toggle was a press, with no click of the button and no release of all buttons later. -/
theorem calls_synced_and_held (calls : List Call) :
    (∀ c ∈ calls, c.Measured → Synced c.events ∧ (c.answer.fault ≠ none → c.answer.effects = [])) ∧
    ∀ code, Holds code (calls.flatMap Call.events) ↔
      ∃ name, buttonCodes.lookup name = some code ∧ Gripped name calls :=
  ⟨fun _ _ hc => call_synced hc, fun code => holds_iff_gripped code calls⟩

/-- Two buttons go down, one of them is clicked twice, and there are a wheel, a movement and a name that is none. -/
def dragging : List Call :=
  [.toggle "left" true, .toggle "right" true, .click "wheelUp" true, .click "right" true,
    .move (.whole 3) (.whole (-4)), .toggle "wheelUp" true, .click "middle" true]

theorem calls_synced_and_held_dragging :
    (∀ c ∈ dragging, c.Measured) ∧ (∀ c ∈ dragging, Synced c.events) ∧
    (Call.click "middle" true).answer.fault = some (.unknownPointerButton "middle") ∧
    Holds 272 (dragging.flatMap Call.events) ∧ ¬ Holds 273 (dragging.flatMap Call.events) := by
  obtain ⟨hsynced, hheld⟩ := calls_synced_and_held dragging
  have hmeasured : ∀ c ∈ dragging, c.Measured := by
    simp [dragging, Call.Measured, Number.truncate]
  refine ⟨hmeasured, fun c hc => (hsynced c hc (hmeasured c hc)).1, rfl, ?_, ?_⟩
  · refine (hheld 272).mpr ⟨"left", rfl, [], _, rfl, ?_⟩
    simp [Call.Concerns]
  · unfold Holds
    decide

end PadScribe.Pointer
