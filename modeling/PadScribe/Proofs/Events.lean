import PadScribe.Proofs.Installing

/-!
# `Proofs.Events` — runs of the whole program

A running program takes in one `Event` after another: inputs from the controllers and from spoken lines, which
have to pass the gate, results of recognizers, which do not, the switch of the user, configurations that are
read again, and the heads of the two queues. An event that fails leaves the state behind that it had reached.

`Walk` is a row of moves in which the inputs are listed that the modes are handed on the way. Between two
reloads every event is such a walk.

## Contents

* `Event`, `Event.act`, `run` — events and runs
* `Wired` — the modes of a running program
* `Walk` — rows of moves with the inputs handed on
* `build_wired`, `act_wired`, `run_wired` — the modes stay wired
* `guard_cases`, `guard_keeps`, `guard_value`, `dispatch_on`, `dispatch_off` — the gate
* `StepClass.receive`, `hear_moves` — reports of controllers and results of recognizers
* `act_walk` — what an event can do
-/

namespace PadScribe

/-- What a running program takes in. -/
inductive Event where
  /-- An input that is sent through the gate. -/
  | input (inp : Input)
  /-- A report of a controller, whose inputs are sent through the gate. -/
  | report (device : Option Device) (report : Report)
  /-- A spoken line, which is sent through the gate. -/
  | line (text : String)
  /-- A result of a recognizer. -/
  | result (recognizer : Nat) (text : String)
  /-- The user switches the program on or off. -/
  | enable (on : Bool)
  /-- The user switches the program over. -/
  | toggle
  /-- A configuration is read again. -/
  | reload (cfg : Config)
  /-- The head of a queue is run. -/
  | work (queue : Queue)

/-- What the program does on an event. -/
def Event.act (desk : Desk) : Event → Step Unit
  | input inp => dispatch desk inp
  | report device r => receive desk (dispatch desk) device r
  | line text => speakLine desk text
  | result i text => hear i text
  | enable on => setEnabled on
  | toggle => do let _ ← toggleEnabled; return
  | reload cfg => PadScribe.reload cfg
  | work q => runHead desk q

/-- The state after a row of events. -/
def run (desk : Desk) (es : List Event) (s : Studio) : Studio :=
  es.foldl (fun s e => after (e.act desk) s) s

variable {desk : Desk} {said : String → Prop} {s s' : Studio}

theorem run_append (es : List Event) (e : Event) (s : Studio) :
    run desk (es ++ [e]) s = after (e.act desk) (run desk es s) := by
  simp [run]

/-- A switch that spoken text leaves as it is. -/
def Switch.Deaf (k : Switch) : Prop :=
  ∀ text, k.change (.spoken text) = .none

/-- **The modes of a running program**: their ids are all different, one of them is the current mode, and
spoken text neither turns a shift on or off nor leads back to the default mode. -/
structure Wired (s : Studio) : Prop where
  nodup : (s.manager.modes.map Mode.id).Nodup
  current : s.manager.currentMode?.isSome
  deaf : ∀ k ∈ s.manager.shifts, k.switch.Deaf
  exit : ∀ c, s.manager.exit = some c → ∀ text, c.holds (.spoken text) = false

/-- Modes are wired whatever else the state holds. -/
theorem wired_of_manager (hw : Wired s) (h : s'.manager = s.manager) : Wired s' :=
  ⟨h ▸ hw.nodup, h ▸ hw.current, h ▸ hw.deaf, h ▸ hw.exit⟩

/-- **A row of moves** with the inputs that the modes are handed on the way. -/
inductive Walk (desk : Desk) (said : String → Prop) (s : Studio) : List Input → Studio → Prop where
  | refl : Walk desk said s [] s
  | move {is : List Input} {t u : Studio} (walk : Walk desk said s is t) (move : Move desk (Mark.all said) t u) :
      Walk desk said s is u
  | hand {is : List Input} {t : Studio} (walk : Walk desk said s is t) (inp : Input) :
      Walk desk said s (is ++ [inp]) (handed inp t)

theorem walk_trans {is js : List Input} {t u : Studio} (h : Walk desk said s is t)
    (h' : Walk desk said t js u) : Walk desk said s (is ++ js) u := by
  induction h' with
  | refl => simpa using h
  | move _ hm ih => exact .move ih hm
  | hand _ inp ih => simpa using Walk.hand ih inp

theorem moves_walk (h : Moves desk (Mark.all said) s s') : Walk desk said s [] s' := by
  induction h with
  | refl => exact .refl
  | tail _ hm ih => exact .move ih hm

/-! ## What moves keep -/

theorem currentMode_isSome_of_setup {m m' : Manager} {id : String} (hs : m'.setup = m.setup)
    (hc : m'.current = some id) (hf : (m.find? id).isSome) : m'.currentMode?.isSome := by
  unfold Manager.currentMode?
  rw [hc]
  exact (find_isSome_of_setup hs id).trans hf

/-- A switch on a button or a stick zone does not listen to spoken text. -/
theorem deaf_of_controller {k : Switch} (h : k.OfController) : k.Deaf := by
  intro text
  rcases h with ⟨which, rfl⟩ | ⟨side, direction, rfl⟩
  · rfl
  · rfl

/-- A deaf switch is not turned off by spoken text. -/
theorem off_of_deaf {k : Switch} (h : k.Deaf) (text : String) : k.off.holds (.spoken text) = false := by
  have hk := h text
  unfold Switch.change at hk
  split at hk
  · exact absurd hk (by simp)
  · split at hk
    · exact absurd hk (by simp)
    · simp_all

theorem deaf_of_setup {m m' : Manager} (h : m'.setup = m.setup) (hd : ∀ k ∈ m.shifts, k.switch.Deaf) :
    ∀ k ∈ m'.shifts, k.switch.Deaf := by
  intro k hk
  have hmem : k.rest ∈ m.shifts.map Shift.rest := by
    have hs : m'.shifts.map Shift.rest = m.shifts.map Shift.rest := congrArg Manager.shifts h
    exact hs ▸ List.mem_map.mpr ⟨k, hk, rfl⟩
  obtain ⟨k₀, hk₀, hrest⟩ := List.mem_map.mp hmem
  have hswitch : k₀.switch.reset = k.switch.reset := congrArg Shift.switch hrest
  intro text
  show k.switch.reset.change (.spoken text) = .none
  rw [← hswitch]
  exact hd k₀ hk₀ text

theorem move_wired {may : Mark → Prop} (h : Move desk may s s') (hw : Wired s) : Wired s' := by
  obtain ⟨hn, hc, hd, he⟩ := hw
  refine ⟨nodup_of_setup (move_setup h) hn, ?_, deaf_of_setup (move_setup h) hd, ?_⟩
  · cases h with
    | latch m setup current _ _ =>
        cases hid : s.manager.current with
        | none => simp [Manager.currentMode?, hid] at hc
        | some id =>
            refine currentMode_isSome_of_setup setup (current.trans hid) ?_
            simpa [Manager.currentMode?, hid] using hc
    | enter id found _ => exact currentMode_isSome_of_setup (setup_enteredOf _ id) rfl found
    | pass id mode inp current found setup _ =>
        exact currentMode_isSome_of_setup setup current (by simp [found])
    | _ => exact hc
  · cases h with
    | latch m _ _ exit _ =>
        intro c hm text
        -- a new way back is the off condition of a shift, and shifts are deaf
        rcases exit c hm with hold | hoff
        · exact he c hold text
        · obtain ⟨k, hk, rfl⟩ := List.mem_map.mp hoff
          exact off_of_deaf (hd k hk) text
    | enter id _ _ => exact fun c hm => he c (exit_enteredOf s.manager id ▸ hm)
    | _ => exact he

theorem walk_wired {is : List Input} (h : Walk desk said s is s') (hw : Wired s) : Wired s' := by
  induction h with
  | refl => exact hw
  | move _ hm ih => exact move_wired hm ih
  | hand _ inp ih => exact wired_of_manager ih rfl

/-! ## The gate -/

/-- What the gate grants between two states: from a wired state a row of changes leads to a wired state, and
while the program is off no input is handed on and the program stays off. -/
def Gated (desk : Desk) (said : String → Prop) (s s' : Studio) : Prop :=
  Wired s → Wired s' ∧ ∃ is, Walk desk said s is s' ∧
    (s.control.enabled = false → is = [] ∧ s'.control.enabled = false)

theorem gated_refl (s : Studio) : Gated desk said s s :=
  fun hw => ⟨hw, [], .refl, fun hoff => ⟨rfl, hoff⟩⟩

theorem gated_trans {s t u : Studio} (h : Gated desk said s t) (h' : Gated desk said t u) :
    Gated desk said s u := by
  intro hw
  obtain ⟨ht, is, hwalk, hoff⟩ := h hw
  obtain ⟨hu, js, hwalk', hoff'⟩ := h' ht
  refine ⟨hu, is ++ js, walk_trans hwalk hwalk', fun hs => ?_⟩
  obtain ⟨rfl, ht'⟩ := hoff hs
  obtain ⟨rfl, hu'⟩ := hoff' ht'
  exact ⟨rfl, hu'⟩

/-- Moves that leave the switch of the user alone. -/
theorem gated_moves (h : Moves desk (Mark.all said) s s') (hc : s'.control.enabled = s.control.enabled) :
    Gated desk said s s' :=
  fun hw => ⟨walk_wired (moves_walk h) hw, [], moves_walk h, fun hoff => ⟨rfl, hc ▸ hoff⟩⟩

/-- Moves without marks. -/
theorem unmarked_gated (h : Moves desk (fun _ => False) s s') : Gated desk said s s' :=
  gated_moves (moves_mono (fun _ h => h.elim) h) (moves_flag id h).1

theorem gated_bind {α β : Type} {x : Step α} {f : α → Step β} (hx : Gated desk said s (after x s))
    (hf : ∀ a t, x s = .ok a t → Gated desk said t (after (f a) t)) :
    Gated desk said s (after (x >>= f) s) :=
  after_bind_rel (R := Gated desk said) gated_trans hx hf

/-- The gate sees nothing new. -/
theorem guard_seen (h : s.control.enabled = s.observedEnabled) : guard desk s = .ok s.control.enabled s := by
  unfold guard
  rw [bind_apply, get_apply]
  simp only []
  rw [if_pos h]
  rfl

/-- The gate sees that the program was switched on. -/
theorem guard_on (h : s.control.enabled = true) (hne : s.observedEnabled = false) :
    guard desk s = .ok true { s with observedEnabled := true } := by
  unfold guard
  rw [bind_apply, get_apply]
  simp only [h, hne]
  rfl

/-- The gate sees that the program was switched off: the pointer buttons are released. -/
theorem guard_off (h : s.control.enabled = false) (hne : s.observedEnabled = true) :
    guard desk s
      = (respond (desk.pointer .releaseAll) >>= fun _ => pure false) { s with observedEnabled := false } := by
  unfold guard
  rw [bind_apply, get_apply]
  simp only [h, hne]
  rfl

/-- **What the gate sees**: what it saw last, that the program was switched on, or that it was switched off. -/
theorem guard_cases (desk : Desk) (s : Studio) :
    (s.control.enabled = s.observedEnabled ∧ guard desk s = .ok s.control.enabled s) ∨
    (s.control.enabled = true ∧ s.observedEnabled = false ∧
      guard desk s = .ok true { s with observedEnabled := true }) ∨
    (s.control.enabled = false ∧ s.observedEnabled = true ∧
      guard desk s
        = (respond (desk.pointer .releaseAll) >>= fun _ => pure false) { s with observedEnabled := false }) := by
  by_cases hseen : s.control.enabled = s.observedEnabled
  · exact .inl ⟨hseen, guard_seen hseen⟩
  · cases hon : s.control.enabled with
    | true =>
        have hne : s.observedEnabled = false := by simpa [hon] using Ne.symm hseen
        exact .inr (.inl ⟨rfl, hne, guard_on hon hne⟩)
    | false =>
        have hne : s.observedEnabled = true := by simpa [hon] using Ne.symm hseen
        exact .inr (.inr ⟨rfl, hne, guard_off hon hne⟩)

/-- The gate lets inputs pass while the program is on. -/
theorem guard_open (h : s.control.enabled = true) :
    guard desk s = .ok true { s with observedEnabled := true } := by
  cases hseen : s.observedEnabled with
  | true =>
      have hsame : s = { s with observedEnabled := true } := by rw [← hseen]
      rw [guard_seen (h.trans hseen.symm), h, ← hsame]
  | false => exact guard_on h hseen

/-- What the gate leaves behind when it sees that the program was switched off. -/
theorem after_guard_off (h : s.control.enabled = false) (hne : s.observedEnabled = true) :
    after (guard desk) s
      = { s with observedEnabled := false, record := s.record ++ (desk.pointer .releaseAll).effects } := by
  rw [after_eq (guard_off h hne)]
  unfold after
  rw [bind_apply, respond_apply]
  cases (desk.pointer .releaseAll).fault <;> rfl

/-- The gate leaves the modes and the queue of short work alone. -/
theorem guard_keeps (s : Studio) :
    (after (guard desk) s).manager = s.manager ∧ (after (guard desk) s).pool = s.pool := by
  rcases guard_cases desk s with ⟨-, hsame⟩ | ⟨-, -, hopens⟩ | ⟨hoff, hne, -⟩
  · rw [after_ok hsame]
    exact ⟨rfl, rfl⟩
  · rw [after_ok hopens]
    exact ⟨rfl, rfl⟩
  · rw [after_guard_off hoff hne]
    exact ⟨rfl, rfl⟩

/-- **The gate** looks at the switch of the user and leaves the modes alone. -/
theorem guard_gated (s : Studio) : Gated desk said s (after (guard desk) s) := by
  rcases guard_cases desk s with ⟨-, hsame⟩ | ⟨-, -, hopens⟩ | ⟨-, -, hshuts⟩
  · rw [after_ok hsame]
    exact gated_refl s
  · rw [after_ok hopens]
    exact gated_moves (moves_single (.see s true trivial)) rfl
  · rw [after_eq hshuts]
    refine gated_trans (gated_moves (moves_single (.see s false trivial)) rfl) ?_
    refine gated_bind ?_ fun _ t _ => gated_refl t
    exact gated_moves (grip_moves rfl trivial _) (by rw [after_respond])

/-- The gate lets inputs pass exactly while the program is on. -/
theorem guard_value {b : Bool} (h : guard desk s = .ok b s') : b = s.control.enabled := by
  rcases guard_cases desk s with ⟨-, hsame⟩ | ⟨hon, -, hopens⟩ | ⟨hoff, -, hshuts⟩
  · rw [hsame] at h
    exact (EStateM.Result.ok.inj h).1.symm
  · rw [hopens] at h
    exact (EStateM.Result.ok.inj h).1.symm.trans hon.symm
  · rw [hshuts] at h
    obtain ⟨_, t, _, hb⟩ := bind_ok h
    exact (EStateM.Result.ok.inj hb).1.symm.trans hoff.symm

/-- An input that is sent while the program is on is handed to the modes. -/
theorem dispatch_on (inp : Input) (h : s.control.enabled = true) :
    dispatch desk inp s = handle desk inp { s with observedEnabled := true } := by
  unfold dispatch
  rw [bind_apply, guard_open h]
  rfl

/-- An input that is sent while the program is off is lost. -/
theorem dispatch_off (inp : Input) (h : s.control.enabled = false) :
    after (dispatch desk inp) s = after (guard desk) s := by
  unfold dispatch
  cases hguard : guard desk s with
  | error fault t => rw [after_bind_error hguard, after_error hguard]
  | ok b t =>
      obtain rfl : b = false := (guard_value hguard).trans h
      rw [after_bind_ok hguard, after_ok hguard]
      rfl

/-- **An input that the modes are handed** is the only one on its walk. -/
theorem handle_walk (inp : Input) (hw : Wired s) :
    Walk desk said s [inp] (after (handle desk inp) s) := by
  have hm : Moves desk (Mark.all said) (handed inp s) (after (handle desk inp) s) :=
    handle_moves (fun _ => trivial) trivial hw.nodup
  exact walk_trans (.hand .refl inp) (moves_walk hm)

/-- **An input that is sent through the gate** reaches the modes only while the program is on. -/
theorem dispatch_gated (inp : Input) (s : Studio) : Gated desk said s (after (dispatch desk inp) s) := by
  unfold dispatch
  intro hw
  cases hg : guard desk s with
  | error e t =>
      -- releasing the pointer buttons failed, and the input is lost
      rw [after_bind_error hg, ← after_error hg]
      exact guard_gated s hw
  | ok b t =>
      rw [after_bind_ok hg]
      have hgate : Gated desk said s t := after_ok hg ▸ guard_gated s
      obtain ⟨ht, is, hwalk, hoff⟩ := hgate hw
      cases b with
      | false => exact ⟨ht, is, hwalk, hoff⟩
      | true =>
          -- the gate has let the input pass, so the program was on
          have hh : Walk desk said t [inp] (after (handle desk inp) t) := handle_walk inp ht
          have hon : s.control.enabled = true := (guard_value hg).symm
          exact ⟨walk_wired hh ht, is ++ [inp], walk_trans hwalk hh, fun hs => absurd hon (by simp [hs])⟩

/-! ## Events -/

/-- **A report of a controller** is a row of inputs without a text that are sent through the gate, and of notices: what
these have in common, the report has. -/
theorem StepClass.receive {P : ∀ {α : Type}, Step α → Studio → Prop} (h : StepClass P) {device : Option Device}
    (send : ∀ inp s, inp.device = device → inp.said? = none → P (dispatch desk inp) s)
    (notice : ∀ q s, P (respond (desk.notifier q)) s) (drop : ∀ s, P (emit .disconnect) s) (r : Report)
    (s : Studio) : P (receive desk (dispatch desk) device r) s := by
  have hside : ∀ s, P (deviceSide device) s := by
    intro s
    cases device with
    | none => exact h.throw _ s
    | some d => exact h.pure _ s
  cases r with
  | button down up current => exact send _ s rfl rfl
  | stick side current previous =>
      -- the position first, and then the zone that it entered or left
      refine h.bind (send _ s rfl rfl) fun _ t _ => ?_
      refine h.look (fun _ => rfl) ?_
      cases hzone : stickEvent? t.settings device side current previous with
      | error fault =>
          refine h.bind (h.throw fault t) fun _ _ hthrow => ?_
          cases hthrow
      | ok zone =>
          refine h.bind (h.pure zone t) fun found u hu => ?_
          obtain ⟨rfl, rfl⟩ := EStateM.Result.ok.inj hu
          cases zone with
          | none => exact h.pure _ t
          | some inp =>
              unfold stickEvent? at hzone
              split at hzone
              · exact absurd hzone (by simp)
              · exact absurd hzone (by simp)
              · obtain rfl := Option.some.inj (Except.ok.inj hzone)
                exact send _ t rfl rfl
  | gyro frame => exact send _ s rfl rfl
  | battery level charging => exact h.bind (hside s) fun _ t _ => notice _ t
  | calibrated => exact h.bind (hside s) fun _ t _ => notice _ t
  | readWriteError =>
      refine h.bind (hside s) fun _ t _ => ?_
      exact h.bind (notice _ t) fun _ u _ => drop u

/-- What a transitive relation says of inputs that are sent through the gate and of moves without marks, it says of
a report. -/
theorem receive_rel {R : Studio → Studio → Prop} (trans : ∀ {a b c : Studio}, R a b → R b c → R a c)
    (moves : ∀ {s s'}, Moves desk (fun _ => False) s s' → R s s')
    (send : ∀ inp s, R s (after (dispatch desk inp) s)) (device : Option Device) (r : Report) (s : Studio) :
    R s (after (receive desk (dispatch desk) device r) s) := by
  have hsteps : StepClass (fun x s => R s (after x s)) := stepClass_of_rel (fun _ => moves .refl) trans
  refine hsteps.receive (fun inp s _ _ => send inp s) (fun q s => moves ?_) (fun s => moves ?_) r s
  · exact respond_moves (.inr (.inr ⟨q, rfl⟩)) s
  · exact emit_moves ⟨rfl, rfl, rfl⟩ s

theorem receive_gated (device : Option Device) (r : Report) (s : Studio) :
    Gated desk said s (after (receive desk (dispatch desk) device r) s) :=
  receive_rel (R := Gated desk said) gated_trans unmarked_gated dispatch_gated device r s

theorem speakLine_gated (line : String) (s : Studio) : Gated desk said s (after (speakLine desk line) s) := by
  unfold speakLine
  simp only []
  split
  · exact gated_refl s
  · exact dispatch_gated _ s

/-- A result of a recognizer is put off, whether the program is on or off. -/
theorem hear_moves {may : Mark → Prop} (i : Nat) (text : String) (s : Studio) :
    Moves desk may s (after (hear i text) s) :=
  moves_work.hear trivial text s

/-- The input that the head of the short work hands to the modes, if an event runs that head. -/
def Event.handsOn (s : Studio) : Event → Option Input
  | work .pool => s.pool.head?.bind Task.input?
  | _ => none

theorem runHead_speech_walk
    (hs : ∀ commands ∈ s.speech.head?, ∀ text, text ≠ "" → .replay text ∈ commands → said text) :
    Walk desk said s [] (after (runHead desk .speech) s) := by
  cases hq : s.speech with
  | nil =>
      rw [runHead_speech_empty hq]
      exact .refl
  | cons commands rest =>
      rw [runHead_speech hq]
      have htake : Move desk (Mark.all said) s { s with speech := rest } := by
        simpa [hq] using @Move.takeUtterance desk (Mark.all said) s trivial
      have hm : Moves desk (Mark.all said) { s with speech := rest }
          (after (perform desk [] commands) { s with speech := rest }) :=
        perform_moves commands [] (hs commands (by simp [hq])) _
      exact moves_walk (.head htake (recordFailure_moves hm))

theorem runHead_pool_walk (hw : Wired s) :
    Walk desk said s (s.pool.head?.bind Task.input?).toList (after (runHead desk .pool) s) := by
  cases hq : s.pool with
  | nil =>
      rw [runHead_pool_empty hq]
      exact .refl
  | cons t rest =>
      rw [runHead_pool hq]
      have htake : Move desk (Mark.all said) s { s with pool := rest } := by
        simpa [hq] using @Move.takeWork desk (Mark.all said) s trivial
      have hwalk : Walk desk said s [] { s with pool := rest } := moves_walk (moves_single htake)
      cases ht : t.input? with
      | none =>
          have hm : Moves desk (Mark.all said) { s with pool := rest }
              (after (t.run desk) { s with pool := rest }) := work_moves ht (fun _ _ => trivial) _
          simpa [ht] using walk_trans hwalk (moves_walk (recordFailure_moves hm))
      | some inp =>
          have hm : Moves desk (Mark.all said) (handed inp { s with pool := rest })
              (after (t.run desk) { s with pool := rest }) := by
            rw [work_handles ht]
            exact handle_moves (fun _ => trivial) trivial hw.nodup
          simpa [ht] using walk_trans (.hand hwalk inp) (moves_walk (recordFailure_moves hm))

/-- **An event between two reloads** is a walk. While the program is off, the modes are handed only what the
head of the short work hands on. -/
theorem act_walk {e : Event} (he : ∀ cfg, e ≠ .reload cfg) (hw : Wired s)
    (hs : ∀ commands ∈ s.speech.head?, ∀ text, text ≠ "" → .replay text ∈ commands → said text) :
    ∃ is, Walk desk said s is (after (e.act desk) s) ∧
      (s.control.enabled = false → is = (e.handsOn s).toList) := by
  have hgated : ∀ {t}, e.handsOn s = none → Gated desk said s t → ∃ is, Walk desk said s is t ∧
      (s.control.enabled = false → is = (e.handsOn s).toList) := by
    intro t hn hg
    obtain ⟨_, is, hwalk, hoff⟩ := hg hw
    refine ⟨is, hwalk, fun h => ?_⟩
    rw [(hoff h).1, hn]
    rfl
  cases e with
  | input inp => exact hgated rfl (dispatch_gated inp s)
  | report device r => exact hgated rfl (receive_gated device r s)
  | line text => exact hgated rfl (speakLine_gated text s)
  | result i text => exact hgated rfl (unmarked_gated (hear_moves i text s))
  | enable on => exact ⟨[], moves_walk (moves_single (.turn s on trivial)), fun _ => rfl⟩
  | toggle => exact ⟨[], moves_walk (moves_single (.turn s _ trivial)), fun _ => rfl⟩
  | reload cfg => exact absurd rfl (he cfg)
  | work q =>
      cases q with
      | pool => exact ⟨_, runHead_pool_walk hw, fun _ => rfl⟩
      | speech => exact ⟨[], runHead_speech_walk hs, fun _ => rfl⟩

/-! ## Configurations -/

theorem installed_wired {modes : List Mode} {shifts : List Shift} {first : Mode}
    (hf : first ∈ modes.head?) {cfg : Config} (hc : Compiled cfg modes shifts) :
    Wired (s.installed modes shifts first) := by
  have hs := setup_enteredOf (Manager.fresh modes shifts first) first.id
  refine ⟨nodup_of_setup hs hc.nodup, currentMode_isSome_of_setup hs rfl ?_,
    deaf_of_setup hs fun k hmem => deaf_of_controller (hc.shifts k hmem), ?_⟩
  · cases modes with
    | nil => exact absurd hf (by simp)
    | cons m rest =>
        obtain rfl : m = first := by simpa using hf
        simp [Manager.find?, Manager.fresh]
  · intro c hexit
    have hnone := exit_enteredOf (Manager.fresh modes shifts first) first.id
    exact absurd (hexit.symm.trans hnone) (by simp [Manager.fresh])

/-- **Configurations that are read again** leave the modes wired. -/
theorem reload_wired (cfg : Config) (hw : Wired s) : Wired (after (reload cfg) s) := by
  rcases reload_cases cfg s with ⟨made, fault, h⟩ | ⟨made, modes, shifts, first, hf, hc, h⟩
  · rw [after_error h]
    exact wired_of_manager hw rfl
  · rw [after_ok h]
    have hi : Wired ((s.withRecognizers made).installed modes shifts first) :=
      installed_wired hf (compileRules_compiled hc).2
    exact wired_of_manager hi rfl

theorem act_wired (e : Event) (hw : Wired s) : Wired (after (e.act desk) s) := by
  by_cases he : ∃ cfg, e = .reload cfg
  · obtain ⟨cfg, rfl⟩ := he
    exact reload_wired cfg hw
  · have hs : ∀ commands ∈ s.speech.head?, ∀ text, text ≠ "" → .replay text ∈ commands → True :=
      fun _ _ _ _ _ => trivial
    obtain ⟨is, hwalk, _⟩ : ∃ is, Walk desk (fun _ => True) s is (after (e.act desk) s) ∧ _ :=
      act_walk (fun cfg h => he ⟨cfg, h⟩) hw hs
    exact walk_wired hwalk hw

/-- **Every run leaves the modes wired.** -/
theorem run_wired (es : List Event) (hw : Wired s) : Wired (run desk es s) :=
  afterAll_keep (fun e _ => act_wired e) es hw

/-- A configuration whose program passes a test is one that is built. -/
theorem exists_built {cfg : Config} {start : Studio} {test : Studio → Bool}
    (h : (Studio.build cfg start).toOption.any test = true) :
    ∃ s, Studio.build cfg start = .ok s ∧ test s = true := by
  cases hb : Studio.build cfg start with
  | error fault =>
      rw [hb] at h
      exact absurd h (by simp [Except.toOption])
  | ok s =>
      rw [hb] at h
      exact ⟨s, rfl, h⟩

theorem build_wired {cfg : Config} {start : Studio} (h : Studio.build cfg start = .ok s) : Wired s := by
  obtain ⟨made, modes, shifts, first, hf, hc, rfl⟩ := build_installed h
  have hi : Wired ((start.withRecognizers made).installed modes shifts first) := installed_wired hf hc
  exact wired_of_manager hi rfl

end PadScribe
