import PadScribe.Proofs.Events
import PadScribe.Proofs.Work

/-!
# `Proofs.Overlooking` — recognizers that nobody asks

A running program asks its recognizers by number: the lines of its modes, and of the work in its queue, each
have the number of a recognizer that was made for them (`Numbered`). So recognizers that are added after those
there are meet nobody. Everything that happens, apart from reading a configuration, does the same with them as
without them, and leaves them as they are (`Overlooks`).

## Contents

* `Studio.Numbered` — the recognizers that the modes and the work in the queue may ask
* `Studio.more`, `onState`, `Overlooks` — steps that run the same with more recognizers
* `overlooks_work` — work that hands on no input
* `overlooks_switchTo` … `overlooks_handle` — inputs
* `overlooks_act` — every event but reading a configuration
-/

namespace PadScribe

/-! ## Numbers of recognizers -/

/-- The recognizer of a mode. -/
def Mode.recognizer? (m : Mode) : Option Nat :=
  match m.kind with
  | .speech line => line.recognizer
  | _ => none

@[simp] theorem recognizer?_entered (m : Mode) : m.entered.recognizer? = m.recognizer? := by
  unfold Mode.recognizer? Mode.entered Mode.setPaused
  cases m.kind <;> rfl

@[simp] theorem recognizer?_left (m : Mode) : m.left.recognizer? = m.recognizer? := by
  unfold Mode.recognizer? Mode.left Mode.setPaused
  cases m.kind <;> rfl

/-- Modes whose recognizers have numbers up to `n`. -/
def Manager.Numbered (n : Nat) (m : Manager) : Prop :=
  ∀ mode ∈ m.modes, ∀ i, mode.recognizer? = some i → i < n

/-- Work that asks recognizers with numbers up to `n`. -/
def Task.Numbered (n : Nat) (t : Task) : Prop :=
  ∀ line, t.line? = some line → line.Asks (· < n)

/-- **A state with `n` recognizers**, which are all that its modes and the work in its queue may ask. -/
structure Studio.Numbered (n : Nat) (s : Studio) : Prop where
  count : s.recognizers.length = n
  manager : s.manager.Numbered n
  pool : ∀ t ∈ s.pool, t.Numbered n

variable {desk : Desk} {α β : Type} {n : Nat} {extra : List Recognizer} {s s' : Studio}

theorem manager_numbered_update {m : Manager} (h : m.Numbered n) (id : String) {f : Mode → Mode}
    (hf : ∀ x, (f x).recognizer? = x.recognizer?) : (m.update id f).Numbered n := by
  intro mode hmode i hi
  obtain ⟨x, hx, rfl⟩ := List.mem_map.mp hmode
  refine h x hx i ?_
  split at hi
  · rwa [hf] at hi
  · exact hi

theorem manager_numbered_enteredOf {m : Manager} (h : m.Numbered n) (id : String) :
    (m.enteredOf id).Numbered n := by
  have hleft : m.leftCurrent.Numbered n := by
    unfold Manager.leftCurrent
    cases m.current with
    | none => exact h
    | some current => exact manager_numbered_update h current recognizer?_left
  exact manager_numbered_update hleft id recognizer?_entered

theorem task_numbered_of_line {t : Task} (h : t.line? = none) : t.Numbered n := by
  intro line hline
  exact absurd (h.symm.trans hline) (by simp)

theorem gyroTasks_line (inp : Option Input) (on : Bool) : ∀ t ∈ Mode.gyroTasks inp on, t.line? = none := by
  intro t ht
  unfold Mode.gyroTasks at ht
  split at ht
  · rw [List.mem_singleton.mp ht]
    rfl
  · exact absurd ht (by simp)

/-- A mode's own line asks the mode's recognizer. -/
theorem line_numbered {mode : Mode} {line : SpeechLine} (hk : mode.kind = .speech line)
    (h : ∀ i, mode.recognizer? = some i → i < n) : line.Asks (· < n) := by
  intro i hi
  refine h i ?_
  unfold Mode.recognizer?
  rw [hk]
  exact hi

theorem enterTasks_numbered {mode : Mode} (h : ∀ i, mode.recognizer? = some i → i < n) (inp : Option Input) :
    ∀ t ∈ mode.enterTasks inp, t.Numbered n := by
  intro t ht
  unfold Mode.enterTasks at ht
  split at ht
  · exact absurd ht (by simp)
  · exact task_numbered_of_line (gyroTasks_line inp true t ht)
  · rename_i line hk
    split at ht
    · rw [List.mem_singleton.mp ht]
      intro line' hline
      obtain rfl := Option.some.inj hline
      exact line_numbered hk h
    · exact absurd ht (by simp)

theorem exitTasks_numbered {m : Manager} (h : m.Numbered n) (inp : Option Input) :
    ∀ t ∈ m.exitTasks inp, t.Numbered n := by
  intro t ht
  unfold Manager.exitTasks at ht
  split at ht
  · exact absurd ht (by simp)
  · rename_i mode hmode
    obtain ⟨id, _, hf⟩ := Option.bind_eq_some_iff.mp hmode
    unfold Mode.exitTasks at ht
    split at ht
    · exact absurd ht (by simp)
    · exact task_numbered_of_line (gyroTasks_line inp false t ht)
    · rename_i line hk
      split at ht
      · rw [List.mem_singleton.mp ht]
        intro line' hline
        obtain rfl := Option.some.inj hline
        exact line_numbered hk (h mode (find_mem hf))
      · exact absurd ht (by simp)

/-- The work of switches asks no recognizer. -/
theorem passAll_line (switches : List ModeSwitch) (inp : Input) :
    ∀ t ∈ (ModeSwitch.passAll switches inp).2.1, t.line? = none := by
  intro t ht
  have hturns := passAll_turn switches inp t ht
  cases t with
  | gyro | toggle => rfl
  | _ => exact hturns.elim

theorem pool_numbered_append {ts us : List Task} (h : ∀ t ∈ ts, t.Numbered n) (h' : ∀ t ∈ us, t.Numbered n) :
    ∀ t ∈ ts ++ us, t.Numbered n := by
  intro t ht
  exact (List.mem_append.mp ht).elim (h t) (h' t)

/-! ## Steps that overlook more recognizers -/

/-- The studio with more recognizers after those there are. -/
def Studio.more (extra : List Recognizer) (s : Studio) : Studio :=
  { s with recognizers := s.recognizers ++ extra }

/-- What came of a step, with the state changed. -/
def onState (f : Studio → Studio) : EStateM.Result Fault Studio α → EStateM.Result Fault Studio α
  | .ok a s => .ok a (f s)
  | .error e s => .error e (f s)

/-- **A step overlooks more recognizers**: from a state with `n` recognizers it does the same with more of
them, and the numbers stay. -/
def Overlooks (n : Nat) (extra : List Recognizer) (x : Step α) (s : Studio) : Prop :=
  s.Numbered n → x (s.more extra) = onState (Studio.more extra) (x s) ∧ (after x s).Numbered n

/-- A step that goes on as another one does. -/
theorem overlooks_of_eq {x y : Step α} {t : Studio} (hx : x s = y t)
    (hmore : x (s.more extra) = y (t.more extra)) (ht : t.Numbered n) (hy : Overlooks n extra y t) :
    Overlooks n extra x s := by
  intro _
  rw [after_eq hx, hx, hmore]
  exact hy ht

theorem overlooks_pure (a : α) : Overlooks n extra (pure a) s := fun h => ⟨rfl, h⟩

theorem overlooks_throw (e : Fault) : Overlooks n extra (throw e : Step α) s := fun h => ⟨rfl, h⟩

theorem overlooks_bind {x : Step α} {f : α → Step β} (hx : Overlooks n extra x s)
    (hf : ∀ a t, x s = .ok a t → Overlooks n extra (f a) t) : Overlooks n extra (x >>= f) s := by
  intro h
  obtain ⟨hmore, hn⟩ := hx h
  cases ho : x s with
  | ok a t =>
      rw [after_ok ho] at hn
      rw [ho] at hmore
      rw [after_bind_ok ho, bind_apply, bind_apply, hmore, ho]
      exact hf a t ho hn
  | error e t =>
      rw [after_error ho] at hn
      rw [ho] at hmore
      rw [after_bind_error ho, bind_apply, bind_apply, hmore, ho]
      exact ⟨rfl, hn⟩

theorem overlooks_tryCatch {x : Step α} {f : Fault → Step α} (hx : Overlooks n extra x s)
    (hf : ∀ e t, x s = .error e t → Overlooks n extra (f e) t) : Overlooks n extra (tryCatch x f) s := by
  intro h
  obtain ⟨hmore, hn⟩ := hx h
  unfold after
  rw [tryCatch_apply, tryCatch_apply]
  cases ho : x s with
  | ok a t =>
      rw [after_ok ho] at hn
      rw [ho] at hmore
      rw [hmore]
      exact ⟨rfl, hn⟩
  | error e t =>
      rw [after_error ho] at hn
      rw [ho] at hmore
      rw [hmore]
      exact hf e t ho hn

/-- A step that looks at the state, but not at the recognizers. -/
theorem overlooks_get {f : Studio → Step β} (hsame : f (s.more extra) = f s) (hf : Overlooks n extra (f s) s) :
    Overlooks n extra (get >>= f) s := by
  intro h
  have hget : (get : Step Studio) s = .ok s s := rfl
  rw [after_bind_ok hget, bind_apply, bind_apply, get_apply, get_apply]
  simp only [hsame]
  exact hf h

theorem overlooks_modify {f : Studio → Studio} (hsame : f (s.more extra) = (f s).more extra)
    (hn : s.Numbered n → (f s).Numbered n) : Overlooks n extra (modify f) s := by
  intro h
  refine ⟨?_, hn h⟩
  rw [modify_apply, modify_apply, hsame]
  rfl

/-- A step that only changes what is not numbered. -/
theorem overlooks_change {f : Studio → Studio} (hsame : f (s.more extra) = (f s).more extra)
    (hr : (f s).recognizers = s.recognizers) (hm : (f s).manager = s.manager) (hp : (f s).pool = s.pool) :
    Overlooks n extra (modify f) s :=
  overlooks_modify hsame fun h => ⟨hr ▸ h.count, hm ▸ h.manager, hp ▸ h.pool⟩

theorem overlooks_emit (e : Effect) : Overlooks n extra (emit e) s := overlooks_change rfl rfl rfl rfl

theorem overlooks_submit {t : Task} (ht : s.Numbered n → t.Numbered n) : Overlooks n extra (submit t) s :=
  overlooks_modify rfl fun h =>
    ⟨h.count, h.manager, pool_numbered_append h.pool fun _ hu => List.mem_singleton.mp hu ▸ ht h⟩

theorem overlooks_updateManager {f : Manager → Manager} (hf : s.manager.Numbered n → (f s.manager).Numbered n) :
    Overlooks n extra (updateManager f) s :=
  overlooks_modify rfl fun h => ⟨h.count, hf h.manager, h.pool⟩

theorem overlooks_respond (r : Response) : Overlooks n extra (respond r) s := by
  refine overlooks_bind (overlooks_change rfl rfl rfl rfl) fun _ _ _ => ?_
  cases r.fault with
  | none => exact overlooks_pure _
  | some e => exact overlooks_throw e

/-- Changing an item that was there before others were added. -/
theorem modify_append_left {γ : Type} (f : γ → γ) {i : Nat} {xs : List γ} (h : i < xs.length) (ys : List γ) :
    (xs ++ ys).modify i f = xs.modify i f ++ ys := by
  induction xs generalizing i with
  | nil => exact absurd h (Nat.not_lt_zero i)
  | cons x rest ih =>
      cases i with
      | zero => rfl
      | succ i =>
          have hlt : i < rest.length := Nat.lt_of_succ_lt_succ h
          simp [ih hlt]

/-- Steps in a row overlook more recognizers. -/
theorem overlooks_steps : StepClass (fun x s => Overlooks n extra x s) where
  pure a _ := overlooks_pure a
  throw e _ := overlooks_throw e
  bind := overlooks_bind
  tryCatch := overlooks_tryCatch
  look blind next := overlooks_get (blind _) next

/-- **Work that hands on no input overlooks more recognizers**, where it asks those there were. -/
theorem overlooks_work (desk : Desk) (n : Nat) (extra : List Recognizer) :
    WorkClass desk (fun x s => Overlooks n extra x s) (.asking (· < n)) where
  toStepClass := overlooks_steps
  note e _ _ := overlooks_emit e
  alert _ _ _ := overlooks_submit fun _ => task_numbered_of_line rfl
  heard _ _ _ := overlooks_submit fun _ => task_numbered_of_line rfl
  replay _ _ _ _ := overlooks_submit fun _ => task_numbered_of_line rfl
  move _ _ _ := overlooks_respond _
  notice _ _ := overlooks_respond _
  write _ _ := overlooks_respond _
  tap _ _ _ _ := overlooks_respond _
  turn t s ht _ := by
    cases t with
    | toggle button down => exact overlooks_respond _
    | gyro d on =>
        show Overlooks n extra (switchGyro d on) s
        unfold switchGyro
        split
        · exact overlooks_emit _
        · exact overlooks_throw _
    | _ => exact ht.elim
  recognizerAt i s hi := by
    intro h
    have hlt : i < s.recognizers.length := h.count ▸ hi
    have hfound : s.recognizers[i]? = some s.recognizers[i] := List.getElem?_eq_getElem hlt
    have hmore : (s.more extra).recognizers[i]? = some s.recognizers[i] :=
      (List.getElem?_append_left hlt).trans hfound
    have hok : recognizerAt i s = .ok s.recognizers[i] s := by
      unfold recognizerAt
      simp only [bind_apply, get_apply, hfound, pure_apply]
    refine ⟨?_, by rwa [after_ok hok]⟩
    rw [hok]
    unfold recognizerAt
    simp only [bind_apply, get_apply, hmore, pure_apply]
    rfl
  updateRecognizer i f s hi := by
    intro h
    have hlt : i < s.recognizers.length := h.count ▸ hi
    refine ⟨?_, ⟨?_, h.manager, h.pool⟩⟩
    · have hmore : (s.recognizers ++ extra).modify i f = s.recognizers.modify i f ++ extra :=
        modify_append_left f hlt extra
      show EStateM.Result.ok _ { s with recognizers := (s.recognizers ++ extra).modify i f } = _
      rw [hmore]
      rfl
    · show (s.recognizers.modify i f).length = n
      rw [List.length_modify]
      exact h.count

/-! ## Inputs -/

theorem overlooks_enter {id : String} {mode : Mode} (given : Option Input) (found : s.manager.find? id = some mode) :
    Overlooks n extra (modify (switchedTo id mode given)) s := by
  refine overlooks_modify rfl fun h => ?_
  have hmode : ∀ i, mode.recognizer? = some i → i < n := h.manager mode (find_mem found)
  refine ⟨h.count, manager_numbered_enteredOf h.manager id, ?_⟩
  exact pool_numbered_append h.pool
    (pool_numbered_append (exitTasks_numbered h.manager given) (enterTasks_numbered hmode given))

theorem overlooks_latch (id : String) (mode : Mode) (inp : Input) :
    Overlooks n extra (modify (latched id mode inp)) s := by
  refine overlooks_modify rfl fun h => ⟨h.count, manager_numbered_update h.manager id fun _ => rfl, ?_⟩
  exact pool_numbered_append h.pool fun t ht => task_numbered_of_line (passAll_line _ _ t ht)

theorem overlooks_utter (v : Vocabulary) (text : String) : Overlooks n extra (utter v text) s := by
  unfold utter compileSpeech
  refine overlooks_bind ?_ fun _ _ _ => overlooks_change rfl rfl rfl rfl
  refine overlooks_get rfl ?_
  simp only []
  refine overlooks_bind (overlooks_change rfl rfl rfl rfl) fun _ _ _ => ?_
  split
  · exact overlooks_throw _
  · exact overlooks_pure _

/-- Flushing the current mode asks its recognizer. -/
theorem overlooks_flush {mode : Mode} {line : SpeechLine} (current : s.manager.currentMode? = some mode)
    (kind : mode.kind = .speech line) : Overlooks n extra (submit (.flush mode.id line)) s := by
  refine overlooks_submit fun h line' hline => ?_
  obtain rfl := Option.some.inj hline
  obtain ⟨_, _, hf⟩ := Option.bind_eq_some_iff.mp current
  exact line_numbered kind (h.manager mode (find_mem hf))

/-- Steps in a row that overlook more recognizers and keep the setup of the modes. -/
theorem overlooks_keeping :
    StepClass (fun x s => Overlooks n extra x s ∧ (after x s).manager.setup = s.manager.setup) :=
  overlooks_steps.and
    (stepClass_of_rel (R := fun s t => t.manager.setup = s.manager.setup) (fun _ => rfl) fun h h' => h'.trans h)

/-- **The dispatch of an input** overlooks more recognizers. -/
theorem overlooks_inputs : InputClass desk
    (fun x s => Overlooks n extra x s ∧ (after x s).manager.setup = s.manager.setup) .free where
  toStepClass := overlooks_keeping
  keeps h := h.2
  arrange setup _ _ modes := ⟨overlooks_updateManager fun h mode hmode => h mode (modes ▸ hmode), setup⟩
  enter _ found := ⟨overlooks_enter _ found, setup_enteredOf _ _⟩
  latch _ _ _ setup := ⟨overlooks_latch _ _ _, setup⟩
  putOff _ _ asksNone := ⟨overlooks_submit fun _ => task_numbered_of_line asksNone, rfl⟩
  flush current kind := ⟨overlooks_flush current kind, rfl⟩
  speak _ := ⟨overlooks_submit fun _ => task_numbered_of_line rfl, rfl⟩
  replay _ := ⟨overlooks_submit fun _ => task_numbered_of_line rfl, rfl⟩
  utter {v text s} _ _ := by
    refine ⟨overlooks_utter v text, ?_⟩
    unfold after
    rw [utter_apply]
    cases (v.compile s.lastSpeech text).1.fault <;> rfl
  click _ _ s := ⟨overlooks_respond _, by rw [after_respond]⟩
  tap _ _ := ⟨overlooks_respond _, by rw [after_respond]⟩

/-- **Handing an input to the modes** overlooks more recognizers, and keeps the setup of the modes. -/
theorem overlooks_handle (inp : Input) (hn : (s.manager.modes.map Mode.id).Nodup) :
    Overlooks n extra (handle desk inp) s ∧ (after (handle desk inp) s).manager.setup = s.manager.setup := by
  rw [handle_eq]
  refine overlooks_keeping.bind ⟨overlooks_emit _, rfl⟩ fun _ t ht => ?_
  obtain ⟨_, rfl⟩ := EStateM.Result.ok.inj ht
  exact overlooks_inputs.passOn hn (fun _ => trivial) trivial
    fun _ _ _ _ _ => ⟨fun _ _ => trivial, fun _ _ => trivial⟩

/-! ## Events -/

theorem overlooks_guard (s : Studio) : Overlooks n extra (guard desk) s := by
  intro h
  have hseenNow (on : Bool) : Studio.Numbered n { s with observedEnabled := on } := ⟨h.count, h.manager, h.pool⟩
  rcases guard_cases desk s with ⟨hseen, -⟩ | ⟨hon, hne, -⟩ | ⟨hoff, hne, -⟩
  · exact overlooks_of_eq (y := pure _) (guard_seen hseen) (guard_seen hseen) h (overlooks_pure _) h
  · exact overlooks_of_eq (y := pure true) (guard_on hon hne) (guard_on hon hne) (hseenNow true) (overlooks_pure _) h
  · refine overlooks_of_eq (guard_off hoff hne) (guard_off hoff hne) (hseenNow false) ?_ h
    exact overlooks_bind (overlooks_respond _) fun _ _ _ => overlooks_pure _

theorem overlooks_dispatch (inp : Input) (hn : (s.manager.modes.map Mode.id).Nodup) :
    Overlooks n extra (dispatch desk inp) s ∧ (after (dispatch desk inp) s).manager.setup = s.manager.setup := by
  obtain ⟨hmanager, _⟩ := @guard_keeps desk s
  unfold dispatch
  refine overlooks_keeping.bind ⟨overlooks_guard s, by rw [hmanager]⟩ fun b t ht => ?_
  rw [after_ok ht] at hmanager
  split
  · exact overlooks_handle inp (hmanager ▸ hn)
  · exact ⟨overlooks_pure _, rfl⟩

theorem overlooks_receive (device : Option Device) (r : Report) (hn : (s.manager.modes.map Mode.id).Nodup) :
    Overlooks n extra (receive desk (dispatch desk) device r) s := by
  have hsteps : StepClass fun x s => (s.manager.modes.map Mode.id).Nodup →
      Overlooks n extra x s ∧ (after x s).manager.setup = s.manager.setup :=
    overlooks_keeping.under (fun s => (s.manager.modes.map Mode.id).Nodup) fun h => nodup_of_setup h.2
  refine (hsteps.receive (fun inp t _ _ ht => overlooks_dispatch inp ht) (fun q t _ => ?_) (fun t _ => ?_) r s hn).1
  · exact ⟨overlooks_respond _, by rw [after_respond]⟩
  · exact ⟨overlooks_emit _, rfl⟩

/-- An event that reads no configuration and is no result of a recognizer other than the first `n`. -/
def Event.Known (n : Nat) : Event → Prop
  | reload _ => False
  | result i _ => i < n
  | _ => True

/-- A piece of short work asks the recognizers there were. -/
theorem overlooks_task {t : Task} (ht : t.Numbered n) (hn : (s.manager.modes.map Mode.id).Nodup) :
    Overlooks n extra (t.run desk) s := by
  cases hi : t.input? with
  | none => exact (overlooks_work desk n extra).run hi ht (fun _ => trivial) s
  | some inp =>
      rw [work_handles hi]
      exact (overlooks_handle inp hn).1

/-- **The head of a queue** overlooks more recognizers. -/
theorem overlooks_runHead (q : Queue) (hn : (s.manager.modes.map Mode.id).Nodup) :
    Overlooks n extra (runHead desk q) s := by
  intro h
  cases q with
  | pool =>
      cases hq : s.pool with
      | nil => exact overlooks_of_eq (runHead_pool_idle hq) (runHead_pool_idle hq) h (overlooks_pure _) h
      | cons t rest =>
          have ht : t.Numbered n := h.pool t (hq ▸ List.mem_cons_self)
          have hrest : Studio.Numbered n { s with pool := rest } :=
            ⟨h.count, h.manager, fun u hu => h.pool u (hq ▸ List.mem_cons_of_mem _ hu)⟩
          refine overlooks_of_eq (runHead_pool_apply hq) (runHead_pool_apply hq) hrest ?_ h
          exact overlooks_tryCatch (overlooks_task ht hn) fun _ _ _ => overlooks_emit _
  | speech =>
      cases hq : s.speech with
      | nil => exact overlooks_of_eq (runHead_speech_idle hq) (runHead_speech_idle hq) h (overlooks_pure _) h
      | cons commands rest =>
          have hwork := overlooks_work desk n extra
          have hrest : Studio.Numbered n { s with speech := rest } := ⟨h.count, h.manager, h.pool⟩
          refine overlooks_of_eq (runHead_speech_apply hq) (runHead_speech_apply hq) hrest ?_ h
          exact hwork.recordFailure (hwork.perform (fun _ _ => trivial) [] _)

/-- **Every event but reading a configuration** overlooks more recognizers. -/
theorem overlooks_act (desk : Desk) {e : Event} (he : e.Known n) (hw : Wired s) :
    Overlooks n extra (e.act desk) s := by
  cases e with
  | input inp => exact (overlooks_dispatch inp hw.nodup).1
  | report device r => exact overlooks_receive device r hw.nodup
  | line text =>
      show Overlooks n extra (speakLine desk text) s
      unfold speakLine
      simp only []
      split
      · exact overlooks_pure _
      · exact (overlooks_dispatch _ hw.nodup).1
  | result i text => exact (overlooks_work desk n extra).hear he text s
  | enable on => exact overlooks_change rfl rfl rfl rfl
  | toggle =>
      refine overlooks_bind ?_ fun _ _ _ => overlooks_pure _
      unfold toggleEnabled
      refine overlooks_get rfl ?_
      exact overlooks_bind (overlooks_change rfl rfl rfl rfl) fun _ _ _ => overlooks_pure _
  | reload cfg => exact he.elim
  | work q => exact overlooks_runHead q hw.nodup

end PadScribe
