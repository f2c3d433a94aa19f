import PadScribe.Proofs.Leads

/-!
# `Proofs.Deeds` — what an event does, and where it comes from

A move (`Move`) says what kind of change can happen. A deed says in addition where the change comes from: which
input was handed to the modes when a mode is entered, which text is compiled, whose keys are tapped, and whose
motion stream is switched. `Cause` is what an event brings along: the inputs that it hands to the modes, what the
modifiers of the current mode make of their texts, and the commands of the utterance that it runs. It licenses what
the event's input and its work may do (`Proofs.Inputs`, `Proofs.Work`), and what the event does is a row of deeds
with this cause.

An invariant about such origins is proved by one case analysis on `Deed`.

## Contents

* `Cause`, `Deed`, `Deeds` — deeds and rows of them
* `deeds_setup`, `deeds_steps` — what they keep, and rows of them in a row
* `deeds_inputs`, `handle_deeds`, `handle_spoken_deeds` — the dispatch of an input
* `deeds_work`, `runHead_pool_deeds`, `runHead_speech_deeds` — work put off
* `Event.cause`, `act_deeds`, `act_cases` — every event
* `configsOf` — the configurations that a run reads
-/

namespace PadScribe

/-! ## Deeds -/

/-- What an event brings along: the inputs that it hands to the modes, the texts that these may become, and the
commands that it runs. -/
structure Cause where
  hands : Input → Prop
  speaks : String → Prop
  utters : Command → Prop

/-- **One deed**, and where it comes from. -/
inductive Deed (desk : Desk) (c : Cause) : Studio → Studio → Prop where
  /-- It is noted that the modes are handed an input. -/
  | hand (s : Studio) {inp : Input} (allowed : c.hands inp) : Deed desk c s (handed inp s)
  /-- Shifts latch, the way back is noted. -/
  | arrange (s : Studio) (m : Manager) (setup : m.setup = s.manager.setup)
      (current : m.current = s.manager.current) : Deed desk c s { s with manager := m }
  /-- A mode is left and one is entered, on what became of an input. -/
  | switch (s : Studio) {id : String} {mode : Mode} {inp out : Input} (allowed : c.hands inp)
      (becomes : inp.Becomes out) (found : s.manager.find? id = some mode) :
      Deed desk c s (switchedTo id mode (some out) s)
  /-- The switches of the current mode see an input and put off their work. -/
  | latch (s : Studio) {id : String} {mode : Mode} {inp : Input} (allowed : c.hands inp)
      (current : s.manager.current = some id) (found : s.manager.find? id = some mode)
      (setup : (latched id mode inp s).manager.setup = s.manager.setup) : Deed desk c s (latched id mode inp s)
  /-- Work is put off that hands on no input and switches nothing. -/
  | putOff (s : Studio) {t : Task} (chore : t.isChore = true) : Deed desk c s { s with pool := s.pool ++ [t] }
  /-- A text is put off, to be handed to the modes as if it had been heard. -/
  | deliver (s : Studio) (u : Utterance) :
      Deed desk c s { s with pool := s.pool ++ [.deliver (.uttered u)] }
  /-- The last utterance, or one that a command says, is put off to be spoken again. -/
  | replay (s : Studio) {text : String} (spoken : text ≠ "")
      (source : text = s.lastSpeech ∨ c.utters (.replay text)) :
      Deed desk c s { s with pool := s.pool ++ [.replay text] }
  /-- A trigger compiles the text that became of an input, and may put off running it. -/
  | compile (s : Studio) {v : Vocabulary} {text : String} (spoken : c.speaks text)
      (installed : .speech v ∈ s.manager.actions) (utterances : List (List Command))
      (compiled : ∀ u ∈ utterances, u = (v.compile s.lastSpeech text).1.commands) :
      Deed desk c s { heardBy v text s with speech := s.speech ++ utterances }
  /-- The pointer is asked for something. -/
  | point (s : Studio) (q : PointerRequest) :
      Deed desk c s { s with record := s.record ++ (desk.pointer q).effects }
  /-- The user is shown something. -/
  | notice (s : Studio) (q : Notice) :
      Deed desk c s { s with record := s.record ++ (desk.notifier q).effects }
  /-- A text is typed. -/
  | write (s : Studio) (text : String) :
      Deed desk c s { s with record := s.record ++ (desk.keyboard (.typeText text)).effects }
  /-- Keys of a rule, or of a command, are tapped. -/
  | tap (s : Studio) {keys : List String} (given : keys ≠ [])
      (source : .hotkey keys ∈ s.manager.actions ∨ c.utters (.hotkey keys)) :
      Deed desk c s
        { s with record := s.record ++ (desk.keyboard (.tap (keys.map Key.normalize))).effects }
  /-- A milestone is noted. -/
  | note (s : Studio) {e : Effect} (note : e.isNote = true) : Deed desk c s { s with record := s.record ++ [e] }
  /-- A recognizer changes. -/
  | recognize (s : Studio) (rs : List Recognizer) : Deed desk c s { s with recognizers := rs }
  /-- The motion stream at the head of the short work is switched. -/
  | stream (s : Studio) {d : Device} {on : Bool} {rest : List Task} (head : s.pool = .gyro d on :: rest) :
      Deed desk c s { s with pool := rest, record := s.record ++ d.streamed on }
  /-- Other work is taken off the head of the short work. -/
  | take (s : Studio) {t : Task} {rest : List Task} (head : s.pool = t :: rest)
      (other : ∀ d on, t ≠ .gyro d on) : Deed desk c s { s with pool := rest }
  /-- The head of the utterances is taken off its queue. -/
  | takeUtterance (s : Studio) : Deed desk c s { s with speech := s.speech.tail }
  /-- The program is switched on or off. -/
  | turn (s : Studio) (on : Bool) : Deed desk c s { s with control := { s.control with enabled := on } }
  /-- The gate sees whether the program is on. -/
  | see (s : Studio) (on : Bool) : Deed desk c s { s with observedEnabled := on }

/-- A row of deeds. -/
abbrev Deeds (desk : Desk) (c : Cause) : Studio → Studio → Prop :=
  Relation.ReflTransGen (Deed desk c)

variable {desk : Desk} {c : Cause} {s s' : Studio} {inp : Input}

theorem deeds_single (h : Deed desk c s s') : Deeds desk c s s' := .single h

/-- **Deeds keep the setup.** -/
theorem deed_setup (h : Deed desk c s s') : s'.manager.setup = s.manager.setup := by
  cases h with
  | arrange m setup _ => exact setup
  | switch _ _ _ => exact setup_enteredOf _ _
  | latch _ _ _ setup => exact setup
  | _ => rfl

theorem deeds_setup (h : Deeds desk c s s') : s'.manager.setup = s.manager.setup := by
  induction h with
  | refl => rfl
  | tail _ hd ih => exact (deed_setup hd).trans ih

/-- Rows of deeds follow one another as steps do. -/
theorem deeds_steps : StepClass (fun x s => Deeds desk c s (after x s)) :=
  stepClass_of_rel (fun _ => .refl) Relation.ReflTransGen.trans

/-- Spoken errors that are passed over show nothing of what they are not. -/
theorem dropped_shows {α : Type} {f : Effect → Option α} (hf : ∀ e, f (.spokenError e) = none)
    (errors : List SpokenError) : (errors.map Effect.spokenError).filterMap f = [] := by
  refine List.filterMap_eq_nil_iff.mpr fun e he => ?_
  obtain ⟨error, _, rfl⟩ := List.mem_map.mp he
  exact hf error

theorem point_deeds (q : PointerRequest) (s : Studio) : Deeds desk c s (after (respond (desk.pointer q)) s) := by
  rw [after_respond]
  exact deeds_single (.point s q)

theorem notice_deeds (q : Notice) (s : Studio) : Deeds desk c s (after (respond (desk.notifier q)) s) := by
  rw [after_respond]
  exact deeds_single (.notice s q)

/-! ## One input -/

/-- What the inputs of a cause may do. -/
def Cause.licence (c : Cause) : InputLicence where
  enters _ given := ∃ inp out, given = some out ∧ c.hands inp ∧ inp.Becomes out
  passes := c.hands
  hears := c.speaks

/-- What was heard is compiled, and whether or not that fails, what it makes is the text of the input. -/
theorem utter_deeds {v : Vocabulary} {text : String} (hs : c.speaks text) (hv : .speech v ∈ s.manager.actions) :
    Deeds desk c s (after (utter v text) s) := by
  have hu := utter_apply v text s
  cases hf : (v.compile s.lastSpeech text).1.fault with
  | some fault =>
      rw [hf] at hu
      rw [after_error hu]
      have hd : Deed desk c s _ := .compile s hs hv [] (by simp)
      simpa [heardBy] using deeds_single hd
  | none =>
      rw [hf] at hu
      rw [after_ok hu]
      exact deeds_single (.compile s hs hv [_] (by simp))

/-- **The dispatch of an input** only does deeds. -/
theorem deeds_inputs : InputClass desk (fun x s => Deeds desk c s (after x s)) c.licence where
  toStepClass := deeds_steps
  keeps := deeds_setup
  arrange setup current _ _ := deeds_single (.arrange _ _ setup current)
  enter allowed found := by
    obtain ⟨inp, out, rfl, hi, hb⟩ := allowed
    exact deeds_single (.switch _ hi hb found)
  latch allowed current found setup := deeds_single (.latch _ allowed current found setup)
  putOff s chore _ := deeds_single (.putOff s chore)
  flush _ _ := deeds_single (.putOff _ rfl)
  speak _ := deeds_single (.deliver _ ⟨_⟩)
  replay spoken := deeds_single (.replay _ spoken (.inl rfl))
  utter allowed installed := utter_deeds allowed installed
  click _ _ s := point_deeds _ s
  tap {_ s} given installed := by
    rw [after_respond]
    exact deeds_single (.tap s given (.inl installed))

/-- **An input without a text** that the modes are handed. -/
theorem handle_deeds (hi : c.hands inp) (hs : inp.said? = none) (hn : (s.manager.modes.map Mode.id).Nodup) :
    Deeds desk c s (after (handle desk inp) s) := by
  have hnote : emit (.delivered inp) s = .ok () (handed inp s) := rfl
  have hlicence : ∀ out id, inp.Becomes out → c.licence.enters id (some out) :=
    fun out _ hb => ⟨inp, out, rfl, hi, hb⟩
  rw [handle_eq, after_bind_ok hnote]
  refine .head (.hand s hi) ?_
  refine deeds_inputs.passOn hn (fun id => hlicence inp id (becomes_refl inp)) hi fun switches out hout _ _ => ?_
  have hbecomes : inp.Becomes out := ⟨switches, hout⟩
  refine ⟨fun id _ => hlicence out id hbecomes, fun text hsaid => ?_⟩
  exact absurd ((becomes_unsaid hbecomes hs).symm.trans hsaid) (by simp)

/-- **An input of spoken text** goes to the current mode, whose switches put their lead in front of the text. -/
theorem handle_spoken_deeds (hi : c.hands inp) (hr : Running s) {text : String} (ht : inp.said? = some text)
    (hs : ∀ mode, s.manager.currentMode? = some mode → c.speaks (leadOf mode.switches ++ text)) :
    Deeds desk c s (after (handle desk inp) s) := by
  obtain ⟨current, hcurrent⟩ := Option.isSome_iff_exists.mp hr.wired.current
  obtain ⟨id, hid, hfind⟩ := Option.bind_eq_some_iff.mp hcurrent
  have hnoted : Wired (handed inp s) := wired_of_manager hr.wired rfl
  have hsteer : steer desk inp (handed inp s) = .ok (some id) (handed inp s) :=
    steer_speech hnoted hid (kind_of_said ht)
  have hhandle : handle desk inp s = passMode desk id inp (handed inp s) := by rw [handle_apply, hsteer]
  rw [after_eq hhandle]
  refine .head (.hand s hi) ?_
  refine deeds_inputs.passMode (s := handed inp s) hnoted.nodup hid hi fun mode hmode out hout _ _ _ => ?_
  refine ⟨fun _ _ => ⟨inp, out, rfl, hi, _, hout⟩, fun said hsaid => ?_⟩
  have hswitches : ∀ k ∈ mode.switches, k.switch.ReadsController := hr.switches mode (find_mem hmode)
  rw [passAll_said hswitches hout, ht] at hsaid
  rw [← Option.some.inj hsaid]
  refine hs mode ?_
  show s.manager.current.bind s.manager.find? = some mode
  rw [hid]
  exact hmode

/-- **One input**, with a text or without one. -/
theorem input_deeds (hi : c.hands inp) (hr : Running s)
    (hs : ∀ text mode, inp.said? = some text → s.manager.currentMode? = some mode →
      c.speaks (leadOf mode.switches ++ text)) : Deeds desk c s (after (handle desk inp) s) := by
  cases ht : inp.said? with
  | none => exact handle_deeds hi ht hr.wired.nodup
  | some text => exact handle_spoken_deeds hi hr ht fun mode => hs text mode ht

/-! ## Work put off -/

/-- What the work of a cause may do. The motion stream is switched with the head of the queue (`Deed.stream`). -/
def Cause.workLicence (c : Cause) : WorkLicence where
  known _ := True
  utters := c.utters
  turns t := ∀ d on, t ≠ .gyro d on

/-- **Work that is put off** only does deeds. -/
theorem deeds_work : WorkClass desk (fun x s => Deeds desk c s (after x s)) c.workLicence where
  toStepClass := deeds_steps
  note _ s hnote := deeds_single (.note s hnote)
  alert _ _ s := deeds_single (.putOff s rfl)
  heard text s _ := deeds_single (.deliver s ⟨some text⟩)
  replay _ s ht hsaid := deeds_single (.replay s ht (.inr hsaid))
  move _ _ s := point_deeds _ s
  notice q s := notice_deeds q s
  write text s := by
    rw [after_respond]
    exact deeds_single (.write s text)
  tap _ s hne hsaid := by
    rw [after_respond]
    exact deeds_single (.tap s hne (.inr hsaid))
  turn t s ht hg := by
    cases t with
    | toggle button down => exact point_deeds _ s
    | gyro d on => exact absurd rfl (hg d on)
    | _ => exact ht.elim
  recognizerAt i s _ := by
    rw [recognizerAt_still]
  updateRecognizer _ _ s _ := deeds_single (.recognize s _)

/-- **The head of the short work.** -/
theorem runHead_pool_deeds (hr : Running s)
    (hi : ∀ inp, s.pool.head?.bind Task.input? = some inp → c.hands inp ∧ ∀ text mode, inp.said? = some text →
      s.manager.currentMode? = some mode → c.speaks (leadOf mode.switches ++ text)) :
    Deeds desk c s (after (runHead desk .pool) s) := by
  cases hp : s.pool with
  | nil =>
      rw [runHead_pool_empty hp]
  | cons t rest =>
      rw [runHead_pool hp]
      have hrest : Running { s with pool := rest } := by
        refine running_of_manager hr rfl ?_
        rw [hp]
        exact List.subset_cons_self t rest
      by_cases hgyro : ∃ d on, t = .gyro d on
      · -- switching a stream is one deed with taking it off the queue
        obtain ⟨d, on, rfl⟩ := hgyro
        have hstream : Deeds desk c s (after (switchGyro d on) { s with pool := rest }) := by
          rw [after_switchGyro]
          exact deeds_single (.stream s hp)
        refine hstream.trans (after_recordFailure_rel (R := Deeds desk c) (fun _ => .refl) (fun _ t => ?_) _ _)
        exact deeds_single (.note t rfl)
      · have hother : ∀ d on, t ≠ .gyro d on := fun d on h => hgyro ⟨d, on, h⟩
        refine .head (.take s hp hother) ?_
        refine deeds_work.recordFailure ?_
        cases ht : t.input? with
        | none => exact deeds_work.run ht (fun _ _ _ _ => trivial) (fun _ => hother) _
        | some inp =>
            rw [work_handles ht]
            obtain ⟨hhands, hspeaks⟩ := hi inp (by simpa [hp] using ht)
            exact input_deeds hhands hrest hspeaks

/-- **The head of the utterances.** -/
theorem runHead_speech_deeds (hc : ∀ commands, s.speech.head? = some commands → ∀ cmd ∈ commands, c.utters cmd) :
    Deeds desk c s (after (runHead desk .speech) s) := by
  cases hq : s.speech with
  | nil =>
      rw [runHead_speech_empty hq]
  | cons commands rest =>
      rw [runHead_speech hq]
      have htake : Deed desk c s { s with speech := rest } := by
        simpa [hq] using @Deed.takeUtterance desk c s
      have hsaid : ∀ cmd ∈ commands, c.utters cmd := hc commands (by simp [hq])
      exact .head htake (deeds_work.recordFailure (deeds_work.perform hsaid [] _))

/-! ## Events -/

theorem guard_deeds (s : Studio) : Deeds desk c s (after (guard desk) s) := by
  rcases guard_cases desk s with ⟨-, hsame⟩ | ⟨-, -, hopens⟩ | ⟨-, -, hshuts⟩
  · rw [after_ok hsame]
  · rw [after_ok hopens]
    exact deeds_single (.see s true)
  · rw [after_eq hshuts]
    exact .head (.see s false) (deeds_steps.bind (point_deeds _ _) fun _ _ _ => .refl)

/-- **An input that is sent through the gate** is handed to the modes only while the program is on. -/
theorem dispatch_deeds (hh : ∀ t, s.control.enabled = true → t.manager = s.manager → t.pool = s.pool →
      Deeds desk c t (after (handle desk inp) t)) : Deeds desk c s (after (dispatch desk inp) s) := by
  unfold dispatch
  refine deeds_steps.bind (guard_deeds s) fun on t ht => ?_
  obtain ⟨hmanager, hpool⟩ := @guard_keeps desk s
  rw [after_ok ht] at hmanager hpool
  cases on with
  | false => exact .refl
  | true => exact hh t (guard_value ht).symm hmanager hpool

/-- An input without a text that is sent through the gate. -/
theorem unsaid_deeds (hi : c.hands inp) (hs : inp.said? = none) (hn : (s.manager.modes.map Mode.id).Nodup) :
    Deeds desk c s (after (dispatch desk inp) s) :=
  dispatch_deeds fun _ _ hm _ => handle_deeds hi hs (hm ▸ hn)

/-- An input with a text or without one that is sent through the gate. -/
theorem send_deeds (hr : Running s) (hi : s.control.enabled = true → c.hands inp ∧ ∀ text mode,
      inp.said? = some text → s.manager.currentMode? = some mode → c.speaks (leadOf mode.switches ++ text)) :
    Deeds desk c s (after (dispatch desk inp) s) := by
  refine dispatch_deeds fun t hon hm hp => ?_
  obtain ⟨hhands, hspeaks⟩ := hi hon
  have ht : Running t := running_of_manager hr hm (by rw [hp]; exact List.Subset.refl _)
  refine input_deeds hhands ht ?_
  rw [hm]
  exact hspeaks

/-- **A report of a controller** hands to the modes what the device does, and no text. -/
theorem receive_deeds {device : Option Device}
    (hi : ∀ inp : Input, inp.device = device → inp.said? = none → c.hands inp)
    (hn : (s.manager.modes.map Mode.id).Nodup) (r : Report) :
    Deeds desk c s (after (receive desk (dispatch desk) device r) s) := by
  -- deeds keep the ids of the modes different, so each input of the report finds them so
  have hsteps : StepClass fun x s => (s.manager.modes.map Mode.id).Nodup → Deeds desk c s (after x s) :=
    deeds_steps.under (fun s => (s.manager.modes.map Mode.id).Nodup) fun h => nodup_of_setup (deeds_setup h)
  refine hsteps.receive (fun inp t hd hs hn => ?_) (fun q t _ => notice_deeds q t) (fun t _ => ?_) r s hn
  · exact unsaid_deeds (hi inp hd hs) hs hn
  · exact deeds_single (.note t rfl)

/-- The inputs that an event may hand to the modes. -/
def Event.hands (s : Studio) (e : Event) (inp : Input) : Prop :=
  match e with
  | input given => s.control.enabled = true ∧ inp = given
  | report device _ => inp.device = device ∧ inp.said? = none
  | line text => s.control.enabled = true ∧ Text.strip text ≠ "" ∧ inp = .spoken (Text.strip text)
  | e => e.handsOn s = some inp

/-- What an event brings along: the inputs that it may hand to the modes, their texts with the lead of the current
mode in front, and the commands of the utterance that it runs. -/
def Event.cause (s : Studio) (e : Event) : Cause where
  hands := e.hands s
  speaks text := ∃ inp said mode, e.hands s inp ∧ inp.said? = some said ∧
    s.manager.currentMode? = some mode ∧ text = leadOf mode.switches ++ said
  utters cmd :=
    match e with
    | work .speech => ∃ commands, s.speech.head? = some commands ∧ cmd ∈ commands
    | _ => False

/-- **What an event does**, other than a reload, is a row of deeds. -/
theorem act_deeds {e : Event} (he : ∀ cfg, e ≠ .reload cfg) (hr : Running s) :
    Deeds desk (e.cause s) s (after (e.act desk) s) := by
  have hspeaks : ∀ inp, e.hands s inp → (e.cause s).hands inp ∧ ∀ text mode, inp.said? = some text →
      s.manager.currentMode? = some mode → (e.cause s).speaks (leadOf mode.switches ++ text) :=
    fun inp hi => ⟨hi, fun text mode ht hm => ⟨inp, text, mode, hi, ht, hm, rfl⟩⟩
  cases e with
  | input inp => exact send_deeds hr fun hon => hspeaks inp ⟨hon, rfl⟩
  | report device r =>
      have hi : ∀ inp : Input, inp.device = device → inp.said? = none →
          ((Event.report device r).cause s).hands inp := fun _ hd ht => ⟨hd, ht⟩
      exact receive_deeds hi hr.wired.nodup r
  | line text =>
      show Deeds desk _ s (after (speakLine desk text) s)
      unfold speakLine
      simp only []
      split
      · exact .refl
      · rename_i ht
        exact send_deeds hr fun hon => hspeaks _ ⟨hon, ht, rfl⟩
  | result i text => exact deeds_work.hear trivial text s
  | enable on => exact deeds_single (.turn s on)
  | toggle => exact deeds_single (.turn s _)
  | reload cfg => exact absurd rfl (he cfg)
  | work q =>
      cases q with
      | pool => exact runHead_pool_deeds hr hspeaks
      | speech => exact runHead_speech_deeds fun commands hhead cmd hcmd => ⟨commands, hhead, hcmd⟩

/-- **What an event does**: a reload is refused or installs modes, and every other event is a row of deeds. -/
theorem act_cases (desk : Desk) (e : Event) (hr : Running s) :
    (∃ cfg made, e = .reload cfg ∧ after (e.act desk) s = s.withRecognizers made) ∨
    (∃ cfg made modes shifts first, e = .reload cfg ∧
      compileRules cfg s.hasRecognizers s.recognizers.length = (made, .ok (modes, shifts)) ∧
      after (e.act desk) s
        = { (s.withRecognizers made).installed modes shifts first with settings := cfg.settings }) ∨
    Deeds desk (e.cause s) s (after (e.act desk) s) := by
  by_cases he : ∃ cfg, e = .reload cfg
  · obtain ⟨cfg, rfl⟩ := he
    rcases reload_cases cfg s with ⟨made, fault, h⟩ | ⟨made, modes, shifts, first, _, hc, h⟩
    · exact .inl ⟨cfg, made, rfl, after_error h⟩
    · exact .inr (.inl ⟨cfg, made, modes, shifts, first, rfl, hc, after_ok h⟩)
  · exact .inr (.inr (act_deeds (fun cfg h => he ⟨cfg, h⟩) hr))

/-- The commands that an event runs are those of an utterance that waits. -/
theorem utters_mem {e : Event} {cmd : Command} (h : (e.cause s).utters cmd) :
    ∃ commands ∈ s.speech, cmd ∈ commands := by
  cases e with
  | work q =>
      cases q with
      | pool => exact h.elim
      | speech =>
          obtain ⟨commands, hhead, hmem⟩ := h
          exact ⟨commands, List.mem_of_mem_head? hhead, hmem⟩
  | _ => exact h.elim

/-- The configurations that a run reads: the one that is built and those that are read again. -/
def configsOf (cfg : Config) (es : List Event) : List Config :=
  cfg :: es.filterMap fun
    | .reload again => some again
    | _ => none

end PadScribe
