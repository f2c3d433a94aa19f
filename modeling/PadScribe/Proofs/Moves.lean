import Mathlib.Logic.Relation
import PadScribe.Proofs.Inputs
import PadScribe.Proofs.Work

/-!
# `Proofs.Moves` — all that can happen to the state

`Move` lists the single changes of the state that happen while the program runs. What it does between two
inputs is a row of such moves (`Moves`), whether or not it fails, so what each move keeps, every run keeps: an
invariant is proved by one case analysis on `Move` instead of one walk through the program.

Some moves are marked (`Mark`): those that put off a text to be spoken again, enter a mode, show an input to the
switches of a mode, tell the pointer about its buttons, touch the flag of the user, or take the head off a queue.
A row of moves says which marks it may bear, so that a step which, say, enters no mode is a row in which no mode
is entered. Which marks it may bear is what licenses work and inputs (`Proofs.Work`, `Proofs.Inputs`).

Two things are not moves: handing an input to the modes (the milestone in front of every dispatch) and
installing modes.

## Contents

* `Desk.Answers` — what a desk answers
* `Mark`, `Move`, `Moves` — one change, and a row of changes
* `move_mono`, `moves_setup`, `moves_flag` — what rows of moves keep
* `moves_inputs`, `switchTo_moves` … `handle_moves` — the dispatch of an input
* `passMode_latched` — what runs once the switches of a mode have seen an input
* `moves_work`, `perform_moves`, `work_moves` — work put off
-/

namespace PadScribe

/-- What a desk may answer a request with. -/
def Desk.Answers (desk : Desk) (r : Response) : Prop :=
  (∃ q, r = desk.pointer q) ∨ (∃ q, r = desk.keyboard q) ∨ (∃ q, r = desk.notifier q)

theorem answers_of_plainly {desk : Desk} {r : Response} (h : desk.AnswersPlainly r) : desk.Answers r := by
  rcases h with ⟨q, _, h⟩ | h | h
  · exact .inl ⟨q, h⟩
  · exact .inr (.inl h)
  · exact .inr (.inr h)

/-- The desk at which every program that is run ends well. -/
def Desk.quiet : Desk :=
  .plain fun _ => .exited 0

/-- What not every step may do. -/
inductive Mark where
  /-- A text is put off to be spoken again. -/
  | speakAgain (text : String)
  /-- A mode is entered. -/
  | enter (id : String)
  /-- The switches of a mode see an input. -/
  | pass (inp : Input)
  /-- The pointer is told about its buttons. -/
  | grip (g : Grip)
  /-- The program is switched on or off, or the gate sees that it was. -/
  | flag
  /-- The head of a queue is taken off. -/
  | take

/-- Every mark, except that only some texts may be spoken again. -/
def Mark.all (said : String → Prop) : Mark → Prop
  | speakAgain text => said text
  | _ => True

/-- **One change of the state.** `may` holds of the marks that it may bear. -/
inductive Move (desk : Desk) (may : Mark → Prop) : Studio → Studio → Prop where
  /-- Shifts latch, the way back is noted. -/
  | latch (s : Studio) (m : Manager) (setup : m.setup = s.manager.setup)
      (current : m.current = s.manager.current)
      (exit : ∀ c, m.exit = some c → s.manager.exit = some c ∨ c ∈ s.manager.offs)
      (modes : m.modes = s.manager.modes) :
      Move desk may s { s with manager := m }
  /-- A mode that is installed becomes the current one. -/
  | enter (s : Studio) (id : String) (found : (s.manager.find? id).isSome) (allowed : may (.enter id)) :
      Move desk may s
        { s with
          manager := s.manager.enteredOf id
          control := { s.control with modeId := id }
          hooks := s.hooks ++ s.switchHooks id
          record := s.record ++ [.switched s.manager.current id] }
  /-- The switches of the current mode see an input and put off their work. -/
  | pass (s : Studio) (id : String) (mode : Mode) (inp : Input) (current : s.manager.current = some id)
      (found : s.manager.find? id = some mode)
      (setup : (latched id mode inp s).manager.setup = s.manager.setup) (allowed : may (.pass inp)) :
      Move desk may s (latched id mode inp s)
  /-- Work is put off that hands on no input and leaves the buttons of the pointer alone. -/
  | putOff (s : Studio) (ts : List Task) (plain : ∀ t ∈ ts, t.IsPlain) :
      Move desk may s { s with pool := s.pool ++ ts }
  /-- A trigger speaks its text. -/
  | speak (s : Studio) (text : Option String) (installed : .speak text ∈ s.manager.actions) :
      Move desk may s { s with pool := s.pool ++ [.deliver (.uttered ⟨text⟩)] }
  /-- A trigger speaks the last utterance again. -/
  | replayLast (s : Studio) (spoken : s.lastSpeech ≠ "") :
      Move desk may s { s with pool := s.pool ++ [.replay s.lastSpeech] }
  /-- An utterance speaks a text again. -/
  | replaySaid (s : Studio) (text : String) (spoken : text ≠ "") (allowed : may (.speakAgain text)) :
      Move desk may s { s with pool := s.pool ++ [.replay text] }
  /-- A trigger compiles what was heard, and may put off running it. -/
  | understand (s : Studio) (v : Vocabulary) (text : String) (installed : .speech v ∈ s.manager.actions)
      (spoken : text ≠ "") (es : List Effect) (plain : ∀ e ∈ es, e.IsPlain)
      (utterances : List (List Command))
      (compiled : ∀ c ∈ utterances, c = (v.compile s.lastSpeech text).1.commands) :
      Move desk may s
        { s with
          lastSpeech := (v.compile s.lastSpeech text).2
          record := s.record ++ es
          speech := s.speech ++ utterances }
  /-- A milestone is noted. -/
  | note (s : Studio) (e : Effect) (plain : e.IsPlain) :
      Move desk may s { s with record := s.record ++ [e] }
  /-- A request is answered. -/
  | answer (s : Studio) (r : Response) (answers : desk.AnswersPlainly r) :
      Move desk may s { s with record := s.record ++ r.effects }
  /-- The pointer is told about its buttons. -/
  | grip (s : Studio) (q : PointerRequest) (g : Grip) (told : q.grip? = some g) (allowed : may (.grip g)) :
      Move desk may s { s with record := s.record ++ (desk.pointer q).effects }
  /-- A recognizer changes. -/
  | recognize (s : Studio) (rs : List Recognizer) : Move desk may s { s with recognizers := rs }
  /-- A recognizer has heard something, which is put off. -/
  | hear (s : Studio) (text : String) (spoken : text ≠ "") :
      Move desk may s { s with pool := s.pool ++ [.deliver (.spoken text)] }
  /-- The program is switched on or off. -/
  | turn (s : Studio) (on : Bool) (allowed : may .flag) :
      Move desk may s { s with control := { s.control with enabled := on } }
  /-- The gate sees whether the program is on. -/
  | see (s : Studio) (on : Bool) (allowed : may .flag) : Move desk may s { s with observedEnabled := on }
  /-- The head of the short work is taken off its queue. -/
  | takeWork (s : Studio) (allowed : may .take) : Move desk may s { s with pool := s.pool.tail }
  /-- The head of the utterances is taken off its queue. -/
  | takeUtterance (s : Studio) (allowed : may .take) : Move desk may s { s with speech := s.speech.tail }

/-- A row of changes of the state. -/
abbrev Moves (desk : Desk) (may : Mark → Prop) : Studio → Studio → Prop :=
  Relation.ReflTransGen (Move desk may)

variable {desk : Desk} {may : Mark → Prop} {s s' : Studio}

theorem moves_single (h : Move desk may s s') : Moves desk may s s' := .single h

/-- A move may bear more marks. -/
theorem move_mono {may' : Mark → Prop} (hm : ∀ mark, may mark → may' mark) (h : Move desk may s s') :
    Move desk may' s s' := by
  cases h with
  | latch m setup current exit modes => exact .latch s m setup current exit modes
  | enter id found allowed => exact .enter s id found (hm _ allowed)
  | pass id mode inp current found setup allowed => exact .pass s id mode inp current found setup (hm _ allowed)
  | putOff ts plain => exact .putOff s ts plain
  | speak text installed => exact .speak s text installed
  | replayLast spoken => exact .replayLast s spoken
  | replaySaid text spoken allowed => exact .replaySaid s text spoken (hm _ allowed)
  | understand v text installed spoken es plain utterances compiled =>
      exact .understand s v text installed spoken es plain utterances compiled
  | note e plain => exact .note s e plain
  | answer r answers => exact .answer s r answers
  | grip q g told allowed => exact .grip s q g told (hm _ allowed)
  | recognize rs => exact .recognize s rs
  | hear text spoken => exact .hear s text spoken
  | turn on allowed => exact .turn s on (hm _ allowed)
  | see on allowed => exact .see s on (hm _ allowed)
  | takeWork allowed => exact .takeWork s (hm _ allowed)
  | takeUtterance allowed => exact .takeUtterance s (hm _ allowed)

theorem moves_mono {may' : Mark → Prop} (hm : ∀ mark, may mark → may' mark) (h : Moves desk may s s') :
    Moves desk may' s s' :=
  h.lift id fun _ _ => move_mono hm

/-- Moves keep the setup. -/
theorem move_setup (h : Move desk may s s') : s'.manager.setup = s.manager.setup := by
  cases h with
  | latch m setup _ _ _ => exact setup
  | enter id _ _ => exact setup_enteredOf _ id
  | pass id mode inp _ _ setup _ => exact setup
  | _ => rfl

theorem moves_setup (h : Moves desk may s s') : s'.manager.setup = s.manager.setup := by
  induction h with
  | refl => rfl
  | tail _ hm ih => exact (move_setup hm).trans ih

/-- Moves that do not touch the flag of the user. -/
theorem moves_flag (hm : ¬ may .flag) (h : Moves desk may s s') :
    s'.control.enabled = s.control.enabled ∧ s'.observedEnabled = s.observedEnabled := by
  induction h with
  | refl => exact ⟨rfl, rfl⟩
  | tail _ hmove ih =>
      cases hmove with
      | turn on allowed => exact absurd allowed hm
      | see on allowed => exact absurd allowed hm
      | _ => exact ih

/-- Rows of moves follow one another as steps do. -/
theorem moves_steps : StepClass (fun x s => Moves desk may s (after x s)) :=
  stepClass_of_rel (fun _ => .refl) Relation.ReflTransGen.trans

theorem respond_moves {r : Response} (h : desk.AnswersPlainly r) (s : Studio) :
    Moves desk may s (after (respond r) s) := by
  rw [after_respond]
  exact moves_single (.answer s r h)

theorem grip_moves {q : PointerRequest} {g : Grip} (h : q.grip? = some g) (hg : may (.grip g)) (s : Studio) :
    Moves desk may s (after (respond (desk.pointer q)) s) := by
  rw [after_respond]
  exact moves_single (.grip s q g h hg)

/-! ## One input -/

/-- What an input may do whose moves may bear some marks. -/
def Mark.licence (may : Mark → Prop) : InputLicence where
  enters id _ := may (.enter id)
  passes inp := may (.pass inp)
  hears text := text ≠ ""

theorem utter_moves {v : Vocabulary} {text : String} (hv : .speech v ∈ s.manager.actions) (ht : text ≠ "") :
    Moves desk may s (after (utter v text) s) := by
  have hplain : ∀ e ∈ (v.compile s.lastSpeech text).1.dropped.map Effect.spokenError, e.IsPlain := by
    intro e he
    obtain ⟨_, _, rfl⟩ := List.mem_map.mp he
    exact ⟨rfl, rfl, rfl⟩
  have hu := utter_apply v text s
  cases hf : (v.compile s.lastSpeech text).1.fault with
  | some fault =>
      rw [hf] at hu
      rw [after_error hu]
      have hm : Move desk may s _ := .understand s v text hv ht _ hplain [] (by simp)
      simpa [heardBy] using moves_single hm
  | none =>
      rw [hf] at hu
      rw [after_ok hu]
      exact moves_single (.understand s v text hv ht _ hplain [_] (by simp))

/-- **The dispatch of an input** only makes moves. -/
theorem moves_inputs : InputClass desk (fun x s => Moves desk may s (after x s)) (Mark.licence may) where
  toStepClass := moves_steps
  keeps := moves_setup
  arrange setup current exit modes := moves_single (.latch _ _ setup current exit modes)
  enter {id mode given s} allowed found := by
    -- the work of leaving and entering is put off, and then the mode is entered
    have hplain : ∀ t ∈ s.manager.exitTasks given ++ mode.enterTasks given, t.IsPlain := by
      intro t ht
      rcases List.mem_append.mp ht with ht | ht
      · exact exitTasks_plain t ht
      · exact enterTasks_plain t ht
    have hput : Moves desk may s { s with pool := s.pool ++ (s.manager.exitTasks given ++ mode.enterTasks given) } :=
      moves_single (.putOff s _ hplain)
    have hfound : (s.manager.find? id).isSome := by simp [found]
    exact hput.tail (.enter _ id hfound allowed)
  latch allowed current found setup := moves_single (.pass _ _ _ _ current found setup allowed)
  putOff s chore _ := moves_single (.putOff s [_] (by simpa using chore_plain chore))
  flush _ _ := moves_single (.putOff _ [_] (by simp [Task.IsPlain, Task.input?, Task.grip?]))
  speak installed := moves_single (.speak _ _ installed)
  replay spoken := moves_single (.replayLast _ spoken)
  utter allowed installed := utter_moves installed allowed
  click _ _ s := respond_moves (.inl ⟨_, rfl, rfl⟩) s
  tap _ _ := respond_moves (.inr (.inl ⟨_, rfl⟩)) _

theorem switchTo_moves {id : String} (he : may (.enter id)) (inp : Option Input) (s : Studio) :
    Moves desk may s (after (switchTo id inp) s) :=
  moves_inputs.switchTo he s

theorem runTriggers_moves {ts : List Trigger} {inp : Input} (ha : ∀ t ∈ ts, t.action ∈ s.manager.actions)
    (he : ∀ t ∈ ts, t.condition.holds inp = true → ∀ id, t.action = .enterMode (some id) → may (.enter id)) :
    Moves desk may s (after (runTriggers desk inp ts) s) :=
  moves_inputs.runTriggers ha fun t ht hc => ⟨he t ht hc, fun _ hsaid => holds_said hc hsaid⟩

theorem tryShifts_moves (he : ∀ id, may (.enter id)) (inp : Input) (i : Nat) (shifts : List Shift) (s : Studio)
    (hk : ∀ k ∈ shifts, k.switch.off ∈ s.manager.offs) :
    Moves desk may s (after (tryShifts desk inp i shifts) s) :=
  moves_inputs.tryShifts he i shifts s hk

theorem steer_moves (he : ∀ id, may (.enter id)) (inp : Input) (s : Studio) :
    Moves desk may s (after (steer desk inp) s) :=
  moves_inputs.steer he s

/-- **After the switches have seen the input**, only triggers run, on what comes out of the switches. -/
theorem passMode_latched {id : String} {mode : Mode} {inp : Input} (hn : (s.manager.modes.map Mode.id).Nodup)
    (h : s.manager.find? id = some mode)
    (he : ∀ out, (ModeSwitch.passAll mode.switches inp).2.2 = .ok out →
      ∀ t ∈ mode.triggers, t.condition.holds out = true →
        ∀ id, t.action = .enterMode (some id) → may (.enter id)) :
    Moves desk may (latched id mode inp s) (after (passMode desk id inp) s) := by
  have hpass := passMode_found desk inp h
  cases ho : (ModeSwitch.passAll mode.switches inp).2.2 with
  | error fault =>
      -- a modifier failed: the switches have latched and no trigger runs
      rw [ho] at hpass
      rw [after_error hpass]
  | ok out =>
      rw [ho] at hpass
      have hacts : (latched id mode inp s).manager.actions = s.manager.actions :=
        actions_eq_of_setup (setup_passMode hn h)
      have ha : ∀ t ∈ mode.triggers, t.action ∈ (latched id mode inp s).manager.actions := by
        intro t ht
        rw [hacts]
        exact find_actions h ht
      rw [after_eq hpass]
      exact runTriggers_moves ha (he out ho)

/-- **After the note, an input only makes moves.** -/
theorem handle_moves {inp : Input} (he : ∀ id, may (.enter id)) (hp : may (.pass inp))
    (hn : (s.manager.modes.map Mode.id).Nodup) : Moves desk may (handed inp s) (after (handle desk inp) s) := by
  have hnote : emit (.delivered inp) s = .ok () (handed inp s) := rfl
  rw [handle_eq, after_bind_ok hnote]
  exact moves_inputs.passOn hn he hp fun _ _ _ _ hc => ⟨fun id _ => he id, fun _ hsaid => holds_said hc hsaid⟩

/-! ## Work put off -/

/-- What work may do whose moves may bear some marks. -/
def Mark.workLicence (may : Mark → Prop) : WorkLicence where
  known _ := True
  utters c := ∀ text, text ≠ "" → c = .replay text → may (.speakAgain text)
  turns t := ∀ g, t.grip? = some g → may (.grip g)

theorem emit_moves {e : Effect} (h : e.IsPlain) (s : Studio) : Moves desk may s (after (emit e) s) :=
  moves_single (.note s e h)

/-- **Work that is put off** only makes moves. -/
theorem moves_work : WorkClass desk (fun x s => Moves desk may s (after x s)) (Mark.workLicence may) where
  toStepClass := moves_steps
  note _ s hnote := emit_moves (note_plain hnote) s
  alert _ _ s := moves_single (.putOff s [_] (by simp [Task.IsPlain, Task.input?, Task.grip?]))
  heard text s ht := moves_single (.hear s text ht)
  replay text s ht hsaid := moves_single (.replaySaid s text ht (hsaid text ht rfl))
  move _ _ s := respond_moves (.inl ⟨_, rfl, rfl⟩) s
  notice _ s := respond_moves (.inr (.inr ⟨_, rfl⟩)) s
  write _ s := respond_moves (.inr (.inl ⟨_, rfl⟩)) s
  tap _ s _ _ := respond_moves (.inr (.inl ⟨_, rfl⟩)) s
  turn t s ht hg := by
    cases t with
    | toggle button down => exact grip_moves rfl (hg _ rfl) s
    | gyro d on =>
        show Moves desk may s (after (switchGyro d on) s)
        unfold switchGyro
        split
        · exact emit_moves ⟨rfl, rfl, rfl⟩ s
        · exact .refl
    | _ => exact ht.elim
  recognizerAt i s _ := by
    rw [recognizerAt_still]
  updateRecognizer _ _ s _ := moves_single (.recognize s _)

/-- **The commands of an utterance** speak again only what they say. -/
theorem perform_moves (commands : List Command) (pending : List CaseStyle)
    (hs : ∀ text, text ≠ "" → .replay text ∈ commands → may (.speakAgain text)) (s : Studio) :
    Moves desk may s (after (perform desk pending commands) s) := by
  refine moves_work.perform (fun c hc text ht hreplay => hs text ht ?_) pending s
  rw [← hreplay]
  exact hc

/-- **A piece of short work** that hands on no input only makes moves. -/
theorem work_moves {t : Task} (hq : t.input? = none) (hg : ∀ g, t.grip? = some g → may (.grip g)) (s : Studio) :
    Moves desk may s (after (t.run desk) s) :=
  moves_work.run hq (fun _ _ _ _ => trivial) (fun _ => hg) s

/-- What fails at the head of a queue is noted. -/
theorem recordFailure_note (x : Step Unit) (s : Studio) :
    Moves desk may (after x s) (after (recordFailure x) s) :=
  after_recordFailure_rel (R := Moves desk may) (fun _ => .refl)
    (fun _ t => emit_moves ⟨rfl, rfl, rfl⟩ t) x s

theorem recordFailure_moves {x : Step Unit} {t : Studio} (hx : Moves desk may t (after x s)) :
    Moves desk may t (after (recordFailure x) s) :=
  hx.trans (recordFailure_note x s)

end PadScribe
