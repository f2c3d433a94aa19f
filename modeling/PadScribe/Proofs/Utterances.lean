import PadScribe.Proofs.Leaving
import PadScribe.Proofs.Rejecting
import PadScribe.Proofs.Replaying

/-!
# `Proofs.Utterances` — utterances run as they were compiled

What is heard is compiled at once and run later. In between anything may happen: further inputs are handed to the
modes, further utterances are compiled, and the work of other queues is done. Still each utterance that is compiled
is run once and whole, in the order in which they were compiled, and what running one does depends on nothing but
its commands, so it is settled when it is compiled.

## Contents

* `Action.compiles`, `compiledBy`, `compiledOn` — the utterances that an input compiles
* `handle_compiles` — one input
* `effectsOf`, `perform_works` — what running an utterance does
* `Turn`, `along` — inputs and the heads of queues, in any order
* `turn_speech`, `utterances_in_order` — one turn and every run
-/

namespace PadScribe

variable {desk : Desk} {s s' : Studio}

/-! ## Steps that compile nothing -/

/-- **Work that hands on no input compiles nothing.** -/
theorem leavesUtterances_work :
    WorkClass desk (fun x s => (after x s).speech = s.speech) (.asking fun _ => True) :=
  leaves_work desk Studio.speech (fun _ _ => rfl) (fun _ _ => rfl) fun _ _ => rfl

/-- Finding out where an input goes compiles nothing. -/
theorem steer_utterances (desk : Desk) (inp : Input) (s : Studio) : (after (steer desk inp) s).speech = s.speech :=
  have hleaves := leaves_inputs desk Studio.speech fun _ _ _ _ _ _ => rfl
  (hleaves.steer (fun _ => trivial) s).1

/-! ## Utterances that an input compiles -/

/-- The commands that an action compiles of what was heard, if it does. -/
def Action.compiles (inp : Input) (s : Studio) : Action → List (List Command)
  | speech v =>
    match inp.kind, inp.speech with
    | .speech, some ⟨some heard⟩ =>
      match compileSpeech v heard s with
      | .ok commands _ => [commands]
      | .error _ _ => []
    | _, _ => []
  | _ => []

/-- What triggers compile of an input, one after another until one of them fails. -/
def compiledBy (desk : Desk) (inp : Input) : List Trigger → Studio → List (List Command)
  | [], _ => []
  | t :: rest, s =>
    if t.condition.holds inp then
      t.action.compiles inp s ++
        match t.action.run desk inp s with
        | .ok _ s' => compiledBy desk inp rest s'
        | .error _ _ => []
    else compiledBy desk inp rest s

/-- **What is compiled of an input** that the modes are handed: what the triggers of the mode compile that it goes
to. -/
def compiledOn (desk : Desk) (inp : Input) (s : Studio) : List (List Command) :=
  match steer desk inp (handed inp s) with
  | .ok (some id) t =>
    match t.manager.find? id with
    | some mode =>
      match (ModeSwitch.passAll mode.switches inp).2.2 with
      | .ok out => compiledBy desk out mode.triggers (latched id mode inp t)
      | .error _ => []
    | none => []
  | _ => []

/-- What is compiled waits after what was compiled before. -/
theorem utter_speech (v : Vocabulary) (text : String) (s : Studio) :
    (after (utter v text) s).speech = s.speech ++
      match compileSpeech v text s with
      | .ok commands _ => [commands]
      | .error _ _ => [] := by
  unfold utter
  have hleaves : (after (compileSpeech v text) s).speech = s.speech := by
    unfold compileSpeech
    rw [after_bind_ok (get_apply s), after_bind_ok (modify_apply _ s)]
    cases (v.compile s.lastSpeech text).1.fault <;> rfl
  cases h : compileSpeech v text s with
  | ok commands t =>
      rw [after_ok h] at hleaves
      rw [after_bind_ok h, ← hleaves]
      rfl
  | error fault t =>
      rw [after_error h] at hleaves
      rw [after_bind_error h, List.append_nil, hleaves]

theorem action_compiles (desk : Desk) (a : Action) (inp : Input) (s : Studio) :
    (after (a.run desk inp) s).speech = s.speech ++ a.compiles inp s := by
  by_cases hv : ∃ v, a = .speech v
  · obtain ⟨v, rfl⟩ := hv
    simp only [Action.run, Action.compiles]
    cases hk : inp.kind with
    | speech =>
        cases hs : inp.speech with
        | none => simp
        | some u =>
            obtain ⟨heard⟩ := u
            cases heard with
            | none => simp
            | some heard => exact utter_speech v heard s
    | _ => simp
  · have hnone : a.compiles inp s = [] := by
      cases a with
      | speech v => exact absurd ⟨v, rfl⟩ hv
      | _ => rfl
    rw [hnone, List.append_nil]
    exact (action_speech (fun v h => hv ⟨v, h⟩) inp s).1

theorem runTriggers_compiles (inp : Input) (ts : List Trigger) (s : Studio) :
    (after (runTriggers desk inp ts) s).speech = s.speech ++ compiledBy desk inp ts s := by
  induction ts generalizing s with
  | nil => simp [runTriggers, compiledBy]
  | cons t rest ih =>
      rw [runTriggers_cons, compiledBy]
      by_cases hc : t.condition.holds inp = true
      · rw [if_pos hc, if_pos hc]
        have hfirst := action_compiles desk t.action inp s
        cases h : t.action.run desk inp s with
        | ok a u =>
            rw [after_ok h] at hfirst
            rw [after_bind_ok h, ih, hfirst, List.append_assoc]
        | error fault u =>
            rw [after_error h] at hfirst
            rw [after_bind_error h, hfirst, List.append_nil]
      · rw [if_neg hc, if_neg hc]
        exact ih s

theorem passMode_compiles (inp : Input) (id : String) (s : Studio) :
    (after (passMode desk id inp) s).speech = s.speech ++
      match s.manager.find? id with
      | some mode =>
        match (ModeSwitch.passAll mode.switches inp).2.2 with
        | .ok out => compiledBy desk out mode.triggers (latched id mode inp s)
        | .error _ => []
      | none => [] := by
  cases hm : s.manager.find? id with
  | none => rw [after_ok (passMode_unknown inp hm), List.append_nil]
  | some mode =>
      have hp := passMode_found desk inp hm
      simp only []
      cases ho : (ModeSwitch.passAll mode.switches inp).2.2 with
      | error fault =>
          rw [ho] at hp
          rw [after_error hp, List.append_nil]
          rfl
      | ok out =>
          rw [ho] at hp
          rw [after_eq hp]
          exact runTriggers_compiles out mode.triggers (latched id mode inp s)

/-- **One input** adds what is compiled of it to the waiting utterances. -/
theorem handle_compiles (desk : Desk) (inp : Input) (s : Studio) :
    (after (handle desk inp) s).speech = s.speech ++ compiledOn desk inp s := by
  have hsteer := steer_utterances desk inp (handed inp s)
  have hh := handle_apply desk inp s
  have hnoted : (handed inp s).speech = s.speech := rfl
  unfold compiledOn
  cases h : steer desk inp (handed inp s) with
  | error fault t =>
      simp only [h] at hh
      rw [after_error h, hnoted] at hsteer
      rw [after_error hh, hsteer, List.append_nil]
  | ok dest t =>
      simp only [h] at hh
      rw [after_ok h, hnoted] at hsteer
      cases dest with
      | none => rw [after_ok hh, hsteer, List.append_nil]
      | some id =>
          rw [after_eq hh, ← hsteer]
          exact passMode_compiles inp id t

/-! ## What running an utterance does -/

/-- The styles that wait for the next typed words after a command. -/
def Command.waiting (pending : List CaseStyle) : Command → List CaseStyle
  | style s => pending ++ [s]
  | typing _ _ => []
  | _ => pending

/-- What a command makes reach the outside: a text that is typed, keys that are tapped, a pause, or a program that
is run. A program is run alike in every state, so what it does is read off the empty one. -/
def Command.effects (desk : Desk) (pending : List CaseStyle) : Command → List Effect
  | typing words joined =>
    let text := typedText pending words joined
    if words = [] ∨ text = "" then [] else (desk.keyboard (.typeText text)).effects
  | hotkey keys => if keys = [] then [] else (desk.keyboard (.tap (keys.map Key.normalize))).effects
  | delay seconds => [.sleep seconds]
  | shell command => (after (runShell desk command) {}).record
  | style _ => []
  | replay _ => []

/-- The work that a command puts off. -/
def Command.tasks : Command → List Task
  | replay text => if text = "" then [] else [.replay text]
  | _ => []

/-- **What the commands of an utterance make reach the outside.** It depends on nothing but the commands. -/
def effectsOf (desk : Desk) : List CaseStyle → List Command → List Effect
  | _, [] => []
  | pending, c :: rest => c.effects desk pending ++ effectsOf desk (c.waiting pending) rest

/-- A program that is run reaches the outside alike in every state. -/
theorem runShell_works (hd : desk.Works) (command : List String) (s : Studio) :
    runShell desk command s
      = .ok () { s with record := s.record ++ (after (runShell desk command) {}).record } := by
  obtain ⟨es, hes⟩ : ∃ es, ∀ s, runShell desk command s = .ok () { s with record := s.record ++ es } := by
    unfold runShell
    cases desk.shell command with
    | failed reason => exact ⟨_, fun s => by simp [bind_apply, respond_ok (hd.notifier _)]; rfl⟩
    | exited code =>
        by_cases hcode : code = 0
        · exact ⟨_, fun s => by simp [bind_apply, hcode]; rfl⟩
        · exact ⟨_, fun s => by simp [bind_apply, hcode, respond_ok (hd.notifier _)]; rfl⟩
  rw [hes, after_ok (hes {})]
  rfl

/-- **Running one command** at a desk that works does what it says, in every state. -/
theorem perform_cons (hd : desk.Works) (pending : List CaseStyle) (c : Command) (rest : List Command)
    (s : Studio) : perform desk pending (c :: rest) s = perform desk (c.waiting pending) rest
      { s with record := s.record ++ c.effects desk pending, pool := s.pool ++ c.tasks } := by
  cases c with
  | style style => simp [perform, Command.waiting, Command.effects, Command.tasks]
  | typing words joined =>
      simp only [perform, Command.waiting, Command.effects, Command.tasks, List.append_nil]
      cases words with
      | nil => simp
      | cons w ws =>
          by_cases ht : typedText pending (w :: ws) joined = ""
          · simp [typeText, ht]
          · simp [typeText, ht, bind_apply, respond_ok (hd.keyboard _)]
  | hotkey keys =>
      simp only [perform, Command.waiting, Command.effects, Command.tasks, List.append_nil, tapKeys]
      cases keys with
      | nil => simp
      | cons k ks => simp [bind_apply, respond_ok (hd.keyboard _)]
  | delay seconds => simp [perform, Command.waiting, Command.effects, Command.tasks, bind_apply]
  | shell command =>
      simp only [perform, Command.waiting, Command.effects, Command.tasks, List.append_nil, bind_apply,
        runShell_works hd]
  | replay text =>
      simp only [perform, Command.waiting, Command.effects, Command.tasks, List.append_nil]
      by_cases ht : text = ""
      · simp [ht]
      · simp [ht, bind_apply]

/-- **Running an utterance** at a desk that works does all that its commands say, in every state. -/
theorem perform_works (hd : desk.Works) (pending : List CaseStyle) (commands : List Command) (s : Studio) :
    perform desk pending commands s = .ok () { s with
      record := s.record ++ effectsOf desk pending commands
      pool := s.pool ++ commands.flatMap Command.tasks } := by
  induction commands generalizing pending s with
  | nil => simp [perform, effectsOf]
  | cons c rest ih =>
      rw [perform_cons hd, ih]
      simp only [effectsOf, List.flatMap_cons, List.append_assoc]

/-- **The utterance at the head** of its queue, at a desk that works, is taken off it and does all that its commands
say. -/
theorem runHead_speech_works (hd : desk.Works) {commands : List Command} {rest : List (List Command)}
    (h : s.speech = commands :: rest) : runHead desk .speech s = .ok () { s with
      speech := rest
      record := s.record ++ effectsOf desk [] commands
      pool := s.pool ++ commands.flatMap Command.tasks } := by
  rw [runHead_speech_apply h]
  unfold recordFailure
  rw [tryCatch_apply, perform_works hd]

/-! ## Inputs and the heads of queues -/

/-- What happens next: the modes are handed an input, or the head of a queue is run. -/
inductive Turn where
  | hand (inp : Input)
  | work (q : Queue)

namespace Turn

/-- What happens in a turn. -/
def act (desk : Desk) : Turn → Step Unit
  | hand inp => handle desk inp
  | work q => runHead desk q

/-- The utterances that are compiled in a turn: those of the input that the modes are handed. -/
def compiled (desk : Desk) : Turn → Studio → List (List Command)
  | hand inp, s => compiledOn desk inp s
  | work .pool, s =>
    match s.pool with
    | [] => []
    | t :: rest => (t.input?.map fun inp => compiledOn desk inp { s with pool := rest }).getD []
  | work .speech, _ => []

/-- The utterances that are run in a turn. -/
def ran : Turn → Studio → List (List Command)
  | work .speech, s => s.speech.head?.toList
  | _, _ => []

/-- What the utterances that are run in a turn make reach the outside. -/
def said (desk : Desk) : Turn → Studio → List Effect
  | work .speech, s => (after (runHead desk .speech) s).record.drop s.record.length
  | _, _ => []

end Turn

/-- What turns yield one after another, each in the state that those before it left behind. -/
def along {α : Type} (desk : Desk) (f : Turn → Studio → List α) : List Turn → Studio → List α
  | [], _ => []
  | t :: rest, s => f t s ++ along desk f rest (after (t.act desk) s)

/-- Work that hands on an input compiles what that input does, and all other work compiles nothing. -/
theorem task_compiles (t : Task) (s : Studio) :
    (after (t.run desk) s).speech = s.speech ++ (t.input?.map fun inp => compiledOn desk inp s).getD [] := by
  cases hi : t.input? with
  | none =>
      have hleaves : (after (t.run desk) s).speech = s.speech :=
        leavesUtterances_work.run hi (fun line _ => line_asks line) (fun _ => trivial) s
      simpa using hleaves
  | some inp =>
      have hrun : t.run desk = handle desk inp := by
        cases t with
        | deliver i => rw [← Option.some.inj hi]; rfl
        | replay text => rw [← Option.some.inj hi]; rfl
        | _ => exact absurd hi (by simp [Task.input?])
      rw [hrun]
      exact handle_compiles desk inp s

/-- **One turn** adds what it compiles to the end of the waiting utterances and takes what it runs off their
head. -/
theorem turn_speech (desk : Desk) (t : Turn) (s : Studio) :
    s.speech ++ t.compiled desk s = t.ran s ++ (after (t.act desk) s).speech := by
  cases t with
  | hand inp => exact (handle_compiles desk inp s).symm
  | work q =>
      cases q with
      | pool =>
          show s.speech ++ Turn.compiled desk (.work .pool) s = (after (runHead desk .pool) s).speech
          cases hp : s.pool with
          | nil => simp [Turn.compiled, hp, runHead_pool_empty hp]
          | cons t rest =>
              rw [runHead_pool hp, recordFailure_speech, task_compiles]
              simp only [Turn.compiled, hp]
      | speech =>
          show s.speech ++ [] = s.speech.head?.toList ++ (after (runHead desk .speech) s).speech
          cases hq : s.speech with
          | nil => simp [runHead_speech_empty hq, hq]
          | cons commands rest =>
              -- running an utterance may put off work, and compiles nothing
              have hleaves : ∀ t, (after (perform desk [] commands) t).speech = t.speech :=
                leavesUtterances_work.perform (fun _ _ => trivial) []
              rw [runHead_speech hq, recordFailure_speech, hleaves]
              simp

/-- What the utterances of a turn say is what their commands say. -/
theorem turn_said (hd : desk.Works) (t : Turn) (s : Studio) :
    t.said desk s = (t.ran s).flatMap (effectsOf desk []) := by
  cases t with
  | hand inp => rfl
  | work q =>
      cases q with
      | pool => rfl
      | speech =>
          show (after (runHead desk .speech) s).record.drop s.record.length
            = s.speech.head?.toList.flatMap (effectsOf desk [])
          cases hq : s.speech with
          | nil => simp [runHead_speech_empty hq]
          | cons commands rest =>
              rw [after_ok (runHead_speech_works hd hq)]
              simp

/-- **Utterances run as they were compiled.** Whatever inputs the modes are handed and in whatever order the heads
of the queues are run: the utterances that waited at the start and those that were compiled since are, in this order
and each of them once, those that were run and those that still wait. At a desk that works, an utterance is run
whole, and it does what its commands say, which is settled when they are compiled. -/
theorem utterances_in_order (hd : desk.Works) (turns : List Turn) (s : Studio) :
    s.speech ++ along desk (Turn.compiled desk) turns s
        = along desk Turn.ran turns s ++ (afterAll (Turn.act desk) turns s).speech ∧
      along desk (Turn.said desk) turns s = (along desk Turn.ran turns s).flatMap (effectsOf desk []) ∧
      ∀ (t : Studio) (commands : List Command) (rest : List (List Command)), t.speech = commands :: rest →
        Turn.act desk (.work .speech) t = .ok () { t with
          speech := rest
          record := t.record ++ effectsOf desk [] commands
          pool := t.pool ++ commands.flatMap Command.tasks } := by
  refine ⟨?_, ?_, fun t commands rest h => runHead_speech_works hd h⟩
  · induction turns generalizing s with
    | nil => simp [along, afterAll]
    | cons t rest ih =>
        have hlater := ih (after (t.act desk) s)
        calc s.speech ++ (t.compiled desk s ++ along desk (Turn.compiled desk) rest (after (t.act desk) s))
            = t.ran s ++ ((after (t.act desk) s).speech
                ++ along desk (Turn.compiled desk) rest (after (t.act desk) s)) := by
              rw [← List.append_assoc, turn_speech, List.append_assoc]
          _ = t.ran s ++ along desk Turn.ran rest (after (t.act desk) s)
                ++ (afterAll (Turn.act desk) rest (after (t.act desk) s)).speech := by
              rw [hlater, List.append_assoc]
  · induction turns generalizing s with
    | nil => rfl
    | cons t rest ih =>
        simp only [along, List.flatMap_append]
        rw [turn_said hd, ih]

/-- A mode that types what it hears, and speaks again when it hears "again". -/
def parrot : Config :=
  { modes := [{ declaration := .str "[idle] -id a", rules := [.str "[trigger] speech -> [speech] -map m"] }]
    wordMappings := [("m", [.str "again -> [repeat]"])] }

/-- The text that is typed. -/
def Effect.typed? : Effect → Option String
  | typeText text => some text
  | _ => none

/-- Three texts are heard before the first of them is run, and the last turn but one speaks the first one again. -/
def heardAhead : List Turn :=
  [.hand (.spoken "hello"), .hand (.spoken "again"), .hand (.spoken "world"), .work .speech, .work .speech,
    .work .pool, .work .speech]

theorem utterances_in_order_parrot : ∃ s, Studio.build parrot {} = .ok s ∧ Desk.quiet.Works ∧
    (along .quiet (Turn.compiled .quiet) heardAhead s).length = 4 ∧
    (along .quiet Turn.ran heardAhead s).length = 3 ∧
    along .quiet (Turn.compiled .quiet) heardAhead s
      = along .quiet Turn.ran heardAhead s ++ (afterAll (Turn.act .quiet) heardAhead s).speech ∧
    ((along .quiet Turn.ran heardAhead s).flatMap (effectsOf .quiet [])).map Effect.typed?
      = [some "hello", some "world"] := by
  have h : (Studio.build parrot {}).toOption.any (fun s => s.speech.isEmpty &&
      (along .quiet (Turn.compiled .quiet) heardAhead s).length == 4 &&
      (along .quiet Turn.ran heardAhead s).length == 3 &&
      (along .quiet (Turn.said .quiet) heardAhead s).map Effect.typed? == [some "hello", some "world"]) = true := by
    decide +kernel
  obtain ⟨s, hs, ht⟩ := exists_built h
  simp only [Bool.and_eq_true, beq_iff_eq, List.isEmpty_iff] at ht
  obtain ⟨⟨⟨hnone, hcompiled⟩, hran⟩, hsaid⟩ := ht
  have hd : Desk.quiet.Works := plain_works _
  obtain ⟨horder, hdone, -⟩ := utterances_in_order hd heardAhead s
  rw [hnone, List.nil_append] at horder
  rw [hdone] at hsaid
  exact ⟨s, hs, hd, hcompiled, hran, horder, hsaid⟩

end PadScribe
