import PadScribe.Proofs.Leads
import PadScribe.Proofs.Reading

/-!
# `Proofs.Replaying` — utterances that are spoken again

An utterance in which a vocabulary finds the replay tag is not remembered by it, so what is spoken again is a
text in which the vocabulary that remembered it found no tag. Another vocabulary may find one: whether a text
asks for a replay (`Vocabulary.asks`) depends on the word mappings that it is read with, and on what the
modifiers of the current mode put in front of it. This file says exactly when an utterance that is spoken again
asks for a replay itself.

## Contents

* `Vocabulary.asks`, `replay_mem_compile` — texts that ask for a replay
* `Fits`, `Remembers` — what is remembered, and what waits to be spoken again
* `move_remembers`, `run_remembers` — every run
* `Trigger.hearing`, `Mode.hearing` — what a mode compiles of a spoken text
* `compileRow`, `Hears`, `handle_hears` — what is compiled of a text that the modes are handed
* `handle_hearing` — the utterances of such a text that ask for a replay
* `replay_asks_iff` — an utterance that is spoken again
-/

namespace PadScribe

/-! ## Texts that ask for a replay -/

namespace Vocabulary

variable {v : Vocabulary}

theorem make_last {r : Recipe} (h : r ≠ .replay) (last last' : String) (words : List String) :
    r.make last words = r.make last' words := by
  cases r with
  | replay => exact absurd rfl h
  | _ => rfl

/-- A phrase of the replay tag is one whatever was spoken last. -/
theorem pieces_replay {last last' : String} {words : List String}
    (h : ∃ phrase used said, .made phrase used (.replay said) ∈ v.pieces last words) :
    ∃ phrase used said, .made phrase used (.replay said) ∈ v.pieces last' words := by
  obtain ⟨phrase, used, said, h⟩ := h
  fun_induction pieces v last words with
  | case1 => exact absurd h (by simp)
  | case2 w rest n r hl _ after count c hm ih =>
      by_cases hr : r = .replay
      · subst hr
        rw [pieces_made hl (c := .replay last') rfl]
        exact ⟨_, _, _, List.mem_cons_self⟩
      · rw [make_last hr last last'] at hm
        rw [pieces_made hl hm]
        rcases List.mem_cons.mp h with he | h
        · obtain ⟨_, _, rfl⟩ := Piece.made.inj he
          exact ⟨_, _, _, List.mem_cons_self⟩
        · obtain ⟨phrase', used', said', h'⟩ := ih h
          exact ⟨_, _, _, List.mem_cons_of_mem _ h'⟩
  | case3 w rest n r hl _ after e hm ih =>
      have hr : r ≠ .replay := by
        rintro rfl
        exact absurd hm (by simp [Recipe.make])
      rw [make_last hr last last'] at hm
      rw [pieces_rejected hl hm]
      obtain ⟨phrase', used', said', h'⟩ := ih ((List.mem_cons.mp h).resolve_left (by simp))
      exact ⟨_, _, _, List.mem_cons_of_mem _ h'⟩
  | case4 => exact absurd h (by simp)
  | case5 w rest hl ih =>
      rw [pieces_alone hl]
      obtain ⟨phrase', used', said', h'⟩ := ih ((List.mem_cons.mp h).resolve_left (by split <;> simp))
      exact ⟨_, _, _, List.mem_cons_of_mem _ h'⟩

/-- **Whether a text asks for a replay**: somewhere in its mapped words the replay tag is read as a command. -/
def asks (v : Vocabulary) (text : String) : Prop :=
  ∃ phrase used said, Piece.made phrase used (.replay said) ∈ v.pieces "" (v.mapped text)

/-- Only the replay tag makes a replay, of what is spoken last. -/
theorem made_replay {joined typing : Bool} (hv : v.Built joined typing) {last said : String}
    {words phrase used : List String} (h : .made phrase used (.replay said) ∈ v.pieces last words) :
    said = last ∧ replayTag ∈ words := by
  obtain ⟨r, after, n, hget, hmake, _⟩ := made_of_mem h
  rcases Recipe.make_cases hmake with ⟨_, _, _, he⟩ | ⟨rfl, _, he⟩ | ⟨_, hne⟩
  · exact absurd he (by simp)
  · refine ⟨Command.replay.inj he, ?_⟩
    have hphrase : phrase = [replayTag] := by
      rcases hv.recipes phrase _ hget with hline | ⟨style, hstyle⟩ | ⟨_, hphrase⟩
      · exact absurd hline (by simp [Recipe.isOfLine])
      · exact absurd hstyle (by simp)
      · exact hphrase
    subst hphrase
    have hmem : replayTag ∈ (v.pieces last words).flatMap Piece.words :=
      List.mem_flatMap.mpr ⟨_, h, by simp [Piece.words]⟩
    rwa [pieces_words] at hmem
  · exact absurd rfl (hne said)

/-- **What a replay speaks again** is what was spoken last, and a text that asks for it compiles to it. -/
theorem replay_mem_compile {joined typing : Bool} (hv : v.Built joined typing) (last text said : String) :
    .replay said ∈ (v.compile last text).1.commands ↔ said = last ∧ v.asks text := by
  -- what is spoken last while the text is compiled is the text itself unless the tag is in it
  obtain ⟨last', hlast⟩ : ∃ last', last' = if (v.mapped text).contains replayTag then last else text := ⟨_, rfl⟩
  have hsame : replayTag ∈ v.mapped text → last' = last := by
    intro htag
    rw [hlast, if_pos (List.contains_iff_mem.mpr htag)]
  have hcommands : (v.compile last text).1.commands
      = merge ((v.pieces last' (v.mapped text)).flatMap (Piece.commands joined)) := by
    rw [hlast]
    exact (compileFrom_eq hv _ [] [] _).1.trans (foldl_push_nil _)
  rw [hcommands, mem_merge (by simp), List.mem_flatMap]
  constructor
  · rintro ⟨p, hp, hc⟩
    cases p with
    | made phrase used c =>
        obtain rfl := List.mem_singleton.mp hc
        obtain ⟨rfl, htag⟩ := made_replay hv hp
        exact ⟨hsame htag, pieces_replay ⟨_, _, _, hp⟩⟩
    | _ => exact absurd hc (by simp [Piece.commands])
  · rintro ⟨rfl, hasks⟩
    obtain ⟨phrase, used, said', hp⟩ : ∃ phrase used said', .made phrase used (.replay said')
        ∈ v.pieces last' (v.mapped text) := pieces_replay hasks
    obtain ⟨rfl, htag⟩ := made_replay hv hp
    exact ⟨_, hp, by simp [Piece.commands, hsame htag]⟩

end Vocabulary

/-! ## What is remembered -/

/-- A text that some vocabulary remembers: it finds no replay tag in it. -/
def Fits (acts : List Action) (text : String) : Prop :=
  text ≠ "" ∧ ∃ v, .speech v ∈ acts ∧ replayTag ∉ v.mapped text

/-- **What a running program remembers.** What was spoken last, and every text that waits to be spoken again,
is one that some vocabulary of the program remembers; and once a text waits, something was spoken. -/
structure Remembers (acts : List Action) (s : Studio) : Prop where
  actions : s.manager.actions = acts
  last : s.lastSpeech ≠ "" → Fits acts s.lastSpeech
  pool : ∀ text, .replay text ∈ s.pool → Fits acts text ∧ s.lastSpeech ≠ ""
  speech : ∀ commands ∈ s.speech, ∀ text, text ≠ "" → .replay text ∈ commands →
    Fits acts text ∧ s.lastSpeech ≠ ""

variable {desk : Desk} {said : String → Prop} {s s' : Studio} {acts : List Action}

/-- Work may be put off that speaks only what is remembered. -/
theorem pool_remembers {ts : List Task} (hr : Remembers acts s)
    (ht : ∀ text, .replay text ∈ ts → Fits acts text ∧ s.lastSpeech ≠ "") :
    Remembers acts { s with pool := s.pool ++ ts } := by
  refine ⟨hr.actions, hr.last, fun text hmem => ?_, hr.speech⟩
  rcases List.mem_append.mp hmem with hmem | hmem
  · exact hr.pool text hmem
  · exact ht text hmem

/-- Compiling a text remembers it unless the vocabulary finds the replay tag in it. -/
theorem compile_last (v : Vocabulary) (last text : String) :
    (replayTag ∈ v.mapped text ∧ (v.compile last text).2 = last) ∨
      (replayTag ∉ v.mapped text ∧ (v.compile last text).2 = text) := by
  by_cases htag : replayTag ∈ v.mapped text
  · exact .inl ⟨htag, if_pos (List.contains_iff_mem.mpr htag)⟩
  · exact .inr ⟨htag, if_neg fun h => htag (List.contains_iff_mem.mp h)⟩

/-- **A move keeps what is remembered**, and does not forget that something was spoken. -/
theorem move_remembers (hb : ∀ v, .speech v ∈ acts → ∃ joined typing, v.Built joined typing)
    (hsaid : ∀ text, said text → Fits acts text ∧ s.lastSpeech ≠ "") (h : Move desk (Mark.all said) s s')
    (hr : Remembers acts s) : Remembers acts s' ∧ (s.lastSpeech ≠ "" → s'.lastSpeech ≠ "") := by
  have ha : s'.manager.actions = acts := (actions_eq_of_setup (move_setup h)).trans hr.actions
  cases h with
  | pass current mode inp _ _ _ _ =>
      -- the work of switches is never a replay
      have hpool : Remembers acts { s with pool := s.pool ++ (ModeSwitch.passAll mode.switches inp).2.1 } :=
        pool_remembers hr fun text hmem => absurd (passAll_quiet _ _ _ hmem) (by simp [Task.input?])
      exact ⟨⟨ha, hpool.last, hpool.pool, hpool.speech⟩, id⟩
  | putOff ts plain =>
      refine ⟨pool_remembers hr fun text hmem => ?_, id⟩
      exact absurd (plain _ hmem).1 (by simp [Task.input?])
  | speak text installed => exact ⟨pool_remembers hr (by simp), id⟩
  | hear text spoken => exact ⟨pool_remembers hr (by simp), id⟩
  | replayLast spoken =>
      refine ⟨pool_remembers hr fun text hmem => ?_, id⟩
      obtain rfl := Task.replay.inj (List.mem_singleton.mp hmem)
      exact ⟨hr.last spoken, spoken⟩
  | replaySaid text spoken allowed =>
      refine ⟨pool_remembers hr fun text' hmem => ?_, id⟩
      obtain rfl := Task.replay.inj (List.mem_singleton.mp hmem)
      exact hsaid text' allowed
  | understand v text installed spoken es quiet utterances compiled =>
      rw [hr.actions] at installed
      have hkeep : s.lastSpeech ≠ "" → (v.compile s.lastSpeech text).2 ≠ "" := by
        intro hlast
        rcases compile_last v s.lastSpeech text with ⟨_, he⟩ | ⟨_, he⟩
        · rwa [he]
        · rwa [he]
      refine ⟨⟨ha, fun hne => ?_, fun text' hmem => ?_, fun commands hmem text' hne hc => ?_⟩, hkeep⟩
      · show Fits acts (v.compile s.lastSpeech text).2
        have hsome : (v.compile s.lastSpeech text).2 ≠ "" := hne
        rcases compile_last v s.lastSpeech text with ⟨_, he⟩ | ⟨htag, he⟩
        · rw [he] at hsome ⊢
          exact hr.last hsome
        · rw [he]
          exact ⟨spoken, v, installed, htag⟩
      · exact (hr.pool text' hmem).imp id hkeep
      · rcases List.mem_append.mp hmem with hmem | hmem
        · exact (hr.speech commands hmem text' hne hc).imp id hkeep
        · -- what this text asks to be spoken again is what was spoken last
          obtain ⟨joined, typing, hv⟩ := hb v installed
          rw [compiled commands hmem] at hc
          obtain ⟨rfl, _⟩ := (Vocabulary.replay_mem_compile hv _ _ _).mp hc
          exact ⟨hr.last hne, hkeep hne⟩
  | takeWork _ => exact ⟨⟨ha, hr.last, fun text hmem => hr.pool text (List.mem_of_mem_tail hmem), hr.speech⟩, id⟩
  | takeUtterance _ =>
      exact ⟨⟨ha, hr.last, hr.pool, fun commands hmem => hr.speech commands (List.mem_of_mem_tail hmem)⟩, id⟩
  | _ => exact ⟨⟨ha, hr.last, hr.pool, hr.speech⟩, id⟩

/-- A walk keeps what is remembered. -/
theorem walk_remembers {is : List Input} (hb : ∀ v, .speech v ∈ acts → ∃ joined typing, v.Built joined typing)
    (hsaid : ∀ text, said text → Fits acts text ∧ s.lastSpeech ≠ "") (h : Walk desk said s is s')
    (hr : Remembers acts s) : Remembers acts s' ∧ (s.lastSpeech ≠ "" → s'.lastSpeech ≠ "") := by
  -- on the way something stays spoken, so what may be said at the start may be said at every move
  induction h with
  | refl => exact ⟨hr, id⟩
  | move _ hm ih =>
      obtain ⟨ht, hlast⟩ := ih
      obtain ⟨hu, hlast'⟩ := move_remembers hb (fun text h => (hsaid text h).imp id hlast) hm ht
      exact ⟨hu, hlast' ∘ hlast⟩
  | hand _ inp ih => exact ⟨⟨ih.1.actions, ih.1.last, ih.1.pool, ih.1.speech⟩, ih.2⟩

/-- **Every run between two reloads** keeps what is remembered. -/
theorem run_remembers (hb : ∀ v, .speech v ∈ acts → ∃ joined typing, v.Built joined typing)
    {es : List Event} (he : ∀ cfg, .reload cfg ∉ es) (hw : Wired s) (hr : Remembers acts s) :
    Remembers acts (run desk es s) := by
  induction es generalizing s with
  | nil => exact hr
  | cons e rest ih =>
      have hne : ∀ cfg, e ≠ .reload cfg := fun cfg h => he cfg (h ▸ List.mem_cons_self)
      obtain ⟨is, hwalk, _⟩ : ∃ is, Walk desk (fun text => Fits acts text ∧ s.lastSpeech ≠ "") s is
          (after (e.act desk) s) ∧ _ := by
        -- what the utterance at the head speaks again is remembered
        refine act_walk hne hw fun commands hmem text ht hc => ?_
        exact hr.speech commands (List.mem_of_mem_head? hmem) text ht hc
      refine ih (fun cfg h => he cfg (List.mem_cons_of_mem _ h)) (act_wired e hw) ?_
      exact (walk_remembers hb (fun _ h => h) hwalk hr).1

/-! ## What a mode hears -/

/-- The vocabulary that a trigger compiles an input with, and the text that it compiles. -/
def Trigger.hearing (inp : Input) (t : Trigger) : Option (Vocabulary × String) :=
  match t.condition, t.action, inp.kind, inp.speech with
  | .speech, .speech v, .speech, some ⟨some text⟩ => if text = "" then none else some (v, text)
  | _, _, _, _ => none

/-- The vocabularies that a mode compiles a spoken text with, and the text as the switches of the mode leave
it. -/
def Mode.hearing (mode : Mode) (text : String) : List (Vocabulary × String) :=
  match (ModeSwitch.passAll mode.switches (.spoken text)).2.2 with
  | .ok out => mode.triggers.filterMap (Trigger.hearing out)
  | .error _ => []

/-- Whether the commands of an utterance speak something again. -/
def SpeakAgain (commands : List Command) : Prop :=
  ∃ said, said ≠ "" ∧ .replay said ∈ commands

/-- Whether a command speaks something again. -/
def Command.speaksAgain : Command → Bool
  | replay said => said != ""
  | _ => false

theorem speakAgain_iff (commands : List Command) :
    SpeakAgain commands ↔ commands.any Command.speaksAgain = true := by
  rw [List.any_eq_true]
  constructor
  · rintro ⟨said, hne, hmem⟩
    exact ⟨_, hmem, bne_iff_ne.mpr hne⟩
  · rintro ⟨c, hmem, hc⟩
    cases c with
    | replay said => exact ⟨said, bne_iff_ne.mp hc, hmem⟩
    | _ => exact absurd hc (by simp [Command.speaksAgain])

instance (commands : List Command) : Decidable (SpeakAgain commands) :=
  decidable_of_iff _ (speakAgain_iff commands).symm

/-- The text that a piece of work speaks again. -/
def Task.replayed? : Task → Option String
  | replay text => some text
  | _ => none

theorem eq_of_replayed {ts : List Task} {text : String} (h : ts.map Task.replayed? = [some text]) :
    ts = [.replay text] := by
  obtain ⟨t, rfl, ht⟩ := List.map_eq_singleton_iff.mp h
  cases t with
  | replay said => rw [Option.some.inj ht]
  | _ => exact absurd ht (by simp [Task.replayed?])

/-- An utterance speaks again exactly when the vocabulary that compiled it finds the replay tag. -/
def AskedBy (heard : Vocabulary × String) (commands : List Command) : Prop :=
  SpeakAgain commands ↔ heard.1.asks heard.2

/-- A trigger that an input meets compiles what it hears, or leaves utterances alone. -/
theorem hearing_cases (desk : Desk) {t : Trigger} {inp : Input} (hc : t.condition.holds inp = true) :
    (∃ v text, t.hearing inp = some (v, text) ∧ t.action = .speech v ∧ text ≠ "" ∧
        t.action.run desk inp = utter v text) ∨
      (t.hearing inp = none ∧ ((∀ v, t.action ≠ .speech v) ∨ t.action.run desk inp = pure ())) := by
  obtain ⟨c, a⟩ := t
  cases a with
  | speech v =>
      by_cases hk : inp.kind = .speech
      · cases c with
        | speech =>
            cases hs : inp.speech with
            | none => simp [Condition.holds, hs] at hc
            | some u =>
                obtain ⟨heard⟩ := u
                cases heard with
                | none => simp [Condition.holds, hs] at hc
                | some text =>
                    have ht : text ≠ "" := by simpa [Condition.holds, hs, hk] using hc
                    exact .inl ⟨v, text, by simp [Trigger.hearing, hk, hs, ht], rfl, ht,
                      by simp [Action.run, hk, hs]⟩
        | _ => simp [Condition.holds, hk] at hc
      · refine .inr ⟨?_, .inr ?_⟩
        · unfold Trigger.hearing
          split
          · rename_i hkind _
            exact absurd hkind hk
          · rfl
        · simp only [Action.run]
          split
          · rename_i hkind _
            exact absurd hkind hk
          · rename_i hkind _
            exact absurd hkind hk
          · rfl
  | _ => exact .inr ⟨by simp [Trigger.hearing], .inl (by simp)⟩

/-- A trigger that an input does not meet hears nothing. -/
theorem hearing_none {t : Trigger} {inp : Input} (hc : ¬ t.condition.holds inp = true) :
    t.hearing inp = none := by
  unfold Trigger.hearing
  split
  · rename_i v text hcond _ hk hs
    split
    · rfl
    · rename_i ht
      exact absurd (by simp [hcond, Condition.holds, hk, hs, ht]) hc
  · rfl

/-- Entering a mode leaves utterances alone. -/
theorem enterOrWarn_speech (id : String) (inp : Input) (s : Studio) :
    (after (enterOrWarn id inp) s).speech = s.speech ∧
      (after (enterOrWarn id inp) s).lastSpeech = s.lastSpeech := by
  unfold after enterOrWarn
  rw [tryCatch_apply]
  cases h : s.manager.find? id with
  | none =>
      rw [switchTo_unknown h]
      exact ⟨rfl, rfl⟩
  | some mode =>
      rw [switchTo_found h]
      exact ⟨rfl, rfl⟩

/-- **Only what is heard makes utterances.** -/
theorem action_speech {a : Action} (hv : ∀ v, a ≠ .speech v) (inp : Input) (s : Studio) :
    (after (a.run desk inp) s).speech = s.speech ∧ (after (a.run desk inp) s).lastSpeech = s.lastSpeech := by
  by_cases hm : ∃ id, a = .enterMode id
  · obtain ⟨id, rfl⟩ := hm
    cases id with
    | none => exact ⟨rfl, rfl⟩
    | some id => exact enterOrWarn_speech id inp s
  · obtain ⟨ts, es, he⟩ := action_frame (fun id h => hm ⟨id, h⟩) hv inp s
    rw [he]
    exact ⟨rfl, rfl⟩

/-- What a trigger that hears nothing leaves behind. -/
theorem deafTrigger_speech {t : Trigger} {inp : Input}
    (h : (∀ v, t.action ≠ .speech v) ∨ t.action.run desk inp = pure ()) (s : Studio) :
    (after (t.action.run desk inp) s).speech = s.speech ∧
      (after (t.action.run desk inp) s).lastSpeech = s.lastSpeech := by
  rcases h with hv | hrun
  · exact action_speech hv inp s
  · rw [hrun]
    exact ⟨rfl, rfl⟩

theorem runTriggers_cons (t : Trigger) (rest : List Trigger) (inp : Input) :
    runTriggers desk inp (t :: rest) = if t.condition.holds inp = true
      then t.action.run desk inp >>= fun _ => runTriggers desk inp rest
      else runTriggers desk inp rest := by
  rw [runTriggers]

/-- An utterance is asked for by the vocabulary that compiles it. -/
theorem askedBy_compile {v : Vocabulary} {joined typing : Bool} (hv : v.Built joined typing) {last : String}
    (hlast : last ≠ "") (text : String) : AskedBy (v, text) (v.compile last text).1.commands := by
  constructor
  · rintro ⟨said, _, hmem⟩
    exact ((Vocabulary.replay_mem_compile hv last text said).mp hmem).2
  · intro hasks
    exact ⟨last, hlast, (Vocabulary.replay_mem_compile hv last text last).mpr ⟨rfl, hasks⟩⟩

/-- What a row of vocabularies compiles one after another, and what is remembered in the end. A vocabulary that fails
makes no utterance and ends the row. -/
def compileRow : List (Vocabulary × String) → String → List (List Command) × String
  | [], last => ([], last)
  | (v, text) :: rest, last =>
      match (v.compile last text).1.fault with
      | some _ => ([], (v.compile last text).2)
      | none =>
          let made := compileRow rest (v.compile last text).2
          ((v.compile last text).1.commands :: made.1, made.2)

theorem compileRow_failed {v : Vocabulary} {text last : String} {fault : Fault}
    (h : (v.compile last text).1.fault = some fault) (rest : List (Vocabulary × String)) :
    compileRow ((v, text) :: rest) last = ([], (v.compile last text).2) := by
  simp only [compileRow, h]

theorem compileRow_made {v : Vocabulary} {text last : String} (h : (v.compile last text).1.fault = none)
    (rest : List (Vocabulary × String)) :
    compileRow ((v, text) :: rest) last = ((v.compile last text).1.commands ::
      (compileRow rest (v.compile last text).2).1, (compileRow rest (v.compile last text).2).2) := by
  simp only [compileRow, h]

/-- A vocabulary that hears something is that of a trigger, and hears the text of the input. -/
theorem hearing_some {t : Trigger} {inp : Input} {v : Vocabulary} {text : String}
    (h : t.hearing inp = some (v, text)) : t.action = .speech v ∧ inp.said? = some text ∧ text ≠ "" := by
  unfold Trigger.hearing at h
  split at h
  · rename_i u said _ ha hk hs
    split at h
    · exact absurd h (by simp)
    · rename_i ht
      obtain ⟨rfl, rfl⟩ := Prod.mk.inj (Option.some.inj h)
      exact ⟨ha, by simp [Input.said?, hk, hs], ht⟩
  · exact absurd h (by simp)

/-- **A step hears** vocabularies of a row, from the first one on, and all of them when it ends well. -/
structure Hears (x : Step Unit) (row heard : List (Vocabulary × String)) (s : Studio) : Prop where
  first : heard <+: row
  speech : (after x s).speech = s.speech ++ (compileRow heard s.lastSpeech).1
  last : (after x s).lastSpeech = (compileRow heard s.lastSpeech).2
  whole : ∀ s', x s = .ok () s' → heard = row ∧ (compileRow heard s.lastSpeech).1.length = heard.length

/-- Steps that run alike hear alike. -/
theorem hears_congr {x y : Step Unit} {row heard : List (Vocabulary × String)} {t : Studio}
    (h : x s = y t) (hspeech : t.speech = s.speech) (hlast : t.lastSpeech = s.lastSpeech) (hy : Hears y row heard t) :
    Hears x row heard s := by
  refine ⟨hy.first, ?_, ?_, fun s' hs' => ?_⟩
  · rw [after_eq h, hy.speech, hspeech, hlast]
  · rw [after_eq h, hy.last, hlast]
  · rw [← hlast]
    exact hy.whole s' (h ▸ hs')

/-- A failure that leaves utterances alone hears nothing. -/
theorem hears_error {x : Step Unit} {fault : Fault} {t : Studio} (row : List (Vocabulary × String))
    (h : x s = .error fault t) (hspeech : t.speech = s.speech) (hlast : t.lastSpeech = s.lastSpeech) :
    Hears x row [] s := by
  refine ⟨List.nil_prefix, ?_, ?_, fun s' hs' => absurd (h.symm.trans hs') (by simp)⟩
  · rw [after_error h, hspeech]
    simp [compileRow]
  · rw [after_error h, hlast]
    rfl

/-- **The triggers of a mode** compile what they hear one after another, until one of them fails. -/
theorem runTriggers_hears (ts : List Trigger) (inp : Input) (s : Studio) :
    ∃ heard, Hears (runTriggers desk inp ts) (ts.filterMap (Trigger.hearing inp)) heard s := by
  induction ts generalizing s with
  | nil => exact ⟨[], List.nil_prefix, by simp [runTriggers, compileRow], rfl, fun _ _ => ⟨rfl, rfl⟩⟩
  | cons t rest ih =>
      rw [runTriggers_cons]
      by_cases hc : t.condition.holds inp = true
      · rw [if_pos hc]
        rcases hearing_cases desk hc with ⟨v, text, hh, ha, ht, hrun⟩ | ⟨hn, hdeaf⟩
        · rw [List.filterMap_cons_some hh, hrun]
          have hu := utter_apply v text s
          cases hf : (v.compile s.lastSpeech text).1.fault with
          | some fault =>
              -- the vocabulary fails, and the triggers after it are not run
              rw [hf] at hu
              have hbind : (utter v text >>= fun _ => runTriggers desk inp rest) s
                  = .error fault (heardBy v text s) := by rw [bind_apply, hu]
              refine ⟨[(v, text)], by simp, ?_, ?_, fun s' hs' => absurd (hbind.symm.trans hs') (by simp)⟩
              · rw [after_error hbind, compileRow_failed hf]
                simp [heardBy]
              · rw [after_error hbind, compileRow_failed hf]
                rfl
          | none =>
              rw [hf] at hu
              obtain ⟨heard, hrest⟩ := ih { heardBy v text s with
                speech := s.speech ++ [(v.compile s.lastSpeech text).1.commands] }
              have hsame : (heardBy v text s).lastSpeech = (v.compile s.lastSpeech text).2 := rfl
              refine ⟨(v, text) :: heard, List.prefix_cons_inj _ |>.mpr hrest.first, ?_, ?_, fun s' hs' => ?_⟩
              · rw [after_bind_ok hu, hrest.speech, compileRow_made hf, hsame]
                simp
              · rw [after_bind_ok hu, hrest.last, compileRow_made hf, hsame]
              · rw [bind_apply, hu] at hs'
                obtain ⟨hwhole, hlength⟩ := hrest.whole s' hs'
                rw [hsame] at hlength
                rw [compileRow_made hf]
                exact ⟨congrArg _ hwhole, by simpa using hlength⟩
        · obtain ⟨hspeech, hkeep⟩ := deafTrigger_speech hdeaf s
          rw [List.filterMap_cons_none hn]
          cases hx : t.action.run desk inp s with
          | error e u =>
              rw [after_error hx] at hspeech hkeep
              have hbind : (t.action.run desk inp >>= fun _ => runTriggers desk inp rest) s = .error e u := by
                rw [bind_apply, hx]
              exact ⟨[], hears_error _ hbind hspeech hkeep⟩
          | ok a u =>
              rw [after_ok hx] at hspeech hkeep
              obtain ⟨heard, hrest⟩ := ih u
              have hbind : (t.action.run desk inp >>= fun _ => runTriggers desk inp rest) s
                  = runTriggers desk inp rest u := by rw [bind_apply, hx]
              exact ⟨heard, hears_congr hbind hspeech hkeep hrest⟩
      · rw [if_neg hc, List.filterMap_cons_none (hearing_none hc)]
        exact ih s

/-- Once something was spoken, the utterances of a row are asked for by the vocabularies that compile them. -/
theorem compileRow_asked {heard : List (Vocabulary × String)} {last : String}
    (hb : ∀ h ∈ heard, (∃ joined typing, h.1.Built joined typing) ∧ h.2 ≠ "") (hlast : last ≠ "") :
    List.Forall₂ AskedBy (heard.take (compileRow heard last).1.length) (compileRow heard last).1 := by
  induction heard generalizing last with
  | nil => exact .nil
  | cons h rest ih =>
      obtain ⟨v, text⟩ := h
      cases hf : (v.compile last text).1.fault with
      | some fault =>
          rw [compileRow_failed hf]
          exact .nil
      | none =>
          obtain ⟨⟨joined, typing, hv⟩, ht⟩ := hb _ List.mem_cons_self
          -- something stays spoken for the vocabularies that follow
          have hnext : (v.compile last text).2 ≠ "" := by
            rcases compile_last v last text with ⟨_, he⟩ | ⟨_, he⟩
            · rwa [he]
            · rwa [he]
          rw [compileRow_made hf]
          exact .cons (askedBy_compile hv hlast text) (ih (fun h hh => hb h (List.mem_cons_of_mem _ hh)) hnext)

/-! ## An utterance that is spoken again -/

/-- **A mode that text is spoken to** compiles what it hears, until a trigger fails. -/
theorem passMode_hears (text : String) {id : String} {mode : Mode} (hm : s.manager.find? id = some mode) :
    ∃ heard, Hears (passMode desk id (.spoken text)) (mode.hearing text) heard s := by
  have hp := passMode_found desk (.spoken text) hm
  unfold Mode.hearing
  cases ho : (ModeSwitch.passAll mode.switches (.spoken text)).2.2 with
  | error fault =>
      -- a modifier of the mode fails and no trigger hears the text
      rw [ho] at hp
      exact ⟨[], hears_error _ hp rfl rfl⟩
  | ok out =>
      rw [ho] at hp
      obtain ⟨heard, hheard⟩ : ∃ heard, Hears (runTriggers desk out mode.triggers)
          (mode.triggers.filterMap (Trigger.hearing out)) heard (latched id mode (.spoken text) s) :=
        runTriggers_hears mode.triggers out _
      exact ⟨heard, hears_congr hp rfl rfl hheard⟩

/-- **Text that the modes are handed** is heard by the current mode. -/
theorem handle_hears (text : String) (hw : Wired s) :
    ∃ mode heard, s.manager.currentMode? = some mode ∧
      Hears (handle desk (.spoken text)) (mode.hearing text) heard s := by
  obtain ⟨mode, hmode⟩ := Option.isSome_iff_exists.mp hw.current
  obtain ⟨id, hid, hm⟩ := Option.bind_eq_some_iff.mp hmode
  have hnoted : Wired (handed (.spoken text) s) := wired_of_manager hw rfl
  have hsteer : steer desk (.spoken text) (handed (.spoken text) s) = .ok (some id) (handed (.spoken text) s) :=
    steer_speech hnoted hid rfl
  have hhandle : handle desk (.spoken text) s = passMode desk id (.spoken text) (handed (.spoken text) s) := by
    rw [handle_apply, hsteer]
  obtain ⟨heard, hheard⟩ : ∃ heard, Hears (passMode desk id (.spoken text)) (mode.hearing text) heard
      (handed (.spoken text) s) := passMode_hears text hm
  exact ⟨mode, heard, hmode, hears_congr hhandle rfl rfl hheard⟩

/-- What a mode hears, some trigger of it compiles. -/
theorem mem_hearing {mode : Mode} {text : String} {heard : Vocabulary × String} (h : heard ∈ mode.hearing text) :
    ∃ t ∈ mode.triggers, ∃ out, (ModeSwitch.passAll mode.switches (.spoken text)).2.2 = .ok out ∧
      t.hearing out = some heard := by
  unfold Mode.hearing at h
  split at h
  · rename_i out ho
    obtain ⟨t, ht, hh⟩ := List.mem_filterMap.mp h
    exact ⟨t, ht, out, ho, hh⟩
  · exact absurd h (by simp)

/-- **Text that the modes are handed**, once something was spoken: the utterances that it makes are asked for by the
vocabularies that hear it. -/
theorem handle_hearing (text : String) (hw : Wired s)
    (hb : ∀ v, .speech v ∈ s.manager.actions → ∃ joined typing, v.Built joined typing)
    (hlast : s.lastSpeech ≠ "") :
    ∃ mode heard us, s.manager.currentMode? = some mode ∧ heard <+: mode.hearing text ∧
      (after (handle desk (.spoken text)) s).speech = s.speech ++ us ∧ List.Forall₂ AskedBy heard us ∧
      ∀ s', handle desk (.spoken text) s = .ok () s' → heard = mode.hearing text := by
  obtain ⟨mode, heard, hmode, hh⟩ : ∃ mode heard, s.manager.currentMode? = some mode ∧
      Hears (handle desk (.spoken text)) (mode.hearing text) heard s := handle_hears text hw
  obtain ⟨id, _, hm⟩ := Option.bind_eq_some_iff.mp hmode
  have hbuilt : ∀ h ∈ heard, (∃ joined typing, h.1.Built joined typing) ∧ h.2 ≠ "" := by
    intro h hmem
    obtain ⟨t, ht, out, _, hsome⟩ := mem_hearing (hh.first.subset hmem)
    obtain ⟨ha, _, hne⟩ := hearing_some hsome
    exact ⟨hb h.1 (ha ▸ find_actions hm ht), hne⟩
  refine ⟨mode, _, _, hmode, (List.take_prefix _ heard).trans hh.first, hh.speech,
    compileRow_asked hbuilt hlast, fun s' hs' => ?_⟩
  obtain ⟨hwhole, hlength⟩ := hh.whole s' hs'
  rw [hlength, List.take_length, hwhole]

/-- An action that is made of nothing but its options is one that some options make. -/
theorem not_of_options {keyword : String} {specs : List OptionSpec} {args : List String} {f : Options → Action}
    {a : Action} (hf : ∀ opts, f opts ≠ a)
    (h : (Rule.readOptions keyword specs args >>= fun opts => pure (f opts)) = .ok a) : False := by
  obtain ⟨opts, _, h⟩ := except_bind_ok h
  exact hf opts (Except.ok.inj h)

/-- **A trigger that compiles speech** has a vocabulary of the mappings. -/
theorem readAction_builds {mappings : List (String × List Json)} {name : String} {args : List String}
    {v : Vocabulary} (h : Rule.readAction mappings name args = .ok (.speech v)) :
    ∃ ids castNumbers joined typing, Vocabulary.build mappings ids castNumbers joined typing = .ok v := by
  unfold Rule.readAction at h
  simp only [] at h
  -- the keywords one after another: all but one make an action that is not compiled speech
  rcases ite_eq_iff.mp h with ⟨_, h⟩ | ⟨_, h⟩
  · exact (not_of_options (fun _ => Action.noConfusion) h).elim
  rcases ite_eq_iff.mp h with ⟨_, h⟩ | ⟨_, h⟩
  · exact (not_of_options (fun _ => Action.noConfusion) h).elim
  rcases ite_eq_iff.mp h with ⟨_, h⟩ | ⟨_, h⟩
  · obtain ⟨opts, _, h⟩ := except_bind_ok h
    split at h
    · exact absurd h (by simp)
    · exact absurd h (by simp [pure, Except.pure])
  rcases ite_eq_iff.mp h with ⟨_, h⟩ | ⟨_, h⟩
  · exact (not_of_options (fun _ => Action.noConfusion) h).elim
  rcases ite_eq_iff.mp h with ⟨_, h⟩ | ⟨_, h⟩
  · exact (not_of_options (fun _ => Action.noConfusion) h).elim
  rcases ite_eq_iff.mp h with ⟨_, h⟩ | ⟨_, h⟩
  · -- the keyword of compiled speech, whose vocabulary has been built
    obtain ⟨opts, _, h⟩ := except_bind_ok h
    split at h
    · rename_i u hu
      obtain rfl := Action.speech.inj (Except.ok.inj h)
      exact ⟨_, _, _, _, hu⟩
    · exact absurd h (by simp)
    · exact absurd h (by simp)
  rcases ite_eq_iff.mp h with ⟨_, h⟩ | ⟨_, h⟩
  · exact (not_of_options (fun _ => Action.noConfusion) h).elim
  rcases ite_eq_iff.mp h with ⟨_, h⟩ | ⟨_, h⟩
  · exact (not_of_options (fun _ => Action.noConfusion) h).elim
  rcases ite_eq_iff.mp h with ⟨_, h⟩ | ⟨_, h⟩
  · exact (not_of_options (fun _ => Action.noConfusion) h).elim
  · exact absurd h (by simp)

theorem readAction_built {mappings : List (String × List Json)} {name : String} {args : List String}
    {v : Vocabulary} (h : Rule.readAction mappings name args = .ok (.speech v)) :
    ∃ joined typing, v.Built joined typing := by
  obtain ⟨_, _, joined, typing, hv⟩ := readAction_builds h
  exact ⟨joined, typing, Vocabulary.build_built hv⟩

/-- A studio that has heard nothing yet. -/
structure Studio.Silent (s : Studio) : Prop where
  last : s.lastSpeech = ""
  pool : s.pool = []
  speech : s.speech = []

/-- **A program that is built** in silence remembers nothing yet, and its vocabularies are as they are built. -/
theorem build_remembers {cfg : Config} {start : Studio} (hb : Studio.build cfg start = .ok s)
    (hs : start.Silent) : Remembers s.manager.actions s ∧
      ∀ v, .speech v ∈ s.manager.actions → ∃ joined typing, v.Built joined typing := by
  obtain ⟨made, modes, shifts, first, _, hc, rfl⟩ := build_installed hb
  refine ⟨⟨rfl, fun hne => absurd hs.last hne, fun text hmem => ?_, fun commands hmem => ?_⟩, fun v hv => ?_⟩
  · -- entering the first mode puts off no replay
    rcases List.mem_append.mp hmem with hmem | hmem
    · rcases List.mem_append.mp hmem with hmem | hmem
      · exact absurd hmem (by simp [Studio.withRecognizers, hs.pool])
      · exact absurd (exitTasks_plain _ hmem).1 (by simp [Task.input?])
    · exact absurd (enterTasks_plain _ hmem).1 (by simp [Task.input?])
  · exact absurd hmem (by simp [Studio.installed, Studio.withRecognizers, hs.speech])
  · obtain ⟨name, args, hread⟩ := installed_actions hc first (start.withRecognizers made) _ hv
    exact readAction_built hread

/-- What fails at the head of a queue makes no utterance. -/
theorem recordFailure_speech (x : Step Unit) (s : Studio) :
    (after (recordFailure x) s).speech = (after x s).speech := by
  obtain ⟨es, h⟩ := after_recordFailure x s
  rw [h]

/-- **An utterance that is spoken again.** In every run of a program without reloads, when a replay is at the
head of the queue: its text is one in which some vocabulary of the program finds no replay tag. Speaking it
again compiles, one after another until a trigger fails, what the current mode hears, and the commands of an
utterance speak something again exactly when its vocabulary finds the replay tag in what it hears. -/
theorem replay_asks_iff {cfg : Config} {start : Studio} (hb : Studio.build cfg start = .ok s)
    (hs : start.Silent) {es : List Event} (he : ∀ cfg, .reload cfg ∉ es) {text : String} {rest : List Task}
    (hp : (run desk es s).pool = .replay text :: rest) :
    (∃ v, .speech v ∈ s.manager.actions ∧ replayTag ∉ v.mapped text) ∧
      ∃ mode heard us, (run desk es s).manager.currentMode? = some mode ∧ heard <+: mode.hearing text ∧
        (run desk (es ++ [.work .pool]) s).speech = (run desk es s).speech ++ us ∧
        List.Forall₂ AskedBy heard us ∧
        ∀ s', handle desk (.spoken text) { run desk es s with pool := rest } = .ok () s' →
          heard = mode.hearing text := by
  obtain ⟨hstart, hbuilt⟩ := build_remembers hb hs
  have hw : Wired (run desk es s) := run_wired es (build_wired hb)
  have hr : Remembers s.manager.actions (run desk es s) := run_remembers hbuilt he (build_wired hb) hstart
  obtain ⟨⟨_, v, hv, htag⟩, hlast⟩ := hr.pool text (hp ▸ List.mem_cons_self)
  refine ⟨⟨v, hv, htag⟩, ?_⟩
  have hw' : Wired { run desk es s with pool := rest } := ⟨hw.nodup, hw.current, hw.deaf, hw.exit⟩
  obtain ⟨mode, heard, us, hmode, hpre, hspeech, hasked, hall⟩ :=
    handle_hearing text hw' (fun v hv => hbuilt v (hr.actions ▸ hv)) hlast
  refine ⟨mode, heard, us, hmode, hpre, ?_, hasked, hall⟩
  rw [run_append]
  show (after (runHead desk .pool) (run desk es s)).speech = _
  rw [runHead_pool hp, recordFailure_speech]
  exact hspeech

/-- Two modes: the first one speaks again when it hears "again", the second one types what it hears. -/
def echo : Config :=
  { modes := [
      { declaration := .str "[idle] -id a"
        rules := [.str "[switch] button -id ZR -> [mode] -id b",
          .str "[trigger] button -id Y -> [repeat]",
          .str "[trigger] speech -> [speech] -map m"] },
      { declaration := .str "[idle] -id b", rules := [.str "[trigger] speech -> [speech]"] }]
    wordMappings := [("m", [.str "again -> [repeat]"])] }

/-- "again" is said to the second mode, and is asked for in the first one. -/
def echoed : List Event :=
  let held := ButtonState.ofButtons [.zr]
  [.report none (.button held {} held), .line "again", .work .speech, .report none (.button {} held {}),
    .report none (.button (ButtonState.ofButtons [.y]) {} (ButtonState.ofButtons [.y]))]

/-- The text waits to be spoken again, asks for a replay when it is, and waits again. -/
theorem echoed_again : ∃ s, Studio.build echo {} = .ok s ∧
    (run .quiet echoed s).pool = [.replay "again"] ∧ (run .quiet echoed s).speech.isEmpty ∧
    (∃ commands ∈ (run .quiet (echoed ++ [.work .pool]) s).speech, SpeakAgain commands) ∧
    (run .quiet (echoed ++ [.work .pool, .work .speech]) s).pool = [.replay "again"] := by
  have h : (Studio.build echo {}).toOption.any (fun s =>
      decide ((run .quiet echoed s).pool.map Task.replayed? = [some "again"] ∧
        (run .quiet echoed s).speech.isEmpty ∧
        (∃ commands ∈ (run .quiet (echoed ++ [Event.work .pool]) s).speech, SpeakAgain commands) ∧
        (run .quiet (echoed ++ [Event.work .pool, .work .speech]) s).pool.map Task.replayed?
          = [some "again"])) = true := by decide +kernel
  obtain ⟨s, hs, ht⟩ := exists_built h
  obtain ⟨hfirst, hnone, hasks, hsecond⟩ := of_decide_eq_true ht
  exact ⟨s, hs, eq_of_replayed hfirst, hnone, hasks, eq_of_replayed hsecond⟩

theorem replay_asks_iff_echo : ∃ s, Studio.build echo {} = .ok s ∧ Studio.Silent {} ∧
    (∀ cfg, .reload cfg ∉ echoed) ∧ (run .quiet echoed s).pool = [.replay "again"] ∧
    (∃ v, .speech v ∈ s.manager.actions ∧ replayTag ∉ v.mapped "again") ∧
      ∃ mode heard us, (run .quiet echoed s).manager.currentMode? = some mode ∧ heard <+: mode.hearing "again" ∧
        (run .quiet (echoed ++ [.work .pool]) s).speech = (run .quiet echoed s).speech ++ us ∧
        List.Forall₂ AskedBy heard us ∧
        ∀ s', handle .quiet (.spoken "again") { run .quiet echoed s with pool := [] } = .ok () s' →
          heard = mode.hearing "again" := by
  obtain ⟨s, hb, hp, _⟩ := echoed_again
  have hs : Studio.Silent {} := ⟨rfl, rfl, rfl⟩
  have he : ∀ cfg, .reload cfg ∉ echoed := by simp [echoed]
  exact ⟨s, hb, hs, he, hp, replay_asks_iff hb hs he hp⟩

/-- **A replay can feed itself.** No utterance waits, the text is spoken again, the utterance that it makes
speaks something again, and running it puts the same replay back. -/
theorem echo_feeds_itself : ∃ s, Studio.build echo {} = .ok s ∧ (∀ cfg, .reload cfg ∉ echoed) ∧
    (run .quiet echoed s).pool = [.replay "again"] ∧ (run .quiet echoed s).speech.isEmpty ∧
    (∃ commands ∈ (run .quiet (echoed ++ [.work .pool]) s).speech, SpeakAgain commands) ∧
    (run .quiet (echoed ++ [.work .pool, .work .speech]) s).pool = [.replay "again"] := by
  obtain ⟨s, hb, hp, hnone, hasks, hback⟩ := echoed_again
  have he : ∀ cfg, .reload cfg ∉ echoed := by simp [echoed]
  exact ⟨s, hb, he, hp, hnone, hasks, hback⟩

end PadScribe
