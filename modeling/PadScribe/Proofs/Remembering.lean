import PadScribe.Proofs.Deeds
import PadScribe.Proofs.Replaying

/-!
# `Proofs.Remembering` — what is remembered of what was said

A vocabulary remembers the text that it compiles, which is what the modifiers of the current mode made of the text
that was said: the lead of the mode (`leadOf`) stands in front of it. When the text is spoken again it goes through
the modifiers again, and the lead that the current mode has then is put in front of the one that is there. So what
is remembered is a text that came from outside with one lead for every time that it was handed to the modes, and it
is the text itself exactly when all of these leads are empty.

## Contents

* `Event.said?`, `Event.again?` — the texts that events hand to the modes
* `led`, `Heard` — a text with leads in front of it, and how it got them
* `Said`, `heard_said` — texts that came from outside
* `Recalls`, `deed_recalls`, `run_recalls` — every run
* `hearing_led`, `compileRow_remembers`, `SpeaksAgain` — a text that is spoken again
* `last_speech_led` — what is remembered, and what speaking it again makes of it
-/

namespace PadScribe

/-! ## Texts that are handed to the modes -/

/-- The text from outside that an event hands to the modes: that of an input, of a spoken line, or of what was put off
to be heard. -/
def Event.said? (s : Studio) : Event → Option String
  | input inp => if s.control.enabled then inp.said? else none
  | line text => if s.control.enabled ∧ Text.strip text ≠ "" then some (Text.strip text) else none
  | work .pool =>
      match s.pool.head? with
      | some (.deliver inp) => inp.said?
      | _ => none
  | _ => none

/-- The text that an event hands to the modes once more. -/
def Event.again? (s : Studio) : Event → Option String
  | work .pool => s.pool.head?.bind Task.replayed?
  | _ => none

/-- Whatever text the modes are handed comes from outside, or is spoken again. -/
theorem hands_said {s : Studio} {e : Event} {inp : Input} {text : String} (hi : e.hands s inp)
    (ht : inp.said? = some text) : e.said? s = some text ∨ e.again? s = some text := by
  cases e with
  | input given =>
      obtain ⟨hon, rfl⟩ := hi
      exact .inl ((if_pos hon).trans ht)
  | report device r => exact absurd (hi.2.symm.trans ht) (by simp)
  | line text' =>
      obtain ⟨hon, hne, rfl⟩ := hi
      exact .inl ((if_pos ⟨hon, hne⟩).trans ht)
  | work q =>
      cases q with
      | pool =>
          obtain ⟨t, hhead, hinput⟩ := Option.bind_eq_some_iff.mp hi
          cases t with
          | deliver given =>
              obtain rfl := Option.some.inj hinput
              exact .inl (by simp only [Event.said?, hhead, ht])
          | replay text' =>
              obtain rfl := Option.some.inj hinput
              obtain rfl : text' = text := Option.some.inj ht
              exact .inr (by simp [Event.again?, hhead, Task.replayed?])
          | _ => exact absurd hinput (by simp [Task.input?])
      | speech => exact absurd hi (by simp [Event.hands, Event.handsOn])
  | _ => exact absurd hi (by simp [Event.hands, Event.handsOn])

/-- What is spoken again has waited for it. -/
theorem again_waits {s : Studio} {e : Event} {text : String} (h : e.again? s = some text) : .replay text ∈ s.pool := by
  cases e with
  | work q =>
      cases q with
      | pool =>
          obtain ⟨t, hhead, hreplay⟩ := Option.bind_eq_some_iff.mp h
          cases t with
          | replay said =>
              obtain rfl := Option.some.inj hreplay
              exact List.mem_of_mem_head? hhead
          | _ => exact absurd hreplay (by simp [Task.replayed?])
      | speech => exact absurd h (by simp [Event.again?])
  | _ => exact absurd h (by simp [Event.again?])

/-- A text with leads put in front of it one after another, the last of them first. -/
def led (leads : List String) (text : String) : String :=
  leads.foldr (· ++ ·) text

theorem led_cons (lead : String) (rest : List String) (text : String) :
    led (lead :: rest) text = lead ++ led rest text := rfl

theorem length_le_led (leads : List String) (text : String) : text.length ≤ (led leads text).length := by
  induction leads with
  | nil => exact Nat.le_refl _
  | cons lead rest ih =>
      rw [led_cons, String.length_append]
      omega

/-- **Leads change a text** unless all of them are empty. -/
theorem led_eq_iff {leads : List String} {text : String} : led leads text = text ↔ ∀ lead ∈ leads, lead = "" := by
  induction leads with
  | nil => simp [led]
  | cons lead rest ih =>
      rw [led_cons, List.forall_mem_cons, ← ih]
      constructor
      · intro h
        have hlength := congrArg String.length h
        rw [String.length_append] at hlength
        have hrest := length_le_led rest text
        have hempty : lead = "" := String.length_eq_zero_iff.mp (by omega)
        rw [hempty, String.empty_append] at h
        exact ⟨hempty, h⟩
      · rintro ⟨rfl, hrest⟩
        rw [String.empty_append, hrest]

/-- **How a text got its leads** in the course of a run: it came from outside and was handed to the current mode, and
then it was spoken again any number of times, each time with the leads that it had. -/
inductive Heard (desk : Desk) (s : Studio) : List Event → String → List String → Prop where
  | said {es : List Event} {e : Event} {text : String} {mode : Mode} (given : e.said? (run desk es s) = some text)
      (current : (run desk es s).manager.currentMode? = some mode) :
      Heard desk s (es ++ [e]) text [leadOf mode.switches]
  | again {es : List Event} {e : Event} {text : String} {leads : List String} {mode : Mode}
      (heard : Heard desk s es text leads) (given : e.again? (run desk es s) = some (led leads text))
      (current : (run desk es s).manager.currentMode? = some mode) :
      Heard desk s (es ++ [e]) text (leadOf mode.switches :: leads)
  | later {es : List Event} {e : Event} {text : String} {leads : List String} (heard : Heard desk s es text leads) :
      Heard desk s (es ++ [e]) text leads

variable {desk : Desk} {P : String → Prop} {s s' : Studio}

/-- A text came from outside at some moment of a run. -/
def Said (desk : Desk) (s : Studio) (es : List Event) (text : String) : Prop :=
  ∃ before e later, es = before ++ e :: later ∧ e.said? (run desk before s) = some text

theorem said_append {es : List Event} {text : String} (h : Said desk s es text) (e : Event) :
    Said desk s (es ++ [e]) text := by
  obtain ⟨before, first, later, rfl, hsaid⟩ := h
  exact ⟨before, first, later ++ [e], by simp, hsaid⟩

/-- **A text that is heard** came from outside. -/
theorem heard_said {es : List Event} {text : String} {leads : List String} (h : Heard desk s es text leads) :
    Said desk s es text := by
  induction h with
  | @said es e text mode given current => exact ⟨es, e, [], rfl, given⟩
  | again heard given current ih => exact said_append ih _
  | later heard ih => exact said_append ih _

/-! ## What a running program recalls -/

/-- **What a running program recalls**: what it remembers, and what it will speak again, are texts of a kind. -/
structure Recalls (P : String → Prop) (s : Studio) : Prop where
  built : ∀ v, .speech v ∈ s.manager.actions → ∃ joined typing, v.Built joined typing
  last : s.lastSpeech ≠ "" → P s.lastSpeech
  pool : ∀ text, .replay text ∈ s.pool → P text
  speech : ∀ commands ∈ s.speech, ∀ text, text ≠ "" → .replay text ∈ commands → P text

theorem recalls_mono {Q : String → Prop} (hPQ : ∀ text, P text → Q text) (hr : Recalls P s) : Recalls Q s where
  built := hr.built
  last hne := hPQ _ (hr.last hne)
  pool text hmem := hPQ text (hr.pool text hmem)
  speech commands hc text hne hmem := hPQ text (hr.speech commands hc text hne hmem)

/-- What is put off may be spoken again only if it is of the kind. -/
theorem recalls_putOff {ts : List Task} (hr : Recalls P s) (ht : ∀ text, .replay text ∈ ts → P text) :
    Recalls P { s with pool := s.pool ++ ts } :=
  ⟨hr.built, hr.last, fun text hmem => (List.mem_append.mp hmem).elim (hr.pool text) (ht text), hr.speech⟩

/-- **A deed recalls texts of a kind** when what is compiled, and what the utterance that is run speaks again, is of
that kind. -/
theorem deed_recalls {c : Cause} (hspeaks : ∀ text, c.speaks text → P text)
    (hutters : ∀ text, text ≠ "" → c.utters (.replay text) → P text) (h : Deed desk c s s') (hr : Recalls P s) :
    Recalls P s' := by
  have hbuilt : ∀ v, .speech v ∈ s'.manager.actions → ∃ joined typing, v.Built joined typing := by
    rw [actions_eq_of_setup (deed_setup h)]
    exact hr.built
  cases h with
  | @switch id mode inp out _ _ _ =>
      have hput : Recalls P
          { s with pool := s.pool ++ (s.manager.exitTasks (some out) ++ mode.enterTasks (some out)) } :=
        recalls_putOff hr fun text hmem => absurd (switchWork_quiet hmem) (by simp [Task.input?])
      exact ⟨hbuilt, hput.last, hput.pool, hput.speech⟩
  | @latch id mode inp _ _ _ _ =>
      have hput : Recalls P { s with pool := s.pool ++ (ModeSwitch.passAll mode.switches inp).2.1 } :=
        recalls_putOff hr fun text hmem => absurd (passAll_quiet _ _ _ hmem) (by simp [Task.input?])
      exact ⟨hbuilt, hput.last, hput.pool, hput.speech⟩
  | @putOff t chore =>
      refine recalls_putOff hr fun text hmem => ?_
      rw [← List.mem_singleton.mp hmem] at chore
      exact absurd chore (by simp [Task.isChore])
  | deliver u => exact recalls_putOff hr (by simp)
  | @replay text spoken source =>
      refine recalls_putOff hr fun text' hmem => ?_
      obtain rfl := Task.replay.inj (List.mem_singleton.mp hmem)
      rcases source with rfl | huttered
      · exact hr.last spoken
      · exact hutters _ spoken huttered
  | @compile v text spoken installed utterances compiled =>
      refine ⟨hbuilt, fun hne => ?_, hr.pool, fun commands hmem text' hne hc => ?_⟩
      · show P (v.compile s.lastSpeech text).2
        have hsome : (v.compile s.lastSpeech text).2 ≠ "" := hne
        rcases compile_last v s.lastSpeech text with ⟨_, he⟩ | ⟨_, he⟩
        · rw [he] at hsome ⊢
          exact hr.last hsome
        · rw [he]
          exact hspeaks text spoken
      · rcases List.mem_append.mp hmem with hmem | hmem
        · exact hr.speech commands hmem text' hne hc
        · -- what this text asks to be spoken again is what was remembered
          obtain ⟨joined, typing, hv⟩ := hr.built v installed
          rw [compiled commands hmem] at hc
          obtain ⟨rfl, _⟩ := (Vocabulary.replay_mem_compile hv _ _ _).mp hc
          exact hr.last hne
  | @stream d on rest head =>
      exact ⟨hbuilt, hr.last, fun text hmem => hr.pool text (head ▸ List.mem_cons_of_mem _ hmem), hr.speech⟩
  | @take t rest head _ =>
      exact ⟨hbuilt, hr.last, fun text hmem => hr.pool text (head ▸ List.mem_cons_of_mem _ hmem), hr.speech⟩
  | takeUtterance =>
      exact ⟨hbuilt, hr.last, hr.pool, fun commands hmem => hr.speech commands (List.mem_of_mem_tail hmem)⟩
  | _ => exact ⟨hbuilt, hr.last, hr.pool, hr.speech⟩

theorem deeds_recalls {c : Cause} (hspeaks : ∀ text, c.speaks text → P text)
    (hutters : ∀ text, text ≠ "" → c.utters (.replay text) → P text) (h : Deeds desk c s s') (hr : Recalls P s) :
    Recalls P s' := by
  induction h with
  | refl => exact hr
  | tail _ hdeed ih => exact deed_recalls hspeaks hutters hdeed ih

/-- Installing modes speaks nothing again. -/
theorem installed_recalls {cfg : Config} {modes : List Mode} {shifts : List Shift} (hc : Compiled cfg modes shifts)
    (first : Mode) (hlast : s.lastSpeech ≠ "" → P s.lastSpeech) (hpool : ∀ text, .replay text ∈ s.pool → P text)
    (hspeech : ∀ commands ∈ s.speech, ∀ text, text ≠ "" → .replay text ∈ commands → P text) :
    Recalls P (s.installed modes shifts first) := by
  refine ⟨fun v hv => ?_, hlast, fun text hmem => ?_, hspeech⟩
  · obtain ⟨name, args, hread⟩ := installed_actions hc first s _ hv
    exact readAction_built hread
  · have hmem' : .replay text ∈ s.pool ++ (s.manager.exitTasks none ++ first.enterTasks none) := by
      rw [← List.append_assoc]
      exact hmem
    rcases List.mem_append.mp hmem' with hmem' | hmem'
    · exact hpool text hmem'
    · exact absurd (switchWork_quiet hmem') (by simp [Task.input?])

/-- **One event** recalls texts of a kind when the texts that it hands to the modes become texts of that kind. -/
theorem act_recalls {e : Event} (hspeaks : ∀ text, (e.cause s).speaks text → P text) (hrun : Running s)
    (hr : Recalls P s) : Recalls P (after (e.act desk) s) := by
  rcases act_cases desk e hrun with ⟨cfg, made, rfl, h⟩ | ⟨cfg, made, modes, shifts, first, rfl, hc, h⟩ | hrow
  · rw [h]
    exact ⟨hr.built, hr.last, hr.pool, hr.speech⟩
  · rw [h]
    have hi : Recalls P ((s.withRecognizers made).installed modes shifts first) :=
      installed_recalls (compileRules_compiled hc).2 first hr.last hr.pool hr.speech
    exact ⟨hi.built, hi.last, hi.pool, hi.speech⟩
  · refine deeds_recalls hspeaks (fun text hne huttered => ?_) hrow hr
    obtain ⟨commands, hwaits, hmem⟩ := utters_mem huttered
    exact hr.speech commands hwaits text hne hmem

/-- The texts that a run may recall: those that came from outside, with the leads that they got. -/
def Heard.Recalled (desk : Desk) (s : Studio) (es : List Event) (said : String) : Prop :=
  ∃ text leads, Heard desk s es text leads ∧ said = led leads text

/-- **Every run** recalls what came from outside, with the leads that it got. -/
theorem run_recalls (es : List Event) (hrun : Running s) (hr : Recalls (Heard.Recalled desk s []) s) :
    Recalls (Heard.Recalled desk s es) (run desk es s) := by
  induction es using List.reverseRecOn with
  | nil => exact hr
  | append_singleton es e ih =>
      have hmore : ∀ text, Heard.Recalled desk s es text → Heard.Recalled desk s (es ++ [e]) text := by
        rintro said ⟨text, leads, hheard, hled⟩
        exact ⟨text, leads, .later hheard, hled⟩
      rw [run_append]
      refine act_recalls (fun said hspoken => ?_) (run_running es hrun) (recalls_mono hmore ih)
      obtain ⟨inp, text, mode, hi, ht, hmode, rfl⟩ := hspoken
      rcases hands_said hi ht with hsaid | hagain
      · exact ⟨text, _, .said hsaid hmode, rfl⟩
      · -- what is spoken again waited at the head of the queue, with the leads that it had
        obtain ⟨first, leads, hheard, rfl⟩ := ih.pool text (again_waits hagain)
        exact ⟨first, _, .again hheard hagain hmode, rfl⟩

/-- A program that is built in silence recalls nothing yet. -/
theorem build_recalls {cfg : Config} {start : Studio} (hb : Studio.build cfg start = .ok s) (hs : start.Silent) :
    Recalls P s := by
  obtain ⟨made, modes, shifts, first, _, hc, rfl⟩ := build_installed hb
  have hi : Recalls P ((start.withRecognizers made).installed modes shifts first) := by
    refine installed_recalls hc first (fun hne => absurd hs.last hne) ?_ ?_
    · simp [Studio.withRecognizers, hs.pool]
    · simp [Studio.withRecognizers, hs.speech]
  exact ⟨hi.built, hi.last, hi.pool, hi.speech⟩

/-! ## A text that is spoken again -/

/-- **What a mode hears** is the text with the lead of the mode in front of it. -/
theorem hearing_led {mode : Mode} (hs : ∀ k ∈ mode.switches, k.switch.ReadsController) {text : String}
    {heard : Vocabulary × String} (h : heard ∈ mode.hearing text) : heard.2 = leadOf mode.switches ++ text := by
  obtain ⟨t, _, out, hout, hsome⟩ := mem_hearing h
  obtain ⟨_, hsaid, _⟩ := hearing_some hsome
  rw [passAll_said hs hout] at hsaid
  exact (Option.some.inj hsaid).symm

/-- A row that compiles one text remembers it, or what was remembered before. -/
theorem compileRow_last {heard : List (Vocabulary × String)} {text : String} (ht : ∀ h ∈ heard, h.2 = text)
    (last : String) : (compileRow heard last).2 = last ∨ (compileRow heard last).2 = text := by
  induction heard generalizing last with
  | nil => exact .inl rfl
  | cons h rest ih =>
      obtain ⟨v, said⟩ := h
      obtain rfl : said = text := ht _ List.mem_cons_self
      have hone : (v.compile last said).2 = last ∨ (v.compile last said).2 = said :=
        (compile_last v last said).imp And.right And.right
      cases hf : (v.compile last said).1.fault with
      | some fault =>
          rw [compileRow_failed hf]
          exact hone
      | none =>
          rw [compileRow_made hf]
          rcases ih (fun h hmem => ht h (List.mem_cons_of_mem _ hmem)) (v.compile last said).2 with hrest | hrest
          · exact hone.imp hrest.trans hrest.trans
          · exact .inr hrest

/-- **A row without a failure** remembers the text exactly when some vocabulary finds no replay tag in it. -/
theorem compileRow_remembers {heard : List (Vocabulary × String)} {text last : String} (ht : ∀ h ∈ heard, h.2 = text)
    (hall : (compileRow heard last).1.length = heard.length) :
    (compileRow heard last).2 = if ∃ h ∈ heard, replayTag ∉ h.1.mapped h.2 then text else last := by
  induction heard generalizing last with
  | nil => simp [compileRow]
  | cons h rest ih =>
      obtain ⟨v, said⟩ := h
      obtain rfl : said = text := ht _ List.mem_cons_self
      cases hf : (v.compile last said).1.fault with
      | some fault =>
          rw [compileRow_failed hf] at hall
          exact absurd hall (by simp)
      | none =>
          rw [compileRow_made hf] at hall ⊢
          show (compileRow rest (v.compile last said).2).2 = _
          rw [ih (fun h hmem => ht h (List.mem_cons_of_mem _ hmem)) (by simpa using hall)]
          rcases compile_last v last said with ⟨htag, he⟩ | ⟨htag, he⟩
          · simp only [List.exists_mem_cons_iff, htag, not_true_eq_false, false_or, he]
          · simp only [List.exists_mem_cons_iff, htag, not_false_eq_true, true_or, if_true, he, ite_self]

/-- **A text that is spoken again** from the head of the queue: vocabularies of the current mode compile it, one after
another until something fails, with the lead of the mode in front of it, and remember it like that or not at all. When
nothing fails, they remember it exactly when one of them finds no replay tag in it. -/
structure SpeaksAgain (desk : Desk) (s : Studio) (text : String) (rest : List Task) (mode : Mode)
    (heard : List (Vocabulary × String)) : Prop where
  current : s.manager.currentMode? = some mode
  first : heard <+: mode.hearing text
  led : ∀ h ∈ heard, h.2 = leadOf mode.switches ++ text
  speech : (after (runHead desk .pool) s).speech = s.speech ++ (compileRow heard s.lastSpeech).1
  last : (after (runHead desk .pool) s).lastSpeech = s.lastSpeech ∨
    (after (runHead desk .pool) s).lastSpeech = leadOf mode.switches ++ text
  whole : ∀ s', handle desk (.spoken text) { s with pool := rest } = .ok () s' →
    heard = mode.hearing text ∧ (after (runHead desk .pool) s).lastSpeech
      = if ∃ h ∈ heard, replayTag ∉ h.1.mapped h.2 then leadOf mode.switches ++ text else s.lastSpeech

theorem replay_speaksAgain {text : String} {rest : List Task} (hrun : Running s)
    (hp : s.pool = .replay text :: rest) : ∃ mode heard, SpeaksAgain desk s text rest mode heard := by
  have hw : Wired { s with pool := rest } := wired_of_manager hrun.wired rfl
  obtain ⟨mode, heard, hmode, hh⟩ : ∃ mode heard, s.manager.currentMode? = some mode ∧
      Hears (handle desk (.spoken text)) (mode.hearing text) heard { s with pool := rest } := handle_hears text hw
  obtain ⟨id, _, hm⟩ := Option.bind_eq_some_iff.mp hmode
  have hswitches : ∀ k ∈ mode.switches, k.switch.ReadsController := hrun.switches mode (find_mem hm)
  have hled : ∀ h ∈ heard, h.2 = leadOf mode.switches ++ text :=
    fun h hmem => hearing_led hswitches (hh.first.subset hmem)
  -- running the head of the queue is handing the text to the modes, but for the record
  obtain ⟨more, hafter⟩ := after_recordFailure (handle desk (.spoken text)) { s with pool := rest }
  have hstep : after (runHead desk .pool) s
      = after (recordFailure (handle desk (.spoken text))) { s with pool := rest } := by
    rw [runHead_pool hp]
    rfl
  have hlast : (after (runHead desk .pool) s).lastSpeech = (compileRow heard s.lastSpeech).2 := by
    rw [hstep, hafter]
    exact hh.last
  refine ⟨mode, heard, hmode, hh.first, hled, ?_, ?_, fun s' hs' => ?_⟩
  · rw [hstep, hafter]
    exact hh.speech
  · rw [hlast]
    exact compileRow_last hled _
  · obtain ⟨hwhole, hlength⟩ := hh.whole s' hs'
    exact ⟨hwhole, hlast.trans (compileRow_remembers hled hlength)⟩

/-- **What is remembered, and what speaking it again makes of it.** In every run, reloads included, nothing is
remembered or a text that came from outside with leads in front of it, one for each time that it was handed to a mode;
it is the text itself exactly when all of them are empty. When a text is spoken again, the current mode compiles it with
its lead in front once more, and that is what is remembered then, if anything new is. -/
theorem last_speech_led {cfg : Config} {start : Studio} (hb : Studio.build cfg start = .ok s) (hs : start.Silent)
    (es : List Event) :
    ((run desk es s).lastSpeech = "" ∨ ∃ text leads, Said desk s es text ∧ Heard desk s es text leads ∧
      (run desk es s).lastSpeech = led leads text ∧
      ((run desk es s).lastSpeech = text ↔ ∀ lead ∈ leads, lead = "")) ∧
    ∀ text rest, (run desk es s).pool = .replay text :: rest →
      ∃ mode heard, SpeaksAgain desk (run desk es s) text rest mode heard := by
  have hrun : Running s := build_running hb hs.pool
  have hr : Recalls (Heard.Recalled desk s es) (run desk es s) := run_recalls es hrun (build_recalls hb hs)
  refine ⟨?_, fun text rest hp => replay_speaksAgain (run_running es hrun) hp⟩
  by_cases hne : (run desk es s).lastSpeech = ""
  · exact .inl hne
  · obtain ⟨text, leads, hheard, hled⟩ := hr.last hne
    refine .inr ⟨text, leads, heard_said hheard, hheard, hled, ?_⟩
    rw [hled]
    exact led_eq_iff

/-- A mode in which a button writes what is said in upper case, and another one speaks it again. -/
def shouting : Config :=
  { modes := [
      { declaration := .str "[idle] -id a"
        rules := [.str "[switch] button -id R -> [upper]",
          .str "[trigger] button -id Y -> [repeat]",
          .str "[trigger] speech -> [speech]"] }] }

/-- A word is said while the button for upper case is held, and is asked for again. -/
def shouted : List Event :=
  [.input (.press .r []), .line "hello", .work .speech, .input (.press .y [.r])]

/-- The tag of the switch is remembered, and there is one more of it after every replay. -/
theorem shouted_lengthens : ∃ s, Studio.build shouting {} = .ok s ∧
    (run .quiet shouted s).lastSpeech = "[upper] hello" ∧
    (run .quiet shouted s).pool = [.replay "[upper] hello"] ∧
    (run .quiet (shouted ++ [.work .pool]) s).lastSpeech = "[upper] [upper] hello" := by
  have h : (Studio.build shouting {}).toOption.any (fun s =>
      decide ((run .quiet shouted s).lastSpeech = "[upper] hello" ∧
        (run .quiet shouted s).pool.map Task.replayed? = [some "[upper] hello"] ∧
        (run .quiet (shouted ++ [.work .pool]) s).lastSpeech = "[upper] [upper] hello")) = true := by decide +kernel
  obtain ⟨s, hs, ht⟩ := exists_built h
  obtain ⟨hfirst, hp, hsecond⟩ := of_decide_eq_true ht
  exact ⟨s, hs, hfirst, eq_of_replayed hp, hsecond⟩

theorem last_speech_led_shouted : ∃ s, Studio.build shouting {} = .ok s ∧ Studio.Silent {} ∧
    (run .quiet shouted s).pool = [.replay "[upper] hello"] ∧
    ((run .quiet shouted s).lastSpeech = "" ∨ ∃ text leads, Said .quiet s shouted text ∧
      Heard .quiet s shouted text leads ∧ (run .quiet shouted s).lastSpeech = led leads text ∧
      ((run .quiet shouted s).lastSpeech = text ↔ ∀ lead ∈ leads, lead = "")) ∧
    ∃ mode heard, SpeaksAgain .quiet (run .quiet shouted s) "[upper] hello" [] mode heard := by
  obtain ⟨s, hb, _, hp, _⟩ := shouted_lengthens
  have hs : Studio.Silent {} := ⟨rfl, rfl, rfl⟩
  obtain ⟨hlast, hreplay⟩ := @last_speech_led .quiet s shouting {} hb hs shouted
  exact ⟨s, hb, hs, hp, hlast, hreplay _ _ hp⟩

/-- **What is remembered need not be what was said**: it is not so that in every run what is remembered is a text as it
came from outside, nor that speaking it again makes it no longer. -/
theorem last_speech_lengthens :
    (¬ ∀ (desk : Desk) (cfg : Config) (start s : Studio), Studio.build cfg start = .ok s → start.Silent →
      ∀ es : List Event, (run desk es s).lastSpeech = "" ∨ Said desk s es (run desk es s).lastSpeech) ∧
    ¬ ∀ (desk : Desk) (cfg : Config) (start s : Studio), Studio.build cfg start = .ok s → start.Silent →
      ∀ (es : List Event) (rest : List Task), (run desk es s).pool = .replay (run desk es s).lastSpeech :: rest →
        (run desk (es ++ [.work .pool]) s).lastSpeech.length ≤ (run desk es s).lastSpeech.length := by
  obtain ⟨s, hb, hlast, hp, hagain⟩ := shouted_lengthens
  constructor
  · intro h
    rcases h .quiet shouting {} s hb ⟨rfl, rfl, rfl⟩ shouted with hempty | ⟨before, e, later, hes, hsaid⟩
    · exact absurd (hlast.symm.trans hempty) (by decide)
    · -- the only event that hands on a text from outside hands on another one
      rw [hlast] at hsaid
      have hmem : e ∈ shouted := hes ▸ List.mem_append_right _ List.mem_cons_self
      have hline : Text.strip "hello" = "hello" := by decide +kernel
      simp only [shouted, List.mem_cons, List.not_mem_nil, or_false] at hmem
      rcases hmem with rfl | rfl | rfl | rfl
      · simp [Event.said?, Input.press, Input.said?] at hsaid
      · simp [Event.said?, hline] at hsaid
      · simp [Event.said?] at hsaid
      · simp [Event.said?, Input.press, Input.said?] at hsaid
  · intro h
    have hlength := h .quiet shouting {} s hb ⟨rfl, rfl, rfl⟩ shouted [] (by rw [hp, hlast])
    rw [hlast, hagain] at hlength
    exact absurd hlength (by decide +kernel)

end PadScribe
