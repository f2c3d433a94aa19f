import PadScribe.Proofs.Replaying

/-!
# `Proofs.Sharing` — vocabularies that share what was spoken last

All vocabularies of a program share one memory of what was spoken last. Each text that one of them compiles is left
there to be spoken again, unless the vocabulary finds the replay tag in it, and a text that asks for a replay is
compiled to one of what was left there. So whatever vocabularies compile texts one after another, a replay speaks the
last text before it in which no tag was found; and compiling a text twice in a row is compiling it once.

## Contents

* `compileSpeech_apply` — compiling one text
* `compileCall`, `leftBy`, `afterAll_lastSpeech` — what texts that are compiled one after another leave to be spoken
* `replay_carries_last` — a text after others, and the same text once more
-/

namespace PadScribe

variable {s s' : Studio}

/-- **Compiling a text** fails or yields its commands, and remembers what is spoken last either way. -/
theorem compileSpeech_apply (v : Vocabulary) (text : String) (s : Studio) :
    compileSpeech v text s = match (v.compile s.lastSpeech text).1.fault with
      | some fault => .error fault (heardBy v text s)
      | none => .ok (v.compile s.lastSpeech text).1.commands (heardBy v text s) := by
  unfold compileSpeech
  simp only [bind_apply, get_apply, modify_apply]
  cases h : (v.compile s.lastSpeech text).1.fault <;> simp [heardBy]

/-- A text that is compiled without failing. -/
theorem compileSpeech_ok_iff {v : Vocabulary} {text : String} {commands : List Command} :
    compileSpeech v text s = .ok commands s' ↔ (v.compile s.lastSpeech text).1.fault = none ∧
      commands = (v.compile s.lastSpeech text).1.commands ∧ s' = heardBy v text s := by
  rw [compileSpeech_apply]
  cases (v.compile s.lastSpeech text).1.fault with
  | some fault => simp
  | none =>
      simp only [true_and]
      constructor
      · intro h
        obtain ⟨rfl, rfl⟩ := EStateM.Result.ok.inj h
        exact ⟨rfl, rfl⟩
      · rintro ⟨rfl, rfl⟩
        rfl

/-! ## Texts one after another -/

/-- A vocabulary compiles a text. -/
def compileCall (c : Vocabulary × String) : Step (List Command) :=
  compileSpeech c.1 c.2

/-- **What some texts leave to be spoken again**, compiled one after another by their vocabularies: the last of them in
which no replay tag was found. -/
def leftBy (calls : List (Vocabulary × String)) : Option String :=
  (calls.filter fun c => replayTag ∉ c.1.mapped c.2).getLast?.map Prod.snd

theorem after_compileCall (c : Vocabulary × String) (s : Studio) : after (compileCall c) s = heardBy c.1 c.2 s := by
  unfold compileCall after
  rw [compileSpeech_apply]
  cases (c.1.compile s.lastSpeech c.2).1.fault <;> rfl

theorem leftBy_concat (calls : List (Vocabulary × String)) (c : Vocabulary × String) :
    leftBy (calls ++ [c]) = if replayTag ∈ c.1.mapped c.2 then leftBy calls else some c.2 := by
  unfold leftBy
  by_cases htag : replayTag ∈ c.1.mapped c.2
  · simp [htag]
  · simp [htag]

/-- **What is spoken last** after some texts were compiled is what they left to be spoken again, if they left
anything. -/
theorem afterAll_lastSpeech (calls : List (Vocabulary × String)) (s : Studio) :
    (afterAll compileCall calls s).lastSpeech = (leftBy calls).getD s.lastSpeech := by
  induction calls using List.reverseRecOn with
  | nil => rfl
  | append_singleton calls c ih =>
      rw [afterAll_concat, after_compileCall, leftBy_concat]
      show (c.1.compile (afterAll compileCall calls s).lastSpeech c.2).2 = _
      rcases compile_last c.1 (afterAll compileCall calls s).lastSpeech c.2 with ⟨htag, he⟩ | ⟨htag, he⟩
      · rw [he, ih, if_pos htag]
      · rw [he, if_neg htag]
        rfl

/-- A text that was compiled is compiled to the same once more, and what is spoken last stays as it is. -/
theorem compile_again (v : Vocabulary) (last text : String) :
    v.compile (v.compile last text).2 text = v.compile last text := by
  rcases compile_last v last text with ⟨_, he⟩ | ⟨htag, he⟩
  · rw [he]
  · have hno : (v.mapped text).contains replayTag = false := by simpa using htag
    rw [he]
    unfold Vocabulary.compile
    simp only [hno]
    rfl

/-- **A replay carries the last text that was left to it.** Whatever vocabularies have compiled texts before, starting
with nothing to be spoken again: the replays that a text asks for speak the last text before it in which no replay tag
was found, and nothing when there is none. A text in which the tag is found leaves what is spoken last as it is. And
the text compiles to the same commands once more, and leaves the same to be spoken last. -/
theorem replay_carries_last {mappings : List (String × List Json)} {ids : List String}
    {castNumbers joined typing : Bool} {v : Vocabulary}
    (hv : Vocabulary.build mappings ids castNumbers joined typing = .ok v) (earlier : List (Vocabulary × String))
    (hs : s.lastSpeech = "") {text : String} {commands : List Command}
    (h : compileCall (v, text) (afterAll compileCall earlier s) = .ok commands s') :
    (∀ said, .replay said ∈ commands ↔ said = (leftBy earlier).getD "" ∧ v.asks text) ∧
    (replayTag ∈ v.mapped text → s'.lastSpeech = (afterAll compileCall earlier s).lastSpeech) ∧
    s'.lastSpeech = (leftBy (earlier ++ [(v, text)])).getD "" ∧
    ∃ s'', compileCall (v, text) s' = .ok commands s'' ∧ s''.lastSpeech = s'.lastSpeech := by
  have hlast : (afterAll compileCall earlier s).lastSpeech = (leftBy earlier).getD "" := by
    rw [afterAll_lastSpeech, hs]
  obtain ⟨hfault, rfl, rfl⟩ := compileSpeech_ok_iff.mp h
  refine ⟨fun said => ?_, fun htag => ?_, ?_, ?_⟩
  · rw [Vocabulary.replay_mem_compile (Vocabulary.build_built hv), hlast]
  · rcases compile_last v (afterAll compileCall earlier s).lastSpeech text with ⟨_, he⟩ | ⟨hno, _⟩
    · exact he
    · exact absurd htag hno
  · have hmore := afterAll_lastSpeech (earlier ++ [(v, text)]) s
    rw [afterAll_concat, after_compileCall, hs] at hmore
    exact hmore
  · have hagain := compile_again v (afterAll compileCall earlier s).lastSpeech text
    refine ⟨heardBy v text (heardBy v text (afterAll compileCall earlier s)),
      compileSpeech_ok_iff.mpr ⟨?_, ?_, rfl⟩, ?_⟩
    · show (v.compile (v.compile _ text).2 text).1.fault = none
      rw [hagain]
      exact hfault
    · show _ = (v.compile (v.compile _ text).2 text).1.commands
      rw [hagain]
    · show (v.compile (v.compile _ text).2 text).2 = (v.compile _ text).2
      rw [hagain]

/-- A word that asks for a replay. -/
def againLines : List (String × List Json) :=
  [("m", [.str "again -> [repeat]"])]

/-- One vocabulary finds the replay tag in a word in which another one does not. -/
theorem replay_carries_last_shared : ∃ plain v : Vocabulary, Vocabulary.build [] [] true true true = .ok plain ∧
    Vocabulary.build againLines ["m"] true true true = .ok v ∧
    leftBy [(v, "hello"), (plain, "again"), (v, "again")] = some "again" ∧
    ∃ commands s', compileCall (v, "go again") (afterAll compileCall [(v, "hello"), (plain, "again"), (v, "again")] {})
        = .ok commands s' ∧ (∀ said, .replay said ∈ commands ↔ said = "again" ∧ v.asks "go again") ∧
      s'.lastSpeech = "again" := by
  have h : (match Vocabulary.build [] [] true true true, Vocabulary.build againLines ["m"] true true true with
      | .ok plain, .ok v =>
        decide (leftBy [(v, "hello"), (plain, "again"), (v, "again")] = some "again") &&
          decide (leftBy ([(v, "hello"), (plain, "again"), (v, "again")] ++ [(v, "go again")]) = some "again") &&
          (v.compile "again" "go again").1.fault.isNone
      | _, _ => false) = true := by decide +kernel
  split at h
  case h_2 => exact absurd h (by simp)
  rename_i plain v hplain hv
  simp only [Bool.and_eq_true, decide_eq_true_eq, Option.isNone_iff_eq_none] at h
  obtain ⟨⟨hleft, hmore⟩, hfault⟩ := h
  have hlast : (afterAll compileCall [(v, "hello"), (plain, "again"), (v, "again")] {}).lastSpeech = "again" := by
    rw [afterAll_lastSpeech, hleft]
    rfl
  have hcall : compileCall (v, "go again") (afterAll compileCall [(v, "hello"), (plain, "again"), (v, "again")] {})
      = .ok _ _ := compileSpeech_ok_iff.mpr ⟨by rw [hlast]; exact hfault, rfl, rfl⟩
  obtain ⟨hspoken, -, hthen, -⟩ := replay_carries_last hv [(v, "hello"), (plain, "again"), (v, "again")] rfl hcall
  rw [hleft] at hspoken
  rw [hmore] at hthen
  exact ⟨plain, v, hplain, hv, hleft, _, _, hcall, hspoken, hthen⟩

end PadScribe
