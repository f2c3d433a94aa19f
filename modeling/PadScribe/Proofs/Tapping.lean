import PadScribe.Proofs.Deeds
import PadScribe.Proofs.Replaying

/-!
# `Proofs.Tapping` — the keys that are tapped

Keys reach the keyboard from three sources. A `[hotkey]` rule names its keys, and every name is checked when the
rule is read. A spoken hotkey takes keys from the words that follow, and every word is checked when it is compiled.
A word-mapping line may give its keys right away, and these are taken as they stand. So whatever is tapped is the
normal form of the keys that one of the three gave, and it is made of names of keys exactly when those were.

## Contents

* `Key.Proper`, `Key.normalize_proper_iff` — names of keys in their normal form
* `Config.Fixes`, `Vocabulary.build_fixes` — word-mapping lines that give keys
* `mem_compile_hotkey`, `readAction_hotkey` — the keys that are compiled, and those of rules
* `Studio.taps`, `Desk.ShowsTaps` — the keys that the record shows to have been tapped
* `Keyed`, `deed_keyed`, `act_keyed` — what a running program taps and will tap
* `taps_proper_iff` — every run
-/

namespace PadScribe

/-! ## Names of keys -/

namespace Key

/-- Keys as the keyboard takes them: at least one, and each the name of a key in its normal form. -/
def Proper (keys : List String) : Prop :=
  keys ≠ [] ∧ ∀ k ∈ keys, isKey k = true ∧ normalize k = k

instance (keys : List String) : Decidable (Proper keys) :=
  inferInstanceAs (Decidable (_ ∧ _))

/-- The normal form of the name of a key stays as it is. -/
theorem normalize_of_isKey {name : String} (h : isKey name = true) : normalize (normalize name) = normalize name := by
  have hkept : ∀ k ∈ named ++ modifiers, normalize k = k := by decide +kernel
  unfold isKey at h
  simp only [Bool.or_eq_true, List.contains_iff_mem] at h
  rcases h with (h | h) | h
  · unfold normalize at h ⊢
    rw [if_pos h]
  · exact hkept _ (List.mem_append_left _ h)
  · exact hkept _ (List.mem_append_right _ h)

/-- A name whose normal form stays as it is names a key exactly when its normal form does. -/
theorem isKey_normalize {name : String} (h : normalize (normalize name) = normalize name) :
    isKey (normalize name) = isKey name := by
  unfold isKey
  simp only [h]

/-- **Keys in their normal form are proper** exactly when they were names of keys before. -/
theorem normalize_proper_iff {keys : List String} (hne : keys ≠ []) :
    Proper (keys.map normalize) ↔ ∀ k ∈ keys, isKey k = true := by
  unfold Proper
  simp only [ne_eq, List.map_eq_nil_iff, hne, not_false_eq_true, true_and, List.forall_mem_map]
  constructor
  · intro h k hk
    obtain ⟨hkey, hnormal⟩ := h k hk
    rwa [isKey_normalize hnormal] at hkey
  · intro h k hk
    have hnormal := normalize_of_isKey (h k hk)
    exact ⟨(isKey_normalize hnormal).trans (h k hk), hnormal⟩

end Key

/-! ## Keys that are given -/

/-- A word-mapping line of a configuration gives keys to its phrase. -/
def Config.Fixes (cfg : Config) (keys : List String) : Prop :=
  ∃ mapping ∈ cfg.wordMappings, ∃ line, .str line ∈ mapping.2 ∧
    ∃ phrase, Vocabulary.splitLine line = .ok (phrase, "[hotkey]" :: keys)

namespace Vocabulary

variable {v v' : Vocabulary}

/-- A vocabulary has a phrase to which keys are given. -/
def Has (v : Vocabulary) (keys : List String) : Prop :=
  ∃ phrase, v.commands.tree.get? phrase = some (.hotkey keys)

/-- Making a phrase a command gives no other keys. -/
theorem has_command {phrase : List String} {r : Recipe} {keys : List String} (h : (v.command phrase r).Has keys) :
    v.Has keys ∨ r = .hotkey keys := by
  obtain ⟨other, hget⟩ := h
  rw [show (v.command phrase r).commands.tree = v.commands.tree.insert phrase r from rfl,
    PhraseTree.get?_insert] at hget
  by_cases ho : other = phrase
  · rw [if_pos ho] at hget
    exact .inr (Option.some.inj hget)
  · rw [if_neg ho] at hget
    exact .inl ⟨other, hget⟩

/-- The keys of a line are what stands after its tag. -/
theorem has_addRight {line tag : String} {phrase args keys : List String}
    (ha : v.addRight line phrase tag args = .ok v') (h : v'.Has keys) :
    v.Has keys ∨ (tag = "[hotkey]" ∧ args = keys) := by
  unfold addRight at ha
  split at ha
  · split at ha
    · exact absurd ha (by simp)
    · rw [← Except.ok.inj ha] at h
      exact .inl ((has_command h).resolve_right (by simp))
  · split at ha
    · rename_i htag
      rw [← Except.ok.inj ha] at h
      rcases has_command h with h | h
      · exact .inl h
      · split at h
        · exact absurd h (by simp)
        · exact .inr ⟨htag, Recipe.hotkey.inj h⟩
    · split at ha
      · split at ha
        · rw [← Except.ok.inj ha] at h
          exact .inl ((has_command h).resolve_right (by simp))
        · split at ha
          · rw [← Except.ok.inj ha] at h
            exact .inl ((has_command h).resolve_right (by simp))
          · exact absurd ha (by simp)
        · exact absurd ha (by simp)
      · rw [← Except.ok.inj ha] at h
        exact .inl h

theorem has_addLines {lines : List Json} {keys : List String} (ha : addLines lines v = .ok v') (h : v'.Has keys) :
    v.Has keys ∨ ∃ line, .str line ∈ lines ∧ ∃ phrase, splitLine line = .ok (phrase, "[hotkey]" :: keys) := by
  induction lines generalizing v with
  | nil =>
      rw [← Except.ok.inj ha] at h
      exact .inl h
  | cons item rest ih =>
      simp only [addLines] at ha
      split at ha
      · exact absurd ha (by simp)
      · rename_i line htext
        split at ha
        · exact absurd ha (by simp)
        · rename_i u hu
          rcases ih ha with hu' | ⟨line', hmem, hline⟩
          · unfold addLine at hu
            split at hu
            · exact absurd hu (by simp)
            · exact absurd hu (by simp)
            · exact absurd hu (by simp)
            · rename_i phrase tag args _ hsplit
              rcases has_addRight hu hu' with hv | ⟨rfl, rfl⟩
              · exact .inl hv
              · refine .inr ⟨line, ?_, phrase, hsplit⟩
                cases item with
                | str t =>
                    obtain rfl := Except.ok.inj htext
                    exact List.mem_cons_self
                | _ => exact absurd htext (by simp [Json.text])
          · exact .inr ⟨line', List.mem_cons_of_mem _ hmem, hline⟩

theorem has_addMappings {cfg : Config} {ids : List String} {keys : List String}
    (ha : addMappings cfg.wordMappings ids v = .ok v') (h : v'.Has keys) : v.Has keys ∨ cfg.Fixes keys := by
  induction ids generalizing v with
  | nil =>
      rw [← Except.ok.inj ha] at h
      exact .inl h
  | cons id rest ih =>
      simp only [addMappings] at ha
      split at ha
      · exact absurd ha (by simp)
      · rename_i lines hlookup
        split at ha
        · exact absurd ha (by simp)
        · rename_i u hu
          rcases ih ha with hu' | hfixed
          · rcases has_addLines hu hu' with hv | ⟨line, hmem, hline⟩
            · exact .inl hv
            · obtain ⟨before, after, hmappings, -⟩ := List.lookup_eq_some_iff.mp hlookup
              exact .inr ⟨(id, lines), by simp [hmappings], line, hmem, hline⟩
          · exact .inr hfixed

/-- **The keys that a vocabulary gives to phrases** stand on word-mapping lines. -/
theorem build_fixes {cfg : Config} {ids : List String} {castNumbers joined typing : Bool} {keys : List String}
    (hv : build cfg.wordMappings ids castNumbers joined typing = .ok v) (h : v.Has keys) : cfg.Fixes keys := by
  unfold build at hv
  simp only [] at hv
  have hbuiltIn : ∀ {u : Vocabulary}, u.addBuiltIn.Has keys → u.Has keys := by
    intro u hu
    have hstyles : ∀ styles : List CaseStyle, ∀ u : Vocabulary,
        (styles.foldl (fun v s => v.command [s.tag] (.style s)) u).Has keys → u.Has keys := by
      intro styles
      induction styles with
      | nil => exact fun u hu => hu
      | cons style rest ih => exact fun u hu => (has_command (ih _ hu)).resolve_right (by simp)
    exact hstyles _ u ((has_command hu).resolve_right (by simp))
  cases ha : addMappings cfg.wordMappings ids
      { castNumbers, joined, typing, mappingIds := ids,
        commands := { fallback := if typing then some (.typing joined) else none } } with
  | error e =>
      rw [ha] at hv
      exact absurd hv (by simp [Except.map])
  | ok u =>
      rw [ha] at hv
      rw [← Except.ok.inj hv] at h
      refine (has_addMappings ha (hbuiltIn h)).resolve_left ?_
      rintro ⟨phrase, hget⟩
      exact absurd hget (by simp [PhraseTree.get?_empty])

/-- **The keys of a spoken hotkey** are all names of keys. -/
theorem makeHotkey_keys {words keys : List String} {used : Nat}
    (h : Recipe.makeHotkey words = .ok (used, .hotkey keys)) : ∀ k ∈ keys, Key.isKey k = true := by
  unfold Recipe.makeHotkey at h
  simp only [] at h
  split at h
  · exact absurd h (by simp)
  · split at h
    · rename_i key _ _ hkey
      obtain ⟨-, hkeys⟩ := Prod.mk.inj (Except.ok.inj h)
      obtain rfl := Command.hotkey.inj hkeys
      intro k hk
      rcases List.mem_cons.mp hk with rfl | hk
      · exact hkey
      · -- the keys before the last one are modifiers
        have hmod : Key.isModifier k = true := List.mem_takeWhile_imp hk
        unfold Key.isModifier at hmod
        simp only [Key.isKey, Bool.or_eq_true]
        exact .inr hmod
    · exact absurd h (by simp)

/-- **The keys of an utterance** are names of keys, or the vocabulary gives them to a phrase. -/
theorem mem_compile_hotkey {joined typing : Bool} (hv : v.Built joined typing) {last text : String}
    {keys : List String} (h : .hotkey keys ∈ (v.compile last text).1.commands) :
    (∀ k ∈ keys, Key.isKey k = true) ∨ v.Has keys := by
  have hcommands := (compileFrom_eq hv (if (v.mapped text).contains replayTag then last else text) [] []
    (v.mapped text)).1.trans (foldl_push_nil _)
  change (v.compile last text).1.commands = _ at hcommands
  rw [hcommands, mem_merge (by simp), List.mem_flatMap] at h
  obtain ⟨p, hp, hc⟩ := h
  cases p with
  | made phrase used c =>
      obtain rfl := List.mem_singleton.mp hc
      obtain ⟨r, after, n, hget, hmake, _⟩ := made_of_mem hp
      cases r with
      | hotkey fixed =>
          obtain ⟨-, hkeys⟩ := Prod.mk.inj (Except.ok.inj hmake)
          obtain rfl := Command.hotkey.inj hkeys
          exact .inr ⟨phrase, hget⟩
      | spokenHotkey =>
          simp only [Recipe.make] at hmake
          split at hmake
          · rename_i made hmade
            rw [Except.ok.inj hmake] at hmade
            exact .inl (makeHotkey_keys hmade)
          · exact absurd hmake (by simp)
      | spokenDelay =>
          obtain ⟨seconds, he⟩ := Recipe.makeDelay_ok hmake
          exact absurd he (by simp)
      | _ =>
          obtain ⟨-, he⟩ := Prod.mk.inj (Except.ok.inj hmake)
          exact absurd he (by simp)
  | typed w => exact absurd (List.mem_singleton.mp hc) (by simp)
  | _ => exact absurd hc (by simp [Piece.commands])

end Vocabulary

/-- **The keys of a rule** have been checked when the rule was read. -/
theorem readAction_hotkey {mappings : List (String × List Json)} {name : String} {args keys : List String}
    (h : Rule.readAction mappings name args = .ok (.hotkey keys)) : ∀ k ∈ keys, Key.isKey k = true := by
  unfold Rule.readAction at h
  simp only [] at h
  -- the keywords one after another: all but one make an action that taps no keys
  rcases ite_eq_iff.mp h with ⟨_, h⟩ | ⟨_, h⟩
  · exact (not_of_options (fun _ => Action.noConfusion) h).elim
  rcases ite_eq_iff.mp h with ⟨_, h⟩ | ⟨_, h⟩
  · exact (not_of_options (fun _ => Action.noConfusion) h).elim
  rcases ite_eq_iff.mp h with ⟨_, h⟩ | ⟨_, h⟩
  · -- the keyword of keys, among which no unknown one was found
    obtain ⟨opts, _, h⟩ := except_bind_ok h
    split at h
    · exact absurd h (by simp)
    · rename_i hnone
      obtain rfl := Action.hotkey.inj (Except.ok.inj h)
      intro k hk
      have hknown := List.find?_eq_none.mp hnone k hk
      simpa using hknown
  rcases ite_eq_iff.mp h with ⟨_, h⟩ | ⟨_, h⟩
  · exact (not_of_options (fun _ => Action.noConfusion) h).elim
  rcases ite_eq_iff.mp h with ⟨_, h⟩ | ⟨_, h⟩
  · exact (not_of_options (fun _ => Action.noConfusion) h).elim
  rcases ite_eq_iff.mp h with ⟨_, h⟩ | ⟨_, h⟩
  · obtain ⟨opts, _, h⟩ := except_bind_ok h
    split at h
    · exact absurd h (by simp [pure, Except.pure])
    · exact absurd h (by simp)
    · exact absurd h (by simp)
  rcases ite_eq_iff.mp h with ⟨_, h⟩ | ⟨_, h⟩
  · exact (not_of_options (fun _ => Action.noConfusion) h).elim
  rcases ite_eq_iff.mp h with ⟨_, h⟩ | ⟨_, h⟩
  · exact (not_of_options (fun _ => Action.noConfusion) h).elim
  rcases ite_eq_iff.mp h with ⟨_, h⟩ | ⟨_, h⟩
  · exact (not_of_options (fun _ => Action.noConfusion) h).elim
  · exact absurd h (by simp)

/-! ## The keys that are tapped -/

/-- The keys that the record shows to have been tapped. -/
def Effect.tapped? : Effect → Option (List String)
  | tap keys => some keys
  | _ => none

/-- The keys that were tapped so far, one row for each tap. -/
def Studio.taps (s : Studio) : List (List String) :=
  s.record.filterMap Effect.tapped?

/-- **A desk whose record shows what is tapped**: nothing else as tapped than the keys that the keyboard was asked to
tap. -/
structure Desk.ShowsTaps (desk : Desk) : Prop where
  tap : ∀ keys, ∀ shown ∈ (desk.keyboard (.tap keys)).effects.filterMap Effect.tapped?, shown = keys
  write : ∀ text, (desk.keyboard (.typeText text)).effects.filterMap Effect.tapped? = []
  pointer : ∀ q, (desk.pointer q).effects.filterMap Effect.tapped? = []
  notifier : ∀ q, (desk.notifier q).effects.filterMap Effect.tapped? = []

theorem plain_showsTaps (shell : List String → ShellResult) : (Desk.plain shell).ShowsTaps where
  tap keys shown h := List.mem_singleton.mp h
  write _ := rfl
  pointer q := by cases q <;> rfl
  notifier q := by cases q <;> rfl

variable {desk : Desk} {fixed : List String → Prop} {s s' : Studio}

/-- Keys that have been checked, or that a word-mapping line gives. -/
def Given (fixed : List String → Prop) (keys : List String) : Prop :=
  (∀ k ∈ keys, Key.isKey k = true) ∨ fixed keys

/-- An action that taps and compiles given keys only. -/
def Action.Gives (fixed : List String → Prop) : Action → Prop
  | hotkey keys => Given fixed keys
  | speech v => (∃ joined typing, v.Built joined typing) ∧ ∀ keys, v.Has keys → fixed keys
  | _ => True

/-- **The keys of a running program**: every key that was tapped, that waits in an utterance or that an action may tap
is one that was given. -/
structure Keyed (fixed : List String → Prop) (s : Studio) : Prop where
  actions : ∀ a ∈ s.manager.actions, a.Gives fixed
  speech : ∀ commands ∈ s.speech, ∀ keys, .hotkey keys ∈ commands → Given fixed keys
  taps : ∀ shown ∈ s.taps, ∃ keys, keys ≠ [] ∧ shown = keys.map Key.normalize ∧ Given fixed keys

/-- Effects that show nothing as tapped. -/
theorem taps_append {es : List Effect} (h : es.filterMap Effect.tapped? = []) (s : Studio) :
    Studio.taps { s with record := s.record ++ es } = s.taps := by
  unfold Studio.taps
  rw [List.filterMap_append, h, List.append_nil]

/-- **A deed taps and compiles given keys only.** -/
theorem deed_keyed (hd : desk.ShowsTaps) {c : Cause} (hc : ∀ keys, c.utters (.hotkey keys) → Given fixed keys)
    (h : Deed desk c s s') (hk : Keyed fixed s) : Keyed fixed s' := by
  have hactions : ∀ a ∈ s'.manager.actions, a.Gives fixed := by
    rw [actions_eq_of_setup (deed_setup h)]
    exact hk.actions
  -- a deed after which the record shows no more taps
  have hsame : s'.speech = s.speech → s'.taps = s.taps → Keyed fixed s' := by
    intro hspeech htaps
    exact ⟨hactions, hspeech ▸ hk.speech, htaps ▸ hk.taps⟩
  cases h with
  | hand _ => exact hsame rfl (taps_append rfl s)
  | switch _ _ _ => exact hsame rfl (taps_append rfl s)
  | @compile v text _ installed utterances compiled =>
      obtain ⟨⟨joined, typing, hv⟩, hfixed⟩ := hk.actions _ installed
      refine ⟨hactions, fun commands hmem keys hkeys => ?_, ?_⟩
      · rcases List.mem_append.mp hmem with hmem | hmem
        · exact hk.speech commands hmem keys hkeys
        · rw [compiled commands hmem] at hkeys
          exact (Vocabulary.mem_compile_hotkey hv hkeys).imp id (hfixed keys)
      · have htaps := taps_append (dropped_shows (fun _ => rfl) (v.compile s.lastSpeech text).1.dropped) s
        exact htaps ▸ hk.taps
  | point q => exact hsame rfl (taps_append (hd.pointer q) s)
  | notice q => exact hsame rfl (taps_append (hd.notifier q) s)
  | write text => exact hsame rfl (taps_append (hd.write text) s)
  | @tap keys given source =>
      have hgiven : Given fixed keys := source.elim (fun hin => hk.actions _ hin) (hc keys)
      refine ⟨hactions, hk.speech, fun shown hshown => ?_⟩
      unfold Studio.taps at hshown
      rw [List.filterMap_append] at hshown
      rcases List.mem_append.mp hshown with hshown | hshown
      · exact hk.taps shown hshown
      · exact ⟨keys, given, hd.tap _ shown hshown, hgiven⟩
  | @note e note =>
      refine hsame rfl (taps_append ?_ s)
      cases e with
      | tap keys => exact absurd note (by simp [Effect.isNote])
      | _ => rfl
  | @stream d on rest head =>
      refine hsame rfl (taps_append (s := { s with pool := rest }) ?_)
      unfold Device.streamed
      split <;> rfl
  | takeUtterance =>
      exact ⟨hactions, fun commands hmem => hk.speech commands (List.mem_of_mem_tail hmem), hk.taps⟩
  | _ => exact hsame rfl rfl

theorem deeds_keyed (hd : desk.ShowsTaps) {c : Cause} (hc : ∀ keys, c.utters (.hotkey keys) → Given fixed keys)
    (h : Deeds desk c s s') (hk : Keyed fixed s) : Keyed fixed s' := by
  induction h with
  | refl => exact hk
  | tail _ hdeed ih => exact deed_keyed hd hc hdeed ih

/-! ## Every run -/

/-- The actions of a configuration give keys that have been checked, or that its word-mapping lines give. -/
theorem compiled_gives {cfg : Config} {modes : List Mode} {shifts : List Shift} (hc : Compiled cfg modes shifts)
    (first : Mode) (hfixed : ∀ keys, cfg.Fixes keys → fixed keys) :
    ∀ a ∈ (s.installed modes shifts first).manager.actions, a.Gives fixed := by
  intro a ha
  obtain ⟨name, args, hread⟩ := installed_actions hc first s a ha
  cases a with
  | hotkey keys => exact .inl (readAction_hotkey hread)
  | speech v =>
      obtain ⟨_, _, joined, typing, hv⟩ := readAction_builds hread
      exact ⟨⟨joined, typing, Vocabulary.build_built hv⟩,
        fun keys hkeys => hfixed keys (Vocabulary.build_fixes hv hkeys)⟩
  | _ => trivial

/-- Installing modes taps nothing and compiles nothing. -/
theorem installed_keyed {cfg : Config} {modes : List Mode} {shifts : List Shift} (hc : Compiled cfg modes shifts)
    (first : Mode) (hfixed : ∀ keys, cfg.Fixes keys → fixed keys)
    (hspeech : ∀ commands ∈ s.speech, ∀ keys, .hotkey keys ∈ commands → Given fixed keys)
    (htaps : ∀ shown ∈ s.taps, ∃ keys, keys ≠ [] ∧ shown = keys.map Key.normalize ∧ Given fixed keys) :
    Keyed fixed (s.installed modes shifts first) := by
  have hsame : (s.installed modes shifts first).taps = s.taps := taps_append rfl s
  exact ⟨compiled_gives hc first hfixed, hspeech, hsame ▸ htaps⟩

/-- **One event** taps given keys only. -/
theorem act_keyed (hd : desk.ShowsTaps) {e : Event}
    (he : ∀ cfg, e = .reload cfg → ∀ keys, cfg.Fixes keys → fixed keys) (hrun : Running s)
    (hk : Keyed fixed s) : Keyed fixed (after (e.act desk) s) := by
  rcases act_cases desk e hrun with ⟨cfg, made, rfl, h⟩ | ⟨cfg, made, modes, shifts, first, rfl, hc, h⟩ | hrow
  · rw [h]
    exact ⟨hk.actions, hk.speech, hk.taps⟩
  · rw [h]
    have hi : Keyed fixed ((s.withRecognizers made).installed modes shifts first) :=
      installed_keyed (compileRules_compiled hc).2 first (he cfg rfl) hk.speech hk.taps
    exact ⟨hi.actions, hi.speech, hi.taps⟩
  · -- what the utterance at the head taps was given when it was compiled
    refine deeds_keyed hd (fun keys hkeys => ?_) hrow hk
    obtain ⟨commands, hwaits, hmem⟩ := utters_mem hkeys
    exact hk.speech commands hwaits keys hmem

/-- **Which keys are tapped.** In every run, reloads included, whatever is tapped is the normal form of at least one
key that a checked rule or a spoken hotkey named, or that a word-mapping line of a configuration gave. It is made of
names of keys in their normal form exactly when the keys that were given are all names of keys. -/
theorem taps_proper_iff (hd : desk.ShowsTaps) {cfg : Config} {start : Studio}
    (hb : Studio.build cfg start = .ok s) (hsilent : start.Silent) (htaps : start.taps = []) {es : List Event}
    {shown : List String} (h : shown ∈ (run desk es s).taps) :
    ∃ keys, keys ≠ [] ∧ shown = keys.map Key.normalize ∧
      ((∀ k ∈ keys, Key.isKey k = true) ∨ ∃ read ∈ configsOf cfg es, read.Fixes keys) ∧
      (Key.Proper shown ↔ ∀ k ∈ keys, Key.isKey k = true) := by
  have hfixed : ∀ read ∈ configsOf cfg es, ∀ keys, read.Fixes keys →
      ∃ read ∈ configsOf cfg es, read.Fixes keys := fun read hread keys hkeys => ⟨read, hread, hkeys⟩
  have hstart : Keyed (fun keys => ∃ read ∈ configsOf cfg es, read.Fixes keys) s := by
    obtain ⟨made, modes, shifts, first, _, hc, rfl⟩ := build_installed hb
    have hi : Keyed (fun keys => ∃ read ∈ configsOf cfg es, read.Fixes keys)
        ((start.withRecognizers made).installed modes shifts first) := by
      refine installed_keyed hc first (hfixed cfg List.mem_cons_self) ?_ ?_
      · simp [Studio.withRecognizers, hsilent.speech]
      · intro shown hshown
        exact absurd (show shown ∈ start.taps from hshown) (by simp [htaps])
    exact ⟨hi.actions, hi.speech, hi.taps⟩
  have hkeep : Keyed (fun keys => ∃ read ∈ configsOf cfg es, read.Fixes keys) (run desk es s) ∧
      Running (run desk es s) := by
    refine afterAll_keep_of_mem (P := fun t => Keyed _ t ∧ Running t) (fun e he t ht => ?_)
      ⟨hstart, build_running hb hsilent.pool⟩
    refine ⟨act_keyed hd (fun read hr => hfixed read ?_) ht.2 ht.1, act_running e ht.2⟩
    subst hr
    exact List.mem_cons_of_mem _ (List.mem_filterMap.mpr ⟨_, he, rfl⟩)
  obtain ⟨keys, hne, rfl, hgiven⟩ := hkeep.1.taps shown h
  exact ⟨keys, hne, rfl, hgiven, Key.normalize_proper_iff hne⟩

/-- A line that gives a word as keys that is no name of a key, beside a rule and a spoken hotkey. -/
def misspelt : Config :=
  { modes := [
      { declaration := .str "[idle] -id a"
        rules := [.str "[trigger] button -id Y -> [hotkey] -keys C Control",
          .str "[trigger] speech -> [speech] -map m"] }]
    wordMappings := [("m", [.str "boom -> [hotkey] nokey", .str "press -> [hotkey]"])] }

/-- A button goes down, and then two texts are spoken. -/
def pressedAndSaid : List Event :=
  [.input (.press .y []), .line "press shift A", .line "boom", .work .speech, .work .speech]

theorem misspelt_taps : ∃ s, Studio.build misspelt {} = .ok s ∧
    (run .quiet pressedAndSaid s).taps = [["C", "ctrl"], ["A", "shift"], ["nokey"]] := by
  have h : (Studio.build misspelt {}).toOption.any (fun s =>
      (run .quiet pressedAndSaid s).taps == [["C", "ctrl"], ["A", "shift"], ["nokey"]]) = true := by decide +kernel
  obtain ⟨s, hs, ht⟩ := exists_built h
  exact ⟨s, hs, by simpa using ht⟩

theorem taps_proper_iff_misspelt : ∃ s, Desk.quiet.ShowsTaps ∧ Studio.build misspelt {} = .ok s ∧
    Studio.Silent {} ∧ Studio.taps {} = [] ∧ ["nokey"] ∈ (run .quiet pressedAndSaid s).taps ∧
    ∃ keys, keys ≠ [] ∧ ["nokey"] = keys.map Key.normalize ∧
      ((∀ k ∈ keys, Key.isKey k = true) ∨ ∃ read ∈ configsOf misspelt pressedAndSaid, read.Fixes keys) ∧
      (Key.Proper ["nokey"] ↔ ∀ k ∈ keys, Key.isKey k = true) := by
  obtain ⟨s, hb, htaps⟩ := misspelt_taps
  have hin : ["nokey"] ∈ (run .quiet pressedAndSaid s).taps := by simp [htaps]
  have hs : Studio.Silent {} := ⟨rfl, rfl, rfl⟩
  exact ⟨s, plain_showsTaps _, hb, hs, rfl, hin, taps_proper_iff (plain_showsTaps _) hb hs rfl hin⟩

/-- **A word-mapping line may give keys that are no keys**: it is not so that whatever is tapped is made of names of
keys in their normal form. -/
theorem taps_no_key : ¬ ∀ (desk : Desk) (cfg : Config) (start s : Studio), desk.ShowsTaps →
    Studio.build cfg start = .ok s → start.Silent → start.taps = [] → ∀ es : List Event,
      ∀ shown ∈ (run desk es s).taps, Key.Proper shown := by
  intro h
  obtain ⟨s, hb, htaps⟩ := misspelt_taps
  have hproper : Key.Proper ["nokey"] :=
    h .quiet misspelt {} s (plain_showsTaps _) hb ⟨rfl, rfl, rfl⟩ rfl pressedAndSaid _ (by simp [htaps])
  exact absurd hproper (by decide +kernel)

end PadScribe
