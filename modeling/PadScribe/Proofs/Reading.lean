import Mathlib.Data.List.Chain
import Mathlib.Data.List.TakeWhile
import PadScribe.Proofs.Phrases
import PadScribe.Speech.Vocabulary

/-!
# `Proofs.Reading` — how the words of an utterance become commands

Compiling an utterance walks its words once, with an accumulator in which typed words are joined on the way.
What comes of it is said here in two steps that know nothing of each other. `Vocabulary.pieces` cuts the words:
at each place the longest command phrase is taken with the words that its recipe uses, or without them when
they do not fit, and a word that starts no phrase stands alone. `merge` joins typed words: every longest run of
typed words none of which is a lone space becomes one command.

## Contents

* `Piece`, `Vocabulary.pieces` — the words cut into pieces
* `Command.isPlain`, `merge` — typed words joined
* `Vocabulary.Built`, `build_built` — vocabularies as they are built
* `foldl_push`, `compileFrom_eq` — the walk with its accumulator
* `compile_reads` — an utterance
-/

namespace PadScribe

/-! ## Pieces -/

/-- What a row of words is cut into. -/
inductive Piece where
  /-- A phrase, and the further words that its recipe made a command from. -/
  | made (phrase used : List String) (c : Command)
  /-- A phrase whose further words do not fit. -/
  | rejected (phrase : List String) (e : SpokenError)
  /-- A word that is typed. -/
  | typed (word : String)
  /-- A word that nothing is done with. -/
  | dropped (word : String)
  /-- The words that were left when a recipe failed. -/
  | failed (rest : List String) (fault : Fault)

namespace Piece

/-- The words of a piece. -/
def words : Piece → List String
  | made phrase used _ => phrase ++ used
  | rejected phrase _ => phrase
  | typed word => [word]
  | dropped word => [word]
  | failed rest _ => rest

/-- The commands of a piece, before typed words are joined. -/
def commands (joined : Bool) : Piece → List Command
  | made _ _ c => [c]
  | typed word => [.typing [word] joined]
  | _ => []

/-- The failure that ends the reading. -/
def fault? : Piece → Option Fault
  | failed _ fault => some fault
  | _ => none

end Piece

namespace Vocabulary

/-- **The words cut into pieces** from the left. `last` is what a replay speaks. -/
def pieces (v : Vocabulary) (last : String) : List String → List Piece
  | [] => []
  | w :: rest =>
    match v.commands.tree.longest (w :: rest) (rest.length + 1) with
    | some (n, recipe) =>
      let phrase := w :: rest.take (n - 1)
      let after := rest.drop (n - 1)
      match recipe.make last after with
      | .ok (used, c) => .made phrase (after.take used) c :: pieces v last (after.drop used)
      | .error (.spoken e) => .rejected phrase e :: pieces v last after
      | .error fault => [.failed (w :: rest) fault]
    | none => (if v.typing then .typed w else .dropped w) :: pieces v last rest
  termination_by words => words.length
  decreasing_by all_goals simp +arith [List.length_drop]

/-- **No word is lost, read twice or moved.** -/
theorem pieces_words (v : Vocabulary) (last : String) (words : List String) :
    (v.pieces last words).flatMap Piece.words = words := by
  fun_induction pieces v last words with
  | case1 => rfl
  | case2 w rest n recipe _ phrase after used c _ ih =>
      simp only [List.flatMap_cons, Piece.words, ih, List.append_assoc, List.take_append_drop]
      simp [phrase, after]
  | case3 w rest n recipe _ phrase after e _ ih =>
      simp only [List.flatMap_cons, Piece.words, ih]
      simp [phrase, after]
  | case4 w rest n recipe _ after fault _ _ => simp [Piece.words]
  | case5 w rest _ ih =>
      have hw : (if v.typing then Piece.typed w else Piece.dropped w).words = [w] := by
        split <;> rfl
      simp only [List.flatMap_cons, hw, ih, List.singleton_append]

end Vocabulary

/-! ## Typed words joined -/

namespace Command

/-- Whether a command types words that are not a lone space. -/
def isPlain : Command → Bool
  | typing ws _ => !Vocabulary.isSpace ws
  | _ => false

/-- The words that a command types. -/
def typedWords : Command → List String
  | typing ws _ => ws
  | _ => []

/-- The command with more words to type. -/
def extend (more : List String) : Command → Command
  | typing ws joined => .typing (ws ++ more) joined
  | c => c

end Command

/-- **Typed words joined**: every longest run of typed words none of which is a lone space becomes one command. -/
def merge : List Command → List Command
  | [] => []
  | c :: cs =>
    if c.isPlain then
      c.extend ((cs.takeWhile Command.isPlain).flatMap Command.typedWords) :: merge (cs.dropWhile Command.isPlain)
    else c :: merge cs
  termination_by cs => cs.length
  decreasing_by
    · exact Nat.lt_succ_of_le (List.dropWhile_sublist _).length_le
    · exact Nat.lt_succ_self _

theorem merge_nil : merge [] = [] := by
  simp [merge]

theorem merge_cons_plain {c : Command} (cs : List Command) (h : c.isPlain) :
    merge (c :: cs) = c.extend ((cs.takeWhile Command.isPlain).flatMap Command.typedWords)
      :: merge (cs.dropWhile Command.isPlain) := by
  rw [merge, if_pos h]

theorem merge_cons_other {c : Command} (cs : List Command) (h : ¬ c.isPlain) :
    merge (c :: cs) = c :: merge cs := by
  rw [merge, if_neg h]

theorem extend_nil (c : Command) : c.extend [] = c := by
  cases c <;> simp [Command.extend]

/-- Words that are not a lone space make no lone space together. -/
theorem isPlain_extend {c d : Command} (hc : c.isPlain) (hd : d.isPlain) : (c.extend d.typedWords).isPlain := by
  cases c with
  | typing ws joined =>
      cases d with
      | typing ws' joined' =>
          simp only [Command.isPlain, Vocabulary.isSpace, Bool.not_eq_true', beq_eq_false_iff_ne, Command.extend,
            Command.typedWords] at *
          intro hsp
          rcases List.append_eq_singleton_iff.mp hsp with ⟨_, h⟩ | ⟨h, _⟩
          · exact hd h
          · exact hc h
      | _ => exact absurd hd (by simp [Command.isPlain])
  | _ => exact absurd hc (by simp [Command.isPlain])

/-- A command before one that it takes in. -/
theorem merge_cons_cons {c d : Command} (cs : List Command) (hc : c.isPlain) (hd : d.isPlain) :
    merge (c :: d :: cs) = merge (c.extend d.typedWords :: cs) := by
  rw [merge_cons_plain _ hc, merge_cons_plain _ (isPlain_extend hc hd), List.takeWhile_cons_of_pos hd,
    List.dropWhile_cons_of_pos hd, List.flatMap_cons]
  congr 1
  cases c <;> simp [Command.extend]

/-- A command before one that it does not take in. -/
theorem merge_cons_apart {c d : Command} (cs : List Command) (h : ¬ (c.isPlain ∧ d.isPlain)) :
    merge (c :: d :: cs) = c :: merge (d :: cs) := by
  by_cases hc : c.isPlain = true
  · have hd : ¬ d.isPlain = true := fun hd => h ⟨hc, hd⟩
    rw [merge_cons_plain _ hc, List.takeWhile_cons_of_neg hd, List.dropWhile_cons_of_neg hd]
    simp [extend_nil]
  · exact merge_cons_other _ hc

/-- Pushing a command joins it to the last one or leaves both apart. -/
theorem push_cons (d : Command) (ds : List Command) (c : Command) :
    Vocabulary.push (d :: ds) c
      = if d.isPlain ∧ c.isPlain then d.extend c.typedWords :: ds else c :: d :: ds := by
  cases d with
  | typing ws joined =>
      cases c with
      | typing ws' joined' =>
          simp only [Vocabulary.push, Command.isPlain, Command.extend, Command.typedWords]
          by_cases hw : Vocabulary.isSpace ws = true
          · simp [hw]
          · by_cases hw' : Vocabulary.isSpace ws' = true
            · simp [hw']
            · simp [hw, hw']
      | _ => simp [Vocabulary.push, Command.isPlain]
  | _ => simp [Vocabulary.push, Command.isPlain]

/-- **The accumulator joins as it goes** what `merge` joins afterwards. -/
theorem foldl_push (d : Command) (ds cs : List Command) :
    (cs.foldl Vocabulary.push (d :: ds)).reverse = ds.reverse ++ merge (d :: cs) := by
  induction cs generalizing d ds with
  | nil =>
      by_cases hd : d.isPlain = true
      · simp [merge_cons_plain _ hd, merge_nil, extend_nil]
      · simp [merge_cons_other _ hd, merge_nil]
  | cons c cs ih =>
      -- only the command at the head of the accumulator can still take words in
      rw [List.foldl_cons, push_cons]
      by_cases h : d.isPlain = true ∧ c.isPlain = true
      · rw [if_pos h, ih, merge_cons_cons cs h.1 h.2]
      · rw [if_neg h, ih, merge_cons_apart cs h]
        simp

theorem foldl_push_nil (cs : List Command) : (cs.foldl Vocabulary.push []).reverse = merge cs := by
  cases cs with
  | nil => simp [merge_nil]
  | cons c cs =>
      have hp : Vocabulary.push [] c = [c] := by cases c <;> rfl
      rw [List.foldl_cons, hp, foldl_push]
      simp

/-- No run of typed words is left in two commands. -/
theorem merge_isChain (cs : List Command) :
    (merge cs).IsChain fun a b => ¬ (a.isPlain ∧ b.isPlain) := by
  fun_induction merge cs with
  | case1 => exact .nil
  | case2 c cs hc ih =>
      cases hrest : cs.dropWhile Command.isPlain with
      | nil => simp [merge_nil]
      | cons d ds =>
          -- the run has ended, so the next command is not plain and stands first in what follows
          have hd : ¬ d.isPlain = true := by
            have hhead := List.head?_dropWhile_not Command.isPlain cs
            simpa [hrest] using hhead
          rw [hrest, merge_cons_other ds hd] at ih
          rw [merge_cons_other ds hd]
          exact .cons_cons (fun h => hd h.2) ih
  | case3 c cs hc ih =>
      cases hm : merge cs with
      | nil => simp
      | cons d ds =>
          rw [hm] at ih
          exact .cons_cons (fun h => hc h.1) ih

/-- A plain command types words. -/
theorem isPlain_typing {c : Command} (h : c.isPlain) :
    ∃ ws joined, c = .typing ws joined ∧ ws ≠ [" "] := by
  cases c with
  | typing ws joined => exact ⟨ws, joined, rfl, by simpa [Command.isPlain, Vocabulary.isSpace] using h⟩
  | _ => exact absurd h (by simp [Command.isPlain])

/-- **Commands that type nothing are all kept.** -/
theorem mem_merge {c : Command} (hc : ∀ ws joined, c ≠ .typing ws joined) (cs : List Command) :
    c ∈ merge cs ↔ c ∈ cs := by
  fun_induction merge cs with
  | case1 => rfl
  | case2 d cs hd ih =>
      obtain ⟨ws, joined, rfl, _⟩ := isPlain_typing hd
      have hrun : c ∉ cs.takeWhile Command.isPlain := by
        intro hmem
        obtain ⟨ws', joined', he, _⟩ := isPlain_typing (List.mem_takeWhile_imp hmem)
        exact hc ws' joined' he
      have hsplit : c ∈ cs ↔ c ∈ cs.dropWhile Command.isPlain := by
        rw [← List.takeWhile_append_dropWhile (p := Command.isPlain) (l := cs), List.mem_append]
        simp [hrun]
      simp only [List.mem_cons, Command.extend, hc, false_or, ih, hsplit]
  | case3 d cs _ ih => simp only [List.mem_cons, ih]

/-- **A space stays alone** where every word was typed alone. -/
theorem merge_space {cs : List Command} (h : ∀ ws joined, .typing ws joined ∈ cs → ∃ w, ws = [w])
    {ws : List String} {joined : Bool} (hm : .typing ws joined ∈ merge cs) (hsp : " " ∈ ws) : ws = [" "] := by
  fun_induction merge cs with
  | case1 => exact absurd hm (by simp)
  | case2 c cs hc ih =>
      rcases List.mem_cons.mp hm with he | hm
      · -- a word of the run would be a lone space
        have hword : ∀ d ∈ c :: cs.takeWhile Command.isPlain, " " ∉ d.typedWords := by
          intro d hd hmem
          have hplain : d.isPlain := (List.mem_cons.mp hd).elim (fun he => he ▸ hc) List.mem_takeWhile_imp
          obtain ⟨ws', joined', rfl, hne⟩ := isPlain_typing hplain
          have hin : .typing ws' joined' ∈ c :: cs :=
            (List.mem_cons.mp hd).elim (fun he => he ▸ List.mem_cons_self)
              fun ht => List.mem_cons_of_mem _ ((List.takeWhile_sublist _).subset ht)
          obtain ⟨w, rfl⟩ := h ws' joined' hin
          exact hne (by simpa [Command.typedWords, eq_comm] using hmem)
        obtain ⟨ws', joined', rfl, _⟩ := isPlain_typing hc
        obtain ⟨rfl, _⟩ := Command.typing.inj he
        rcases List.mem_append.mp hsp with hin | hin
        · exact absurd hin (hword _ List.mem_cons_self)
        · obtain ⟨d, hd, hin⟩ := List.mem_flatMap.mp hin
          exact absurd hin (hword d (List.mem_cons_of_mem _ hd))
      · refine ih (fun ws' joined' hmem => h ws' joined' ?_) hm
        exact List.mem_cons_of_mem _ ((List.dropWhile_sublist _).subset hmem)
  | case3 c cs hc ih =>
      rcases List.mem_cons.mp hm with rfl | hm
      · simpa [Command.isPlain, Vocabulary.isSpace] using hc
      · exact ih (fun ws' joined' hmem => h ws' joined' (List.mem_cons_of_mem _ hmem)) hm

/-! ## Vocabularies as they are built -/

/-- The recipes that word-mapping lines give to their phrases. -/
def Recipe.isOfLine : Recipe → Bool
  | .hotkey _ => true
  | .spokenHotkey => true
  | .delay _ => true
  | .spokenDelay => true
  | .shell _ => true
  | _ => false

namespace Vocabulary

/-- **A vocabulary as it is built**: words that start no phrase are typed or dropped, as the settings say, and
besides the phrases of the lines there are the case tags and the replay tag. -/
structure Built (joined typing : Bool) (v : Vocabulary) : Prop where
  typing_eq : v.typing = typing
  fallback : v.commands.fallback = if typing then some (.typing joined) else none
  recipes : ∀ phrase r, v.commands.tree.get? phrase = some r →
    r.isOfLine ∨ (∃ style, r = .style style) ∨ (r = .replay ∧ phrase = [replayTag])

theorem command_built {joined typing : Bool} {v : Vocabulary} {phrase : List String} {r : Recipe}
    (hr : r.isOfLine ∨ (∃ style, r = .style style) ∨ (r = .replay ∧ phrase = [replayTag]))
    (h : v.Built joined typing) : (v.command phrase r).Built joined typing := by
  refine ⟨h.typing_eq, h.fallback, fun other r' hget => ?_⟩
  have hins := PhraseTree.get?_insert phrase other r v.commands.tree
  rw [show (v.command phrase r).commands.tree = v.commands.tree.insert phrase r from rfl, hins] at hget
  by_cases ho : other = phrase
  · -- a later line replaces the recipe of an earlier one
    rw [if_pos ho] at hget
    obtain rfl := Option.some.inj hget
    exact ho ▸ hr
  · rw [if_neg ho] at hget
    exact h.recipes other r' hget

theorem addRight_built {joined typing : Bool} {v v' : Vocabulary} {line tag : String}
    {phrase args : List String} (h : v.Built joined typing)
    (ha : v.addRight line phrase tag args = .ok v') : v'.Built joined typing := by
  unfold addRight at ha
  split at ha
  · split at ha
    · exact absurd ha (by simp)
    · rw [← Except.ok.inj ha]
      exact command_built (.inl rfl) h
  · split at ha
    · rw [← Except.ok.inj ha]
      split
      · exact command_built (.inl rfl) h
      · exact command_built (.inl rfl) h
    · split at ha
      · split at ha
        · rw [← Except.ok.inj ha]
          exact command_built (.inl rfl) h
        · split at ha
          · rw [← Except.ok.inj ha]
            exact command_built (.inl rfl) h
          · exact absurd ha (by simp)
        · exact absurd ha (by simp)
      · rw [← Except.ok.inj ha]
        exact ⟨h.typing_eq, h.fallback, h.recipes⟩

theorem addLines_built {joined typing : Bool} {lines : List Json} {v v' : Vocabulary}
    (h : v.Built joined typing) (ha : addLines lines v = .ok v') : v'.Built joined typing := by
  induction lines generalizing v with
  | nil => exact Except.ok.inj ha ▸ h
  | cons line rest ih =>
      simp only [addLines] at ha
      split at ha
      · exact absurd ha (by simp)
      · split at ha
        · exact absurd ha (by simp)
        · rename_i u hu
          refine ih ?_ ha
          unfold addLine at hu
          split at hu
          · exact absurd hu (by simp)
          · exact absurd hu (by simp)
          · exact absurd hu (by simp)
          · exact addRight_built h hu

theorem addMappings_built {joined typing : Bool} {mappings : List (String × List Json)} {ids : List String}
    {v v' : Vocabulary} (h : v.Built joined typing) (ha : addMappings mappings ids v = .ok v') :
    v'.Built joined typing := by
  induction ids generalizing v with
  | nil => exact Except.ok.inj ha ▸ h
  | cons id rest ih =>
      simp only [addMappings] at ha
      split at ha
      · exact absurd ha (by simp)
      · split at ha
        · exact absurd ha (by simp)
        · rename_i u hu
          exact ih (addLines_built h hu) ha

theorem build_built {mappings : List (String × List Json)} {ids : List String}
    {castNumbers joined typing : Bool} {v : Vocabulary}
    (h : build mappings ids castNumbers joined typing = .ok v) : v.Built joined typing := by
  unfold build at h
  simp only [] at h
  cases ha : addMappings mappings ids
      { castNumbers, joined, typing, mappingIds := ids,
        commands := { fallback := if typing then some (.typing joined) else none } } with
  | error e =>
      rw [ha] at h
      exact absurd h (by simp [Except.map])
  | ok u =>
      rw [ha] at h
      have hu : u.Built joined typing := by
        refine addMappings_built ⟨rfl, rfl, fun phrase r hget => ?_⟩ ha
        exact absurd hget (by simp [PhraseTree.get?_empty])
      have hstyles : ∀ styles : List CaseStyle, ∀ u : Vocabulary, u.Built joined typing →
          (styles.foldl (fun v s => v.command [s.tag] (.style s)) u).Built joined typing := by
        intro styles
        induction styles with
        | nil => exact fun u hu => hu
        | cons style rest ih => exact fun u hu => ih _ (command_built (.inr (.inl ⟨style, rfl⟩)) hu)
      rw [← Except.ok.inj h]
      exact command_built (.inr (.inr ⟨rfl, rfl⟩)) (hstyles _ u hu)

end Vocabulary

/-! ## The walk with its accumulator -/

namespace Recipe

theorem makeHotkey_ok {words : List String} {used : Nat} {c : Command}
    (h : makeHotkey words = .ok (used, c)) : ∃ keys, c = .hotkey keys := by
  unfold makeHotkey at h
  simp only [] at h
  split at h
  · exact absurd h (by simp)
  · split at h
    · obtain ⟨_, rfl⟩ := Prod.mk.inj (Except.ok.inj h)
      exact ⟨_, rfl⟩
    · exact absurd h (by simp)

theorem makeDelay_ok {words : List String} {used : Nat} {c : Command}
    (h : makeDelay words = .ok (used, c)) : ∃ seconds, c = .delay seconds := by
  cases words with
  | nil => exact absurd h (by simp [makeDelay])
  | cons first rest =>
      simp only [makeDelay] at h
      cases hn : delayNumber first rest with
      | error e =>
          rw [hn] at h
          exact absurd h (by simp [bind, Except.bind])
      | ok r =>
          obtain ⟨n, cost⟩ := r
          rw [hn] at h
          simp only [bind, Except.bind] at h
          split at h
          · exact absurd h (by simp)
          · split at h
            · exact absurd h (by simp)
            · split at h
              · exact absurd h (by simp)
              · obtain ⟨_, rfl⟩ := Prod.mk.inj (Except.ok.inj h)
                exact ⟨_, rfl⟩

/-- **What a recipe can make**: only the recipe of typed words types, and only the replay speaks again. -/
theorem make_cases {last : String} {words : List String} {r : Recipe} {used : Nat} {c : Command}
    (h : r.make last words = .ok (used, c)) :
    (∃ joined, r = .typing joined ∧ used = 1 ∧ c = .typing (words.take 1) joined) ∨
    (r = .replay ∧ used = 0 ∧ c = .replay last) ∨
    ((∀ ws joined, c ≠ .typing ws joined) ∧ ∀ text, c ≠ .replay text) := by
  cases r with
  | typing joined =>
      obtain ⟨rfl, rfl⟩ := Prod.mk.inj (Except.ok.inj h)
      exact .inl ⟨joined, rfl, rfl, rfl⟩
  | replay =>
      obtain ⟨rfl, rfl⟩ := Prod.mk.inj (Except.ok.inj h)
      exact .inr (.inl ⟨rfl, rfl, rfl⟩)
  | spokenHotkey =>
      simp only [make] at h
      split at h
      · rename_i made hmade
        rw [Except.ok.inj h] at hmade
        obtain ⟨keys, rfl⟩ := makeHotkey_ok hmade
        exact .inr (.inr ⟨by simp, by simp⟩)
      · exact absurd h (by simp)
  | spokenDelay =>
      obtain ⟨seconds, rfl⟩ := makeDelay_ok h
      exact .inr (.inr ⟨by simp, by simp⟩)
  | _ =>
      obtain ⟨_, rfl⟩ := Prod.mk.inj (Except.ok.inj h)
      exact .inr (.inr ⟨by simp, by simp⟩)

end Recipe

namespace Vocabulary

variable {v : Vocabulary} {last w : String} {rest : List String} {n : Nat} {r : Recipe}

theorem longest_of_scan {found : Option (Nat × Recipe)} (h : v.commands.tree.scan (w :: rest) = found) :
    v.commands.tree.longest (w :: rest) (rest.length + 1) = found := by
  rw [← h, PhraseTree.scan_eq_longest]
  rfl

theorem pieces_made {used : Nat} {c : Command}
    (hl : v.commands.tree.longest (w :: rest) (rest.length + 1) = some (n, r))
    (hm : r.make last (rest.drop (n - 1)) = .ok (used, c)) :
    v.pieces last (w :: rest)
      = .made (w :: rest.take (n - 1)) ((rest.drop (n - 1)).take used) c
        :: v.pieces last ((rest.drop (n - 1)).drop used) := by
  rw [pieces]
  simp only [hl, hm]

theorem pieces_rejected {e : SpokenError}
    (hl : v.commands.tree.longest (w :: rest) (rest.length + 1) = some (n, r))
    (hm : r.make last (rest.drop (n - 1)) = .error (.spoken e)) :
    v.pieces last (w :: rest)
      = .rejected (w :: rest.take (n - 1)) e :: v.pieces last (rest.drop (n - 1)) := by
  rw [pieces]
  simp only [hl, hm]

theorem pieces_failed {fault : Fault}
    (hl : v.commands.tree.longest (w :: rest) (rest.length + 1) = some (n, r))
    (hm : r.make last (rest.drop (n - 1)) = .error fault) (hf : ∀ e, fault ≠ .spoken e) :
    v.pieces last (w :: rest) = [.failed (w :: rest) fault] := by
  rw [pieces]
  simp only [hl, hm]

theorem pieces_alone (hl : v.commands.tree.longest (w :: rest) (rest.length + 1) = none) :
    v.pieces last (w :: rest)
      = (if v.typing then Piece.typed w else Piece.dropped w) :: v.pieces last rest := by
  rw [pieces]
  simp only [hl]

/-- Only words that are typed are read where no phrase is. -/
theorem fallback_eq {joined typing : Bool} (hv : v.Built joined typing) (h : v.commands.fallback = some r) :
    typing = true ∧ r = .typing joined := by
  rw [hv.fallback] at h
  split at h
  · exact ⟨‹_›, (Option.some.inj h).symm⟩
  · exact absurd h (by simp)

/-- **The walk over the words** pushes the commands of the pieces one after another, and fails where a piece
does. -/
theorem compileFrom_eq {joined typing : Bool} (hv : v.Built joined typing) (last : String)
    (done : List Command) (dropped : List SpokenError) (words : List String) :
    (v.compileFrom last done dropped words).commands
        = (((v.pieces last words).flatMap (Piece.commands joined)).foldl push done).reverse ∧
      (v.compileFrom last done dropped words).fault = (v.pieces last words).findSome? Piece.fault? := by
  fun_induction compileFrom v last done dropped words with
  | case1 done dropped => simp [pieces]
  | case2 done dropped w rest n r hs after used c hm ih =>
      rw [pieces_made (longest_of_scan hs) hm]
      exact ih
  | case3 done dropped w rest n r hs after e hm ih =>
      rw [pieces_rejected (longest_of_scan hs) hm]
      exact ih
  | case4 done dropped w rest n r hs after fault hf hm =>
      rw [pieces_failed (longest_of_scan hs) hm hf]
      exact ⟨rfl, rfl⟩
  | case5 done dropped w rest hs r hr used c hm ih =>
      obtain ⟨ht, rfl⟩ := fallback_eq hv hr
      obtain ⟨_, rfl⟩ := Prod.mk.inj (Except.ok.inj hm)
      rw [pieces_alone (longest_of_scan hs), hv.typing_eq, if_pos ht]
      exact ih
  | case6 done dropped w rest hs r hr fault hm ih =>
      -- typing a word cannot fail
      obtain ⟨_, rfl⟩ := fallback_eq hv hr
      exact absurd hm (by simp [Recipe.make])
  | case7 done dropped w rest hs hr ih =>
      -- with typing off there is no fallback
      have ht : ¬ typing = true := by
        intro ht
        rw [hv.fallback, if_pos ht] at hr
        exact absurd hr (by simp)
      rw [pieces_alone (longest_of_scan hs), hv.typing_eq, if_neg ht]
      exact ih

/-! ## An utterance -/

/-- The command of a piece is made by the recipe of its phrase. -/
theorem made_of_mem {words phrase used : List String} {c : Command}
    (h : .made phrase used c ∈ v.pieces last words) :
    ∃ r after n, v.commands.tree.get? phrase = some r ∧ r.make last after = .ok (n, c) ∧
      used = after.take n := by
  fun_induction pieces v last words with
  | case1 => exact absurd h (by simp)
  | case2 w rest n r hl _ after count made hm ih =>
      rcases List.mem_cons.mp h with he | h
      · obtain ⟨rfl, rfl, rfl⟩ := Piece.made.inj he
        have htake : (w :: rest).take n = w :: rest.take (n - 1) := by
          rw [List.take_cons (by have := PhraseTree.longest_pos hl; omega)]
        have hget := PhraseTree.longest_get? hl
        rw [htake] at hget
        exact ⟨r, after, count, hget, hm, rfl⟩
      · exact ih h
  | case3 w rest n r _ _ after e _ ih =>
      rcases List.mem_cons.mp h with he | h
      · exact absurd he (by simp)
      · exact ih h
  | case4 => exact absurd h (by simp)
  | case5 w rest _ ih =>
      rcases List.mem_cons.mp h with he | h
      · split at he
        · exact absurd he (by simp)
        · exact absurd he (by simp)
      · exact ih h

/-- **Words are typed one by one** before they are joined. -/
theorem pieces_typed_alone {joined typing : Bool} (hv : v.Built joined typing) {words ws : List String}
    {joined' : Bool} (h : .typing ws joined' ∈ (v.pieces last words).flatMap (Piece.commands joined)) :
    ∃ w, ws = [w] := by
  obtain ⟨p, hp, hc⟩ := List.mem_flatMap.mp h
  cases p with
  | made phrase used c =>
      obtain rfl := List.mem_singleton.mp hc
      obtain ⟨r, after, n, hget, hmake, _⟩ := made_of_mem hp
      rcases Recipe.make_cases hmake with ⟨j, rfl, _, _⟩ | ⟨_, _, he⟩ | ⟨hne, _⟩
      · -- no phrase has the recipe of typed words
        rcases hv.recipes phrase _ hget with hline | ⟨style, he⟩ | ⟨he, _⟩
        · exact absurd hline (by simp [Recipe.isOfLine])
        · exact absurd he (by simp)
        · exact absurd he (by simp)
      · exact absurd he (by simp)
      · exact absurd rfl (hne ws joined')
  | typed w =>
      obtain ⟨rfl, _⟩ := Command.typing.inj (List.mem_singleton.mp hc)
      exact ⟨w, rfl⟩
  | _ => exact absurd hc (by simp [Piece.commands])

/-- **An utterance is read from the left.** The mapped words are cut into pieces: at each place the longest
command phrase with the words that its recipe uses, or without them when they do not fit, and else one word,
which is typed or dropped. The commands are those of the pieces with typed words joined, and the only failures
are those of recipes. No word is lost, read twice or moved; a space is always typed alone; and no two commands
in a row type words that could be joined. -/
theorem compile_reads {mappings : List (String × List Json)} {ids : List String}
    {castNumbers joined typing : Bool} (hv : build mappings ids castNumbers joined typing = .ok v)
    (last text : String) :
    let words := v.mapped text
    let ps := v.pieces (if words.contains replayTag then last else text) words
    let compiled := (v.compile last text).1
    compiled.commands = merge (ps.flatMap (Piece.commands joined)) ∧
      compiled.fault = ps.findSome? Piece.fault? ∧
      ps.flatMap Piece.words = words ∧
      (∀ ws joined, .typing ws joined ∈ compiled.commands → " " ∈ ws → ws = [" "]) ∧
      compiled.commands.IsChain fun a b => ¬ (a.isPlain ∧ b.isPlain) := by
  intro words ps compiled
  have hb := build_built hv
  obtain ⟨hcommands, hfault⟩ := compileFrom_eq hb (if words.contains replayTag then last else text) [] [] words
  have hmerge : compiled.commands = merge (ps.flatMap (Piece.commands joined)) :=
    hcommands.trans (foldl_push_nil _)
  refine ⟨hmerge, hfault, pieces_words v _ words, ?_, ?_⟩
  · intro ws joined' hmem hsp
    rw [hmerge] at hmem
    exact merge_space (fun ws joined'' h => pieces_typed_alone hb h) hmem hsp
  · rw [hmerge]
    exact merge_isChain _

/-- A phrase with further words, a replaced phrase and a spoken replay. -/
def sampleLines : List (String × List Json) :=
  [("m", [.str "press -> [hotkey]", .str "space -> ' '", .str "again -> [repeat]"])]

theorem compile_reads_sample : ∃ v, build sampleLines ["m"] true true true = .ok v ∧
    (v.compile "before" "press ctrl a hello world space again").1.commands.map Command.typedWords
      = [[], ["hello", "world"], [" "], []] := by
  have h : (match build sampleLines ["m"] true true true with
      | .ok v =>
          (v.mapped "press ctrl a hello world space again").contains replayTag &&
          (merge ((v.pieces "before" (v.mapped "press ctrl a hello world space again")).flatMap
            (Piece.commands true))).map Command.typedWords == [[], ["hello", "world"], [" "], []]
      | .error _ => false) = true := by decide +kernel
  split at h
  · rename_i v hv
    simp only [Bool.and_eq_true, beq_iff_eq] at h
    refine ⟨v, hv, ?_⟩
    rw [(compile_reads hv "before" "press ctrl a hello world space again").1, if_pos h.1]
    exact h.2
  · exact absurd h (by simp)

end Vocabulary

end PadScribe
