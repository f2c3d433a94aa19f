import PadScribe.Proofs.Cutting
import PadScribe.Proofs.PhraseSets
import PadScribe.Proofs.Replaying
import PadScribe.Rule.Basic

/-!
# `Proofs.CaseWords` — a case word and a case switch

Typed words are written in a style in two ways: while a case switch is on, its modifier puts the tag of the style
in front of the text, before the text is cut into words; and a word that the mappings replace by the tag brings it
in later, after numbers have become digits. Both ways meet once the words are mapped, and what an utterance is
compiled to depends on the mapped words, and on what was spoken last only where the replay tag is among them.

## Contents

* `Text.words_lead` — the words of a text after a word
* `mapped_tag`, `mapped_word` — the two ways
* `compileWords_last` — words without the replay tag
* `switch_agrees_word` — both ways compile to the same
-/

namespace PadScribe

/-! ## A word in front of a text -/

namespace Text

/-- **The words of a text after a word and a space** are the word and the words of the text. -/
theorem words_lead {w : String} (hne : w ≠ "") (hw : ∀ c ∈ w.toList, isBlank c = false) (text : String) :
    words (w ++ " " ++ text) = w :: words text := by
  have hlist : (w ++ " " ++ text).toList = w.toList ++ ' ' :: text.toList := by simp
  have hpieces : pieces isBlank (w.toList ++ ' ' :: text.toList) = w.toList :: pieces isBlank text.toList :=
    pieces_lead (by decide) _ _ hw
  have hkept : w.toList.isEmpty = false := by
    rw [List.isEmpty_eq_false_iff]
    intro hnil
    exact hne (String.toList_eq_nil_iff.mp hnil)
  unfold words chunks
  rw [hlist, hpieces, List.filter_cons_of_pos (by simp [hkept]), List.map_cons, String.ofList_toList]

/-- Characters are checked one after another for blanks. -/
theorem unbroken_of_all {word : String} (h : word.toList.all (!isBlank ·) = true) :
    ∀ c ∈ word.toList, isBlank c = false := by
  intro c hc
  simpa using List.all_eq_true.mp h c hc

end Text

namespace CaseStyle

theorem tag_ne (style : CaseStyle) : style.tag ≠ "" := by
  cases style <;> decide

theorem tag_unbroken (style : CaseStyle) : ∀ c ∈ style.tag.toList, Text.isBlank c = false := by
  cases style <;> exact Text.unbroken_of_all (by decide +kernel)

theorem tag_no_number (style : CaseStyle) : SpokenNumber.numberWord? style.tag = none := by
  cases style <;> decide +kernel

end CaseStyle

/-- A word that is no number word is left as it is, and no number begins before the next word. -/
theorem SpokenNumber.replaceNumbers_lead {w : String} (h : numberWord? w = none) (rest : List String) :
    replaceNumbers (w :: rest) = w :: replaceNumbers rest := by
  have hno : numberAt? (w :: rest) = none := by simp [numberAt?, h]
  rw [replaceNumbers, hno]

/-- Nothing is set below a node without children. -/
theorem PhraseTree.get?_childless {α : Type} {tree : PhraseTree α} (h : tree.children = []) {phrase : List String}
    (hne : phrase ≠ []) : tree.get? phrase = none := by
  cases phrase with
  | nil => exact absurd rfl hne
  | cons w ws => simp [PhraseTree.child?, h]

/-! ## Both ways meet -/

namespace Vocabulary

/-- A word that starts no phrase is mapped to itself. -/
theorem mapWords_alone {tree : PhraseTree (List String)} {w : String} (h : ∀ phrase, tree.get? (w :: phrase) = none)
    (rest : List String) : mapWords tree (w :: rest) = w :: mapWords tree rest := by
  have hscan : tree.scan (w :: rest) = none := by
    rw [PhraseTree.scan_none_iff]
    intro phrase hne hlead
    cases phrase with
    | nil => exact absurd rfl hne
    | cons x phrase =>
        obtain ⟨rfl, _⟩ := List.cons_prefix_cons.mp hlead
        exact h phrase
  rw [mapWords, hscan]

/-- A word that is a phrase, and starts no longer one, is mapped to its replacement whatever follows. -/
theorem mapWords_replaced {tree : PhraseTree (List String)} {w : String} {words : List String}
    (hw : tree.get? [w] = some words) (h : ∀ phrase, phrase ≠ [] → tree.get? (w :: phrase) = none)
    (rest : List String) : mapWords tree (w :: rest) = words ++ mapWords tree rest := by
  have hlongest : PhraseTree.IsLongest (fun p => tree.get? p) (w :: rest) [w] words := by
    refine ⟨by simp, by simp, hw, fun other hne hlead hsome => ?_⟩
    cases other with
    | nil => exact absurd rfl hne
    | cons x phrase =>
        obtain ⟨rfl, _⟩ := List.cons_prefix_cons.mp hlead
        by_cases hphrase : phrase = []
        · simp [hphrase]
        · -- a longer phrase would start with the word
          have hnone := h phrase hphrase
          simp [hnone] at hsome
  have hscan : tree.scan (w :: rest) = some (1, words) :=
    (PhraseTree.scan_some_iff tree (w :: rest) 1 words).mpr ⟨[w], hlongest, rfl⟩
  rw [mapWords, hscan]
  rfl

variable {v : Vocabulary}

/-- The words of a text before they are replaced. -/
theorem mapped_lead {w : String} (hne : w ≠ "") (hw : ∀ c ∈ w.toList, Text.isBlank c = false)
    (hnum : SpokenNumber.numberWord? w = none) (text : String) :
    ∃ rest, v.mapped text = mapWords v.replacements rest ∧
      v.mapped (w ++ " " ++ text) = mapWords v.replacements (w :: rest) := by
  unfold mapped
  simp only [Text.words_lead hne hw]
  cases v.castNumbers with
  | false => exact ⟨_, rfl, rfl⟩
  | true =>
      simp only [if_true, SpokenNumber.replaceNumbers_lead hnum]
      exact ⟨_, rfl, rfl⟩

/-- **A tag in front of a text** goes through to the mapped words where no phrase starts with it. -/
theorem mapped_tag {style : CaseStyle} (h : ∀ phrase, v.replacements.get? (style.tag :: phrase) = none)
    (text : String) : v.mapped (style.tag ++ " " ++ text) = style.tag :: v.mapped text := by
  obtain ⟨rest, htext, htagged⟩ := mapped_lead (v := v) style.tag_ne style.tag_unbroken style.tag_no_number text
  rw [htext, htagged, mapWords_alone h]

/-- **A word that stands for a tag** comes out of the mapping as the tag. -/
theorem mapped_word {style : CaseStyle} {w : String} (hne : w ≠ "")
    (hw : ∀ c ∈ w.toList, Text.isBlank c = false) (hnum : SpokenNumber.numberWord? w = none)
    (hone : v.replacements.get? [w] = some [style.tag])
    (hlonger : ∀ phrase, phrase ≠ [] → v.replacements.get? (w :: phrase) = none) (text : String) :
    v.mapped (w ++ " " ++ text) = style.tag :: v.mapped text := by
  obtain ⟨rest, htext, hword⟩ := mapped_lead (v := v) hne hw hnum text
  rw [htext, hword, mapWords_replaced hone hlonger]
  rfl

/-! ## What was spoken last -/

/-- Words without the replay tag start no phrase that asks for a replay. -/
theorem scan_no_replay {joined typing : Bool} (hv : v.Built joined typing) {words : List String} {n : Nat}
    {r : Recipe} (h : replayTag ∉ words) (hs : v.commands.tree.scan words = some (n, r)) : r ≠ .replay := by
  rintro rfl
  obtain ⟨phrase, hlongest, -⟩ := (PhraseTree.scan_some_iff v.commands.tree words n Recipe.replay).mp hs
  rcases hv.recipes phrase _ hlongest.holds with hline | ⟨style, hstyle⟩ | ⟨-, rfl⟩
  · exact absurd hline (by simp [Recipe.isOfLine])
  · exact absurd hstyle (by simp)
  · exact h (hlongest.leads.subset List.mem_cons_self)

/-- **Words without the replay tag** compile to the same whatever was spoken last. -/
theorem compileFrom_last {joined typing : Bool} (hv : v.Built joined typing) (last last' : String)
    (done : List Command) (dropped : List SpokenError) {words : List String} (h : replayTag ∉ words) :
    v.compileFrom last done dropped words = v.compileFrom last' done dropped words := by
  fun_induction compileFrom v last done dropped words with
  | case1 => simp [compileFrom]
  | case2 done dropped w rest n r hs after used c hm ih =>
      rw [make_last (scan_no_replay hv h hs) last last'] at hm
      rw [compileFrom]
      simp only [hs, hm, after]
      refine ih fun hin => h (List.mem_cons_of_mem _ ?_)
      exact List.mem_of_mem_drop (List.mem_of_mem_drop hin)
  | case3 done dropped w rest n r hs after e hm ih =>
      rw [make_last (scan_no_replay hv h hs) last last'] at hm
      rw [compileFrom]
      simp only [hs, hm, after]
      exact ih fun hin => h (List.mem_cons_of_mem _ (List.mem_of_mem_drop hin))
  | case4 done dropped w rest n r hs after fault hf hm =>
      rw [make_last (scan_no_replay hv h hs) last last'] at hm
      rw [compileFrom]
      simp only [hs, hm, after]
  | case5 done dropped w rest hs r hr used c hm ih =>
      obtain ⟨-, rfl⟩ := fallback_eq hv hr
      rw [make_last (by simp) last last'] at hm
      rw [compileFrom]
      simp only [hs, hr, hm]
      exact ih fun hin => h (List.mem_cons_of_mem _ hin)
  | case6 done dropped w rest hs r hr fault hm ih =>
      -- typing a word cannot fail
      obtain ⟨-, rfl⟩ := fallback_eq hv hr
      exact absurd hm (by simp [Recipe.make])
  | case7 done dropped w rest hs hr ih =>
      rw [compileFrom]
      simp only [hs, hr]
      exact ih fun hin => h (List.mem_cons_of_mem _ hin)

/-- **Texts with the same mapped words** compile to the same. -/
theorem compile_congr {joined typing : Bool} (hv : v.Built joined typing) (last : String) {text text' : String}
    (h : v.mapped text = v.mapped text') : (v.compile last text).1 = (v.compile last text').1 := by
  show v.compileWords (if (v.mapped text).contains replayTag then last else text) (v.mapped text)
    = v.compileWords (if (v.mapped text').contains replayTag then last else text') (v.mapped text')
  rw [h]
  by_cases htag : replayTag ∈ v.mapped text'
  · have hcontains : (v.mapped text').contains replayTag = true := List.contains_iff_mem.mpr htag
    rw [if_pos hcontains, if_pos hcontains]
  · exact compileFrom_last hv _ _ [] [] htag

/-! ## A case switch and its case word -/

/-- **A case switch agrees with its case word.** In a vocabulary in which a word that is no number word stands for
the tag of a style, and in which no longer phrase starts with the word and none with the tag, every text that the
prefix of the tag changes compiles to what it compiles to after the word: the same commands, the same spoken errors
passed over and the same failure, whatever was spoken last. -/
theorem switch_agrees_word {mappings : List (String × List Json)} {ids : List String}
    {castNumbers joined typing : Bool} (hv : build mappings ids castNumbers joined typing = .ok v)
    {w : String} {style : CaseStyle} (hne : w ≠ "") (hblank : ∀ c ∈ w.toList, Text.isBlank c = false)
    (hnum : SpokenNumber.numberWord? w = none) (hone : v.replacements.get? [w] = some [style.tag])
    (hlonger : ∀ phrase, phrase ≠ [] → v.replacements.get? (w :: phrase) = none)
    (htag : ∀ phrase, v.replacements.get? (style.tag :: phrase) = none) (last text : String) :
    ∃ changed, (Modifier.addPrefix (some style.tag) true).apply (.spoken text) = .ok (.spoken changed) ∧
      (v.compile last changed).1 = (v.compile last (w ++ " " ++ text)).1 := by
  refine ⟨style.tag ++ " " ++ text, rfl, compile_congr (build_built hv) last ?_⟩
  have hswitch : v.mapped (style.tag ++ " " ++ text) = style.tag :: v.mapped text := mapped_tag htag text
  have hword : v.mapped (w ++ " " ++ text) = style.tag :: v.mapped text :=
    mapped_word hne hblank hnum hone hlonger text
  rw [hswitch, hword]

/-- A word that stands for the tag of capitals, beside other phrases. -/
def loudLines : List (String × List Json) :=
  [("m", [.str "loud -> [upper]", .str "again -> [repeat]", .str "louder still -> [camel] shout"])]

theorem switch_agrees_word_loud : ∃ v, build loudLines ["m"] true false true = .ok v ∧
    ∀ last text, ∃ changed,
      (Modifier.addPrefix (some CaseStyle.upper.tag) true).apply (.spoken text) = .ok (.spoken changed) ∧
      (v.compile last changed).1 = (v.compile last ("loud" ++ " " ++ text)).1 := by
  have h : (match build loudLines ["m"] true false true with
      | .ok v =>
          v.replacements.get? ["loud"] == some ["[upper]"] &&
          (v.replacements.child? "loud").all (·.children.isEmpty) &&
          (v.replacements.child? "[upper]").isNone
      | .error _ => false) = true := by decide +kernel
  split at h
  · rename_i v hv
    simp only [Bool.and_eq_true, beq_iff_eq, Option.isNone_iff_eq_none] at h
    obtain ⟨⟨hone, hchild⟩, htag⟩ := h
    have hunbroken := Text.unbroken_of_all (show "loud".toList.all (!Text.isBlank ·) = true by decide +kernel)
    refine ⟨v, hv, switch_agrees_word hv (by decide) hunbroken (by decide +kernel) hone ?_ ?_⟩
    · intro phrase hne
      rw [PhraseTree.get?_cons]
      cases hc : v.replacements.child? "loud" with
      | none => rfl
      | some child =>
          rw [hc] at hchild
          exact PhraseTree.get?_childless (by simpa using hchild) hne
    · intro phrase
      rw [PhraseTree.get?_cons, show CaseStyle.upper.tag = "[upper]" from rfl, htag]
      rfl
  · exact absurd h (by simp)

end Vocabulary

end PadScribe
