import Mathlib.Data.List.Infix
import PadScribe.Proofs.PhraseSets
import PadScribe.Speech.Vocabulary

/-!
# `Proofs.Segments` — words cut into phrases and single words

Replacing phrases reads the words once from the left. What it does is said here in two steps. The words are cut:
at each place the longest phrase that was set is taken, and a word at which no phrase starts stands alone. Then
every phrase is written as the words that it was last set to, and every other word as itself. The cut
depends on the words and on the set phrases alone, so that what a phrase is replaced by cannot take part in another
one: other replacements for the same phrases leave every cut where it is.

## Contents

* `Segment`, `Cuts` — the words cut into segments
* `cuts_unique`, `exists_cuts` — there is one way to cut the words
* `cuts_mapWords`, `cuts_rewrite` — what is written for them, also with other replacements
* `replaced_greedily` — trees that are built phrase by phrase
-/

namespace PadScribe

open PhraseTree (IsLongest lastSet ofSets)

/-! ## Segments -/

/-- What a row of words is cut into. -/
inductive Segment where
  /-- A phrase, and the words that it is replaced by. -/
  | phrase (words made : List String)
  /-- A word at which no phrase starts. -/
  | word (w : String)

namespace Segment

/-- The words that a segment was cut from. -/
def input : Segment → List String
  | phrase words _ => words
  | word w => [w]

/-- The words that are written for a segment. -/
def output : Segment → List String
  | phrase _ made => made
  | word w => [w]

/-- Whether a segment is a word at which no phrase starts. -/
def isWord : Segment → Bool
  | phrase _ _ => false
  | word _ => true

/-- The segment with other words for its phrase. -/
def rewrite (f : List String → List String) : Segment → Segment
  | phrase words made => phrase words (f made)
  | word w => word w

end Segment

/-- **The words cut from the left**: the longest phrase that the words start with is one segment, and where they start
with none, their first word is. `value?` says what each phrase is replaced by. -/
inductive Cuts (value? : List String → Option (List String)) : List String → List Segment → Prop where
  | nil : Cuts value? [] []
  | phrase {words phrase made rest : List String} {segments : List Segment} (split : words = phrase ++ rest)
      (longest : IsLongest value? words phrase made) (later : Cuts value? rest segments) :
      Cuts value? words (.phrase phrase made :: segments)
  | word {w : String} {rest : List String} {segments : List Segment}
      (free : ∀ phrase, phrase ≠ [] → phrase <+: w :: rest → value? phrase = none)
      (later : Cuts value? rest segments) : Cuts value? (w :: rest) (.word w :: segments)

variable {value? : List String → Option (List String)} {words : List String} {segments others : List Segment}

/-! ## The one way to cut -/

/-- Some words start with one longest phrase. -/
theorem longest_unique {phrase phrase' made made' : List String} (h : IsLongest value? words phrase made)
    (h' : IsLongest value? words phrase' made') : phrase = phrase' ∧ made = made' := by
  have hle : phrase.length ≤ phrase'.length := h'.longest phrase h.nonempty h.leads (by simp [h.holds])
  have hge : phrase'.length ≤ phrase.length := h.longest phrase' h'.nonempty h'.leads (by simp [h'.holds])
  have hsame : phrase = phrase' := by
    have hprefix : phrase <+: phrase' := List.prefix_of_prefix_length_le h.leads h'.leads hle
    exact hprefix.eq_of_length (by omega)
  subst hsame
  exact ⟨rfl, Option.some.inj (h.holds.symm.trans h'.holds)⟩

/-- **There is one way to cut the words.** -/
theorem cuts_unique (h : Cuts value? words segments) (h' : Cuts value? words others) : segments = others := by
  induction h generalizing others with
  | nil =>
      cases h' with
      | nil => rfl
      | phrase split longest _ => exact absurd (List.append_eq_nil_iff.mp split.symm).1 longest.nonempty
  | phrase split longest _ ih =>
      cases h' with
      | nil => exact absurd (List.append_eq_nil_iff.mp split.symm).1 longest.nonempty
      | phrase split' longest' later' =>
          obtain ⟨rfl, rfl⟩ := longest_unique longest longest'
          obtain rfl := List.append_cancel_left (split.symm.trans split')
          rw [ih later']
      | word free _ =>
          -- the words start with a phrase or they do not
          have hnone := free _ longest.nonempty longest.leads
          exact absurd (hnone.symm.trans longest.holds) (by simp)
  | word free _ ih =>
      cases h' with
      | phrase _ longest' _ =>
          have hnone := free _ longest'.nonempty longest'.leads
          exact absurd (hnone.symm.trans longest'.holds) (by simp)
      | word _ later' => rw [ih later']

/-- The words of a cut are all there, in order. -/
theorem cuts_input (h : Cuts value? words segments) : segments.flatMap Segment.input = words := by
  induction h with
  | nil => rfl
  | phrase split _ _ ih => rw [List.flatMap_cons, ih, split, Segment.input]
  | word _ _ ih => rw [List.flatMap_cons, ih, Segment.input, List.singleton_append]

/-- Every segment takes a word at least. -/
theorem cuts_length (h : Cuts value? words segments) : segments.length ≤ words.length := by
  induction h with
  | nil => exact Nat.le_refl _
  | phrase split longest _ ih =>
      have hpos : 0 < _ := List.length_pos_iff.mpr longest.nonempty
      rw [split, List.length_append, List.length_cons]
      omega
  | word _ _ ih =>
      rw [List.length_cons, List.length_cons]
      omega

/-! ## What is written -/

namespace Vocabulary

variable {tree : PhraseTree (List String)}

/-- **Replacing phrases cuts the words** from the left. -/
theorem exists_cuts (tree : PhraseTree (List String)) (words : List String) :
    ∃ segments, Cuts (fun p => tree.get? p) words segments := by
  fun_induction mapWords tree words with
  | case1 => exact ⟨[], .nil⟩
  | case2 w rest n made hscan ih =>
      obtain ⟨segments, later⟩ := ih
      obtain ⟨phrase, longest, rfl⟩ := (PhraseTree.scan_some_iff tree (w :: rest) n made).mp hscan
      -- the phrase has a first word, so the words after it are those after the first, less one fewer
      have hpos : 0 < phrase.length := List.length_pos_iff.mpr longest.nonempty
      have hafter : rest.drop (phrase.length - 1) = (w :: rest).drop phrase.length := by
        conv => rhs; rw [show phrase.length = phrase.length - 1 + 1 by omega]
        rfl
      rw [hafter] at later
      exact ⟨_, .phrase (List.prefix_append_drop longest.leads) longest later⟩
  | case3 w rest hscan ih =>
      obtain ⟨segments, later⟩ := ih
      exact ⟨_, .word ((PhraseTree.scan_none_iff tree (w :: rest)).mp hscan) later⟩

/-- **The words that are written** are those of the segments, one after another. -/
theorem cuts_mapWords (h : Cuts (fun p => tree.get? p) words segments) :
    mapWords tree words = segments.flatMap Segment.output := by
  induction h with
  | nil => simp [mapWords]
  | @phrase words phrase made rest segments split longest _ ih =>
      have hscan : tree.scan words = some (phrase.length, made) :=
        (PhraseTree.scan_some_iff tree words _ _).mpr ⟨phrase, longest, rfl⟩
      cases phrase with
      | nil => exact absurd rfl longest.nonempty
      | cons w more =>
          subst split
          rw [List.cons_append] at hscan ⊢
          rw [mapWords, hscan]
          simp only [List.length_cons, Nat.add_sub_cancel, List.drop_left, List.flatMap_cons, Segment.output, ih]
  | @word w rest segments free _ ih =>
      have hscan : tree.scan (w :: rest) = none := (PhraseTree.scan_none_iff tree _).mpr free
      rw [mapWords, hscan]
      simp only [List.flatMap_cons, Segment.output, ih, List.singleton_append]

end Vocabulary

/-- **Other replacements** leave every cut where it is. -/
theorem cuts_rewrite (f : List String → List String) (h : Cuts value? words segments) :
    Cuts (fun p => (value? p).map f) words (segments.map (Segment.rewrite f)) := by
  induction h with
  | nil => exact .nil
  | phrase split longest _ ih =>
      refine .phrase split ⟨longest.nonempty, longest.leads, ?_, ?_⟩ ih
      · rw [longest.holds, Option.map_some]
      · intro other hne hleads hsome
        exact longest.longest other hne hleads (by simpa using hsome)
  | word free _ ih =>
      refine .word (fun phrase hne hleads => ?_) ih
      rw [free phrase hne hleads, Option.map_none]

/-- What phrases were last set to, with other replacements. -/
theorem lastSet_map (f : List String → List String) (sets : List (List String × List String)) (phrase : List String) :
    lastSet (sets.map fun s => (s.1, f s.2)) phrase = (lastSet sets phrase).map f := by
  unfold lastSet
  rw [← List.map_reverse, List.find?_map, Option.map_map, Option.map_map]
  rfl

/-! ## Trees that are built phrase by phrase -/

namespace Vocabulary

/-- **Phrases are replaced from the left, the longest first.** In a tree that was filled phrase by phrase, there is
one way to cut the words, which accounts for all of them in order, and each segment takes at least one word. What is
written are the words that each phrase was last set to, and every other word as it is; with the phrases and what
stands for them deleted, the same words are left on both sides. Whatever else the phrases had been set to, the words
would be cut alike. -/
theorem replaced_greedily (sets : List (List String × List String)) (words : List String) :
    ∃ segments, (∀ others, Cuts (lastSet sets) words others ↔ others = segments) ∧
      segments.flatMap Segment.input = words ∧ segments.length ≤ words.length ∧
      mapWords (ofSets sets) words = segments.flatMap Segment.output ∧
      (segments.filter Segment.isWord).flatMap Segment.input
        = (segments.filter Segment.isWord).flatMap Segment.output ∧
      ∀ f, mapWords (ofSets (sets.map fun s => (s.1, f s.2))) words
        = (segments.map (Segment.rewrite f)).flatMap Segment.output := by
  have hmap : ∀ sets : List (List String × List String), (fun p => (ofSets sets).get? p) = lastSet sets := by
    intro sets
    exact funext (PhraseTree.get?_ofSets sets)
  obtain ⟨segments, hcuts⟩ := exists_cuts (ofSets sets) words
  have hlast : Cuts (lastSet sets) words segments := hmap sets ▸ hcuts
  refine ⟨segments, fun others => ⟨fun h => cuts_unique h hlast, fun h => h ▸ hlast⟩, cuts_input hcuts,
    cuts_length hcuts, cuts_mapWords hcuts, ?_, fun f => ?_⟩
  · -- a word that is kept is written as it was read
    apply List.flatMap_congr
    intro segment hmem
    cases segment with
    | phrase phrase made => exact absurd (List.mem_filter.mp hmem).2 (by simp [Segment.isWord])
    | word w => rfl
  · have hother : Cuts (lastSet (sets.map fun s => (s.1, f s.2))) words (segments.map (Segment.rewrite f)) := by
      have hrewritten := cuts_rewrite f hlast
      simp only [← lastSet_map] at hrewritten
      exact hrewritten
    rw [← hmap] at hother
    exact cuts_mapWords hother

/-- The longer phrase is taken, also where it is set before the shorter one, and what stands for it is not read
again. -/
example : mapWords (ofSets [(["new", "line"], ["line"]), (["line"], ["row"]), (["new", "line", "here"], [])])
    ["a", "new", "line", "there", "new", "line", "here"] = ["a", "line", "there"] := by
  decide +kernel

end Vocabulary

end PadScribe
