import Mathlib.Data.List.Induction
import PadScribe.Proofs.Phrases

/-!
# `Proofs.PhraseSets` — trees that are built phrase by phrase

A tree is filled by setting one phrase after another: phrases come again with another value, lie on the way to
longer ones, and may have no words at all. What a scan answers then depends on the history only through the
value that each phrase was last set to (`lastSet`): it finds the longest of the set phrases that the words start
with. The phrase without words is never found.

A tree with a fallback is filled the same way. Its fallback answers where no phrase does, and only there.

## Contents

* `lastSet`, `ofSets` — a history, and the tree that it builds
* `IsLongest` — the longest phrase that some words start with
* `scan_some_iff`, `scan_none_iff`, `scan_congr` — what a scan answers, in terms of the map
* `FallbackTree.Entry`, `FallbackTree.ofEntries` — histories with fallbacks
* `scan_last_set` — what a scan answers after any history
-/

namespace PadScribe

namespace PhraseTree

variable {α : Type}

/-! ## Histories -/

/-- The value that a phrase was last set to. -/
def lastSet (sets : List (List String × α)) (phrase : List String) : Option α :=
  (sets.reverse.find? (·.1 = phrase)).map Prod.snd

/-- The tree that setting a row of phrases builds. -/
def ofSets (sets : List (List String × α)) : PhraseTree α :=
  sets.foldl (fun t s => t.insert s.1 s.2) empty

@[simp] theorem lastSet_nil (phrase : List String) : lastSet ([] : List (List String × α)) phrase = none := rfl

theorem lastSet_concat (sets : List (List String × α)) (s : List String × α) (phrase : List String) :
    lastSet (sets ++ [s]) phrase = if phrase = s.1 then some s.2 else lastSet sets phrase := by
  unfold lastSet
  rw [List.reverse_append, List.reverse_singleton, List.singleton_append, List.find?_cons]
  by_cases h : phrase = s.1
  · simp [h]
  · simp [h, Ne.symm h]

theorem ofSets_concat (sets : List (List String × α)) (s : List String × α) :
    ofSets (sets ++ [s]) = (ofSets sets).insert s.1 s.2 := by
  unfold ofSets
  rw [List.foldl_append]
  rfl

/-- **The tree keeps the history as a map**: of every phrase the value that it was last set to. -/
theorem get?_ofSets (sets : List (List String × α)) (phrase : List String) :
    (ofSets sets).get? phrase = lastSet sets phrase := by
  -- the last call decides, so the induction is on the end of the history
  induction sets using List.reverseRecOn with
  | nil => exact get?_empty phrase
  | append_singleton sets s ih => rw [ofSets_concat, get?_insert, lastSet_concat, ih]

/-! ## The longest phrase -/

/-- The longest phrase that some words start with, of those that have at least one word and a value. -/
structure IsLongest (value? : List String → Option α) (words phrase : List String) (value : α) : Prop where
  nonempty : phrase ≠ []
  leads : phrase <+: words
  holds : value? phrase = some value
  longest : ∀ other, other ≠ [] → other <+: words → (value? other).isSome → other.length ≤ phrase.length

theorem longest_some_iff {t : PhraseTree α} {words : List String} {n k : Nat} {value : α} :
    longest t words n = some (k, value) ↔ 0 < k ∧ k ≤ n ∧ t.get? (words.take k) = some value ∧
      ∀ m, k < m → m ≤ n → t.get? (words.take m) = none := by
  induction n with
  | zero =>
      constructor
      · intro h
        exact absurd h (by simp [longest])
      · rintro ⟨hpos, hle, _⟩
        omega
  | succ n ih =>
      rw [longest]
      cases hg : t.get? (words.take (n + 1)) with
      | some found =>
          -- all of the words allowed are a phrase, so nothing shorter is looked at
          constructor
          · intro h
            obtain ⟨rfl, rfl⟩ := Prod.mk.inj (Option.some.inj h)
            exact ⟨by omega, Nat.le_refl _, hg, fun m hlt hle => absurd hlt (by omega)⟩
          · rintro ⟨_, hle, hk, hnone⟩
            have hkn : k = n + 1 := by
              by_contra hne
              have hlast := hnone (n + 1) (by omega) (Nat.le_refl _)
              rw [hg] at hlast
              exact absurd hlast (by simp)
            subst hkn
            rw [hg] at hk
            rw [Option.some.inj hk]
      | none =>
          simp only [ih]
          constructor
          · rintro ⟨hpos, hle, hk, hnone⟩
            refine ⟨hpos, by omega, hk, fun m hlt hm => ?_⟩
            by_cases hmn : m = n + 1
            · rw [hmn]
              exact hg
            · exact hnone m hlt (by omega)
          · rintro ⟨hpos, hle, hk, hnone⟩
            have hkn : k ≠ n + 1 := by
              rintro rfl
              rw [hg] at hk
              exact absurd hk (by simp)
            exact ⟨hpos, by omega, hk, fun m hlt hm => hnone m hlt (by omega)⟩

theorem longest_none_iff {t : PhraseTree α} {words : List String} {n : Nat} :
    longest t words n = none ↔ ∀ m, 0 < m → m ≤ n → t.get? (words.take m) = none := by
  induction n with
  | zero =>
      constructor
      · intro _ m hpos hle
        omega
      · intro _
        rfl
  | succ n ih =>
      rw [longest]
      cases hg : t.get? (words.take (n + 1)) with
      | some found =>
          constructor
          · intro h
            exact absurd h (by simp)
          · intro h
            have hlast := h (n + 1) (by omega) (Nat.le_refl _)
            rw [hg] at hlast
            exact absurd hlast (by simp)
      | none =>
          simp only [ih]
          constructor
          · intro h m hpos hle
            by_cases hmn : m = n + 1
            · rw [hmn]
              exact hg
            · exact h m hpos (by omega)
          · intro h m hpos hle
            exact h m hpos (by omega)

/-- A non-empty phrase that some words start with is what a positive number of them make. -/
theorem phrase_eq_take {phrase words : List String} (hne : phrase ≠ []) (h : phrase <+: words) :
    0 < phrase.length ∧ phrase.length ≤ words.length ∧ phrase = words.take phrase.length :=
  ⟨List.length_pos_iff.mpr hne, h.length_le, List.prefix_iff_eq_take.mp h⟩

/-- **A scan finds the longest phrase** that the words start with, and its value. -/
theorem scan_some_iff (t : PhraseTree α) (words : List String) (n : Nat) (value : α) :
    t.scan words = some (n, value) ↔
      ∃ phrase, IsLongest (fun p => t.get? p) words phrase value ∧ phrase.length = n := by
  rw [scan_eq_longest, longest_some_iff]
  constructor
  · rintro ⟨hpos, hle, hget, hnone⟩
    have hlen : (words.take n).length = n := List.length_take_of_le hle
    refine ⟨words.take n, ⟨?_, List.take_prefix n words, hget, ?_⟩, hlen⟩
    · rw [← List.length_pos_iff, hlen]
      exact hpos
    · intro other hne hpre hsome
      obtain ⟨_, hother, heq⟩ := phrase_eq_take hne hpre
      -- a longer phrase with a value would be one of those that have none
      by_contra hlonger
      have hno := hnone other.length (by omega) hother
      rw [← heq] at hno
      rw [hno] at hsome
      exact absurd hsome (by simp)
  · rintro ⟨phrase, ⟨hne, hpre, hget, hlongest⟩, rfl⟩
    obtain ⟨hpos, hle, heq⟩ := phrase_eq_take hne hpre
    refine ⟨hpos, hle, heq ▸ hget, fun m hlt hm => ?_⟩
    have hlen : (words.take m).length = m := List.length_take_of_le hm
    by_contra hsome
    have hm' := hlongest (words.take m) (by rw [← List.length_pos_iff]; omega) (List.take_prefix m words)
      (Option.isSome_iff_ne_none.mpr hsome)
    omega

/-- **A scan finds nothing** exactly when no phrase has a value that the words start with. -/
theorem scan_none_iff (t : PhraseTree α) (words : List String) :
    t.scan words = none ↔ ∀ phrase, phrase ≠ [] → phrase <+: words → t.get? phrase = none := by
  rw [scan_eq_longest, longest_none_iff]
  constructor
  · intro h phrase hne hpre
    obtain ⟨hpos, hle, heq⟩ := phrase_eq_take hne hpre
    rw [heq]
    exact h phrase.length hpos hle
  · intro h m hpos hle
    have hlen : (words.take m).length = m := List.length_take_of_le hle
    exact h (words.take m) (by rw [← List.length_pos_iff]; omega) (List.take_prefix m words)

/-- Trees that are the same map answer every scan alike. -/
theorem scan_congr {t t' : PhraseTree α} (h : ∀ phrase, t.get? phrase = t'.get? phrase) (words : List String) :
    t.scan words = t'.scan words := by
  have hget : (fun p => t.get? p) = fun p => t'.get? p := funext h
  cases hs : t'.scan words with
  | none =>
      rw [scan_none_iff] at hs ⊢
      intro phrase hne hpre
      rw [h]
      exact hs phrase hne hpre
  | some r =>
      obtain ⟨n, value⟩ := r
      rw [scan_some_iff] at hs ⊢
      rw [hget]
      exact hs

/-- Two phrases that are set one after the other can be set the other way round. -/
theorem lastSet_swap {p q : List String} (hpq : p ≠ q) (a b : α) (before later : List (List String × α))
    (phrase : List String) :
    lastSet (before ++ (p, a) :: (q, b) :: later) phrase
      = lastSet (before ++ (q, b) :: (p, a) :: later) phrase := by
  induction later using List.reverseRecOn with
  | nil =>
      have hpair : ∀ s s' : List String × α, before ++ s :: s' :: [] = before ++ [s] ++ [s'] := by
        intro s s'
        simp
      rw [hpair, hpair, lastSet_concat, lastSet_concat, lastSet_concat, lastSet_concat]
      by_cases hp : phrase = p
      · simp [hp, hpq]
      · simp [hp]
  | append_singleton later s ih =>
      have hend : ∀ s₁ s₂ : List String × α,
          before ++ s₁ :: s₂ :: (later ++ [s]) = before ++ s₁ :: s₂ :: later ++ [s] := by
        intro s₁ s₂
        simp
      rw [hend, hend, lastSet_concat, lastSet_concat, ih]

end PhraseTree

/-! ## Histories with fallbacks -/

namespace FallbackTree

variable {α : Type}

/-- What a tree with a fallback is told. -/
inductive Entry (α : Type) where
  /-- A phrase is set to a value. -/
  | phrase (words : List String) (value : α)
  /-- The fallback is set to a value. -/
  | fallback (value : α)

/-- The phrase that is set, if one is. -/
def Entry.set? : Entry α → Option (List String × α)
  | phrase words value => some (words, value)
  | fallback _ => none

/-- The fallback that is set, if one is. -/
def Entry.fallback? : Entry α → Option α
  | phrase _ _ => none
  | fallback value => some value

/-- The tree after it was told one more thing. -/
def enter (t : FallbackTree α) : Entry α → FallbackTree α
  | .phrase words value => t.insert words value
  | .fallback value => { t with fallback := some value }

/-- The tree that a row of entries builds. -/
def ofEntries (entries : List (Entry α)) : FallbackTree α :=
  entries.foldl enter {}

/-- **The phrases and the fallback are kept apart**, in whatever order they were set. -/
theorem ofEntries_eq (entries : List (Entry α)) :
    ofEntries entries
      = { tree := .ofSets (entries.filterMap Entry.set?)
          fallback := (entries.filterMap Entry.fallback?).getLast? } := by
  induction entries using List.reverseRecOn with
  | nil => rfl
  | append_singleton entries e ih =>
      unfold ofEntries at ih ⊢
      rw [List.foldl_append, ih, List.filterMap_append, List.filterMap_append]
      cases e with
      | phrase words value =>
          simp only [List.filterMap_cons, List.filterMap_nil, Entry.set?, Entry.fallback?, List.append_nil,
            PhraseTree.ofSets_concat]
          rfl
      | fallback value =>
          simp only [List.filterMap_cons, List.filterMap_nil, Entry.set?, Entry.fallback?, List.append_nil,
            List.getLast?_concat]
          rfl

/-- A tree with a fallback answers a scan with a phrase, or with the fallback at no cost. -/
theorem scan_eq (t : FallbackTree α) (words : List String) :
    t.scan words = (t.tree.scan words).or (t.fallback.map (0, ·)) := by
  unfold scan
  cases t.tree.scan words <;> rfl

/-- **The fallback answers exactly where no phrase does**, and it uses no word. -/
theorem scan_some_iff (t : FallbackTree α) (words : List String) (n : Nat) (value : α) :
    t.scan words = some (n, value) ↔
      t.tree.scan words = some (n, value) ∨
        (t.tree.scan words = none ∧ n = 0 ∧ t.fallback = some value) := by
  rw [scan_eq]
  cases t.tree.scan words with
  | some r => simp
  | none =>
      constructor
      · intro h
        obtain ⟨found, hfound, hpair⟩ := Option.map_eq_some_iff.mp h
        obtain ⟨rfl, rfl⟩ := Prod.mk.inj hpair
        exact .inr ⟨rfl, rfl, hfound⟩
      · rintro (h | ⟨_, rfl, h⟩)
        · exact absurd h (by simp)
        · simp [h]

end FallbackTree

namespace PhraseTree

variable {α : Type}

/-- **What a scan answers after any history.** In a tree that was filled phrase by phrase, it answers with the
longest of the set phrases that has a word and that the words start with, and with the value that this phrase was
last set to; where there is none, it answers nothing. Phrases and fallbacks may be set in any order on a tree with
a fallback: the phrases answer as they do without it, and where none does, the fallback that was set last answers
and uses no word. Different phrases can be set in either order. -/
theorem scan_last_set (sets : List (List String × α)) (entries : List (FallbackTree.Entry α))
    (words : List String) :
    (∀ n value, (ofSets sets).scan words = some (n, value) ↔
        ∃ phrase, IsLongest (lastSet sets) words phrase value ∧ phrase.length = n) ∧
      ((ofSets sets).scan words = none ↔
        ∀ phrase, phrase ≠ [] → phrase <+: words → lastSet sets phrase = none) ∧
      (∀ n value, (FallbackTree.ofEntries entries).scan words = some (n, value) ↔
        (∃ phrase, IsLongest (lastSet (entries.filterMap FallbackTree.Entry.set?)) words phrase value ∧
            phrase.length = n) ∨
          ((∀ phrase, phrase ≠ [] → phrase <+: words →
              lastSet (entries.filterMap FallbackTree.Entry.set?) phrase = none) ∧
            n = 0 ∧ (entries.filterMap FallbackTree.Entry.fallback?).getLast? = some value)) ∧
      ∀ p q a b, p ≠ q → ∀ later,
        (ofSets (sets ++ (p, a) :: (q, b) :: later)).scan words
            = (ofSets (sets ++ (q, b) :: (p, a) :: later)).scan words ∧
          ∀ phrase, (ofSets (sets ++ (p, a) :: (q, b) :: later)).get? phrase
            = (ofSets (sets ++ (q, b) :: (p, a) :: later)).get? phrase := by
  have hmap : ∀ sets : List (List String × α), (fun p => (ofSets sets).get? p) = lastSet sets :=
    fun sets => funext (get?_ofSets sets)
  refine ⟨fun n value => ?_, ?_, fun n value => ?_, fun p q a b hpq later => ?_⟩
  · rw [scan_some_iff, hmap]
  · simp only [scan_none_iff, get?_ofSets]
  · rw [FallbackTree.ofEntries_eq, FallbackTree.scan_some_iff, scan_some_iff, hmap]
    simp only [scan_none_iff, get?_ofSets]
  · have hswap : ∀ phrase, (ofSets (sets ++ (p, a) :: (q, b) :: later)).get? phrase
        = (ofSets (sets ++ (q, b) :: (p, a) :: later)).get? phrase := by
      intro phrase
      rw [get?_ofSets, get?_ofSets]
      exact lastSet_swap hpq a b sets later phrase
    exact ⟨scan_congr hswap words, hswap⟩

/-- Commands that share their first words, one of them set twice. -/
def turnOff : List (List String × String) :=
  [(["turn", "off"], "old"), (["turn", "off", "the", "computer"], "shut down"), (["turn", "off"], "off")]

theorem scan_last_set_turnOff :
    (∃ phrase, IsLongest (lastSet turnOff) ["turn", "off", "the", "light"] phrase "off" ∧ phrase.length = 2) ∧
      ["turn"] ≠ ["turn", "on"] ∧
      (ofSets (turnOff ++ [(["turn"], "a"), (["turn", "on"], "b")])).scan ["turn", "on"]
        = (ofSets (turnOff ++ [(["turn", "on"], "b"), (["turn"], "a")])).scan ["turn", "on"] := by
  have hlights := scan_last_set turnOff [] ["turn", "off", "the", "light"]
  obtain ⟨_, _, _, hswap⟩ := scan_last_set turnOff [] ["turn", "on"]
  have hne : ["turn"] ≠ ["turn", "on"] := by decide
  exact ⟨(hlights.1 2 "off").mp (by decide), hne, (hswap _ _ "a" "b" hne []).1⟩

end PhraseTree

end PadScribe
