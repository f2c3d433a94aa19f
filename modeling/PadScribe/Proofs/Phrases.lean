import PadScribe.Speech.PhraseTree

/-!
# `Proofs.Phrases` — phrase trees as maps, and the longest phrase

A phrase tree is a map from phrases to values: `get?` reads it and `insert` sets one phrase. A scan walks the
tree once, word by word. What it answers is said without the tree here: of the non-empty phrases that the words
start with, the longest (`longest`).

## Contents

* `get?_empty`, `get?_insert` — the map
* `longest`, `scan_eq_longest` — the longest phrase
* `longest_pos`, `longest_get?` — how many words it has, and that it was set
-/

namespace PadScribe.PhraseTree

variable {α : Type}

/-! ## The tree as a map -/

@[simp] theorem get?_nil (t : PhraseTree α) : t.get? [] = t.leaf := by
  simp [get?]

@[simp] theorem get?_cons (w : String) (ws : List String) (t : PhraseTree α) :
    t.get? (w :: ws) = (t.child? w).bind (·.get? ws) := by
  simp [get?]

theorem get?_empty (phrase : List String) : (empty : PhraseTree α).get? phrase = none := by
  cases phrase with
  | nil => rfl
  | cons w ws => simp [child?, children, empty]

/-- Setting a child changes the child under its word only. -/
theorem lookup_setChild (w u : String) (child : PhraseTree α) (cs : List (String × PhraseTree α)) :
    (setChild w child cs).lookup u = if u = w then some child else cs.lookup u := by
  induction cs with
  | nil =>
      by_cases hu : u = w
      · simp [setChild, hu]
      · have hb : (u == w) = false := by simpa using hu
        simp [setChild, List.lookup_cons, hu, hb]
  | cons entry rest ih =>
      obtain ⟨x, c⟩ := entry
      simp only [setChild]
      by_cases hx : x = w
      · subst hx
        by_cases hu : u = x
        · simp [hu]
        · have hb : (u == x) = false := by simpa using hu
          simp [List.lookup_cons, hu, hb]
      · rw [if_neg hx]
        by_cases hu : u = x
        · subst hu
          simp [hx]
        · have hb : (u == x) = false := by simpa using hu
          simp [List.lookup_cons, hb, ih]

/-- **Setting a phrase** changes the value of that phrase only. -/
theorem get?_insert (phrase other : List String) (value : α) (t : PhraseTree α) :
    (t.insert phrase value).get? other = if other = phrase then some value else t.get? other := by
  induction phrase generalizing other t with
  | nil =>
      obtain ⟨l, cs⟩ := t
      cases other with
      | nil => simp [insert, leaf]
      | cons u us => simp [insert, child?, children]
  | cons w ws ih =>
      obtain ⟨l, cs⟩ := t
      cases other with
      | nil => simp [insert, leaf]
      | cons u us =>
          simp only [insert, get?_cons, child?, children, lookup_setChild]
          by_cases hu : u = w
          · subst hu
            simp only [if_true, Option.bind_some, ih, List.cons.injEq, true_and]
            cases cs.lookup u with
            | none => simp [get?_empty]
            | some c => simp
          · simp [hu]

/-! ## The longest phrase -/

/-- The longest phrase that some words start with and that has at least one and at most `n` words: how many it
has, and its value. -/
def longest (t : PhraseTree α) (words : List String) : Nat → Option (Nat × α)
  | 0 => none
  | n + 1 =>
    match t.get? (words.take (n + 1)) with
    | some value => some (n + 1, value)
    | none => longest t words n

/-- The longest phrase begins with a word that leads on. -/
theorem longest_cons {t child : PhraseTree α} {w : String} (ws : List String) (h : t.child? w = some child)
    (n : Nat) :
    longest t (w :: ws) (n + 1) = match longest child ws n with
      | some (k, value) => some (k + 1, value)
      | none => child.leaf.map (1, ·) := by
  induction n with
  | zero =>
      simp only [longest, List.take_succ_cons, List.take_zero, get?_cons, h, Option.bind_some, get?_nil]
      cases child.leaf <;> rfl
  | succ n ih =>
      rw [longest]
      simp only [List.take_succ_cons, get?_cons, h, Option.bind_some]
      cases hg : child.get? (ws.take (n + 1)) with
      | some value =>
          -- the longest phrase of the child is all of its words
          simp [longest, hg]
      | none =>
          have hc : longest child ws (n + 1) = longest child ws n := by simp [longest, hg]
          rw [hc]
          exact ih

theorem longest_none {t : PhraseTree α} {w : String} (ws : List String) (h : t.child? w = none) (n : Nat) :
    longest t (w :: ws) n = none := by
  induction n with
  | zero => rfl
  | succ n ih => simp [longest, h, ih]

/-- **A scan finds the longest phrase** that the words start with. -/
theorem scan_eq_longest (t : PhraseTree α) (words : List String) :
    t.scan words = longest t words words.length := by
  induction words generalizing t with
  | nil => simp [scan, longest]
  | cons w ws ih =>
      cases h : t.child? w with
      | none => simp [scan, h, longest_none ws h]
      | some child =>
          rw [List.length_cons, longest_cons ws h]
          cases hl : longest child ws ws.length with
          | none => simp only [scan, h, ih, hl]
          | some found => simp only [scan, h, ih, hl]

/-- The longest phrase has at least one word. -/
theorem longest_pos {t : PhraseTree α} {words : List String} {n k : Nat} {value : α}
    (h : longest t words n = some (k, value)) : 0 < k := by
  induction n with
  | zero => exact absurd h (by simp [longest])
  | succ n ih =>
      simp only [longest] at h
      split at h
      · obtain ⟨rfl, _⟩ := Prod.mk.inj (Option.some.inj h)
        omega
      · exact ih h

/-- The longest phrase is one that was set. -/
theorem longest_get? {t : PhraseTree α} {words : List String} {n k : Nat} {value : α}
    (h : longest t words n = some (k, value)) : t.get? (words.take k) = some value := by
  induction n with
  | zero => exact absurd h (by simp [longest])
  | succ n ih =>
      simp only [longest] at h
      split at h
      · rename_i hg
        obtain ⟨rfl, rfl⟩ := Prod.mk.inj (Option.some.inj h)
        exact hg
      · exact ih h

end PadScribe.PhraseTree
