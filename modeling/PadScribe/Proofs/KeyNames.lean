import PadScribe.Proofs.Quoting

/-!
# `Proofs.KeyNames` — names of keys on a line

The name of a key stands on a line as a word of its own. Such a word has no arrow in it and does not look like an
option, so it can be written wherever keys are. For names that are listed this can be read off the lists, in
whatever letter case they are given; every other name is a single code point.

## Contents

* `Text.isSingle_cases` — how a single code point is held
* `Text.lowerFrom_append`, `Text.lowerFrom_dash` — dashes and arrows in lower case
* `Key.isKey_begin`, `Key.isKey_noArrow` — names of keys
-/

namespace PadScribe

namespace Text

theorem pointsOf_cons_ne_nil (c : Char) (cs : List Char) : pointsOf (c :: cs) ≠ [] := by
  cases cs with
  | nil => simp [pointsOf]
  | cons d cs =>
      unfold pointsOf
      split <;> simp

/-- A text that is one code point is held as one character, or as a mark and another one. -/
theorem isSingle_cases {s : String} (h : isSingle s = true) :
    (∃ c, s.toList = [c]) ∨ ∃ d, s.toList = [mark, d] := by
  have hlen : (pointsOf s.toList).length = 1 := by simpa [isSingle, points] using h
  cases hs : s.toList with
  | nil =>
      rw [hs] at hlen
      exact absurd hlen (by simp [pointsOf])
  | cons c cs =>
      rw [hs] at hlen
      cases cs with
      | nil => exact .inl ⟨c, rfl⟩
      | cons d rest =>
          by_cases hc : c = mark
          · subst hc
            cases rest with
            | nil => exact .inr ⟨d, rfl⟩
            | cons e es =>
                refine absurd hlen ?_
                simp [pointsOf, pointsOf_cons_ne_nil]
          · refine absurd hlen ?_
            simp [pointsOf, hc, pointsOf_cons_ne_nil]

/-- A text with a dash in it that is one code point is the dash, or a mark before it. -/
theorem isSingle_dash {s : String} (h : isSingle s = true) (hd : '-' ∈ s.toList) :
    s.toList = ['-'] ∨ s.toList = [mark, '-'] := by
  rcases isSingle_cases h with ⟨c, hs⟩ | ⟨d, hs⟩
  · rw [hs] at hd ⊢
    rw [List.mem_singleton.mp hd]
    exact .inl rfl
  · rw [hs] at hd ⊢
    have hmark : '-' ≠ mark := by decide
    rw [List.mem_singleton.mp (List.mem_of_ne_of_mem hmark hd)]
    exact .inr rfl

/-- A dash with a character after it is more than one code point. -/
theorem not_isSingle_begin {s : String} {c : Char} {cs : List Char} (hs : s.toList = '-' :: c :: cs) :
    ¬ isSingle s = true := by
  intro h
  rcases isSingle_dash h (by rw [hs]; exact List.mem_cons_self) with he | he
  · rw [hs] at he
    exact absurd he (by simp)
  · rw [hs] at he
    have hmark : '-' ≠ mark := by decide
    exact hmark (List.cons.inj he).1

/-- An arrow is more than one code point. -/
theorem not_isSingle_arrow {s : String} {cs ds : List Char} (hs : s.toList = cs ++ '-' :: '>' :: ds) :
    ¬ isSingle s = true := by
  intro h
  have htip : '>' ∈ s.toList := by
    rw [hs]
    simp
  rcases isSingle_dash h (by rw [hs]; simp) with he | he
  · rw [he] at htip
    exact absurd htip (by decide)
  · rw [he] at htip
    exact absurd htip (by decide)

/-- The parts of a text keep their places in lower case. -/
theorem lowerFrom_append (before cs ds : List Char) :
    ∃ low, lowerFrom before (cs ++ ds) = low ++ lowerFrom (cs.reverse ++ before) ds := by
  induction cs generalizing before with
  | nil => exact ⟨[], rfl⟩
  | cons c cs ih =>
      obtain ⟨low, hlow⟩ := ih (c :: before)
      have hbefore : (c :: cs).reverse ++ before = cs.reverse ++ c :: before := by simp
      rw [List.cons_append, lowerFrom, hlow, ← List.append_assoc, hbefore]
      exact ⟨_, rfl⟩

/-- No letter is lost in lower case. -/
theorem lowerFrom_cons_ne_nil (before : List Char) (c : Char) (cs : List Char) :
    lowerFrom before (c :: cs) ≠ [] := by
  have hchar : lowerChar c ≠ [] := by
    unfold lowerChar mapLetter lowerExpansions
    split
    · simp
    · simp only [List.lookup_cons, List.lookup_nil]
      cases c.toNat == 304 <;> simp
  rw [lowerFrom]
  split <;> simp [hchar]

theorem lowerFrom_dash (before cs : List Char) :
    lowerFrom before ('-' :: cs) = '-' :: lowerFrom ('-' :: before) cs := rfl

end Text

namespace Key

/-- The only names of keys with a dash in them are those of one code point, as far as letter case goes. -/
theorem isSingle_of_dash {name : String} (h : isKey name = true) (hd : '-' ∈ (Text.lower name).toList) :
    Text.isSingle name = true ∨ Text.isSingle (Text.lower name) = true := by
  by_cases hs : Text.isSingle name = true
  · exact .inl hs
  · refine .inr ?_
    -- neither aliases nor names of keys have a dash
    have hlookup : aliases.lookup (Text.lower name) = none := by
      have hnone : ∀ p ∈ aliases, '-' ∉ p.1.toList := by decide
      refine List.lookup_eq_none_iff.mpr fun p hp => ?_
      have hne : Text.lower name ≠ p.1 := fun he => hnone p hp (he ▸ hd)
      simpa using hne
    have hnormal : normalize name = Text.lower name := by
      unfold normalize
      simp only [if_neg hs, hlookup, Option.getD_none]
    unfold isKey at h
    simp only [hnormal, Bool.or_eq_true, List.contains_iff_mem] at h
    rcases h with (h | h) | h
    · exact h
    · have hnone : ∀ k ∈ named, '-' ∉ k.toList := by decide +kernel
      exact absurd hd (hnone _ h)
    · have hnone : ∀ k ∈ modifiers, '-' ∉ k.toList := by decide
      exact absurd hd (hnone _ h)

/-- **No name of a key looks like an option**: only the dash itself begins with a dash. -/
theorem isKey_begin {name : String} {c : Char} {cs : List Char} (hn : name.toList = '-' :: c :: cs) :
    ¬ isKey name = true := by
  intro h
  obtain ⟨d, ds, hrest⟩ := List.exists_cons_of_ne_nil (Text.lowerFrom_cons_ne_nil ['-'] c cs)
  have hlow : (Text.lower name).toList = '-' :: d :: ds := by
    unfold Text.lower
    rw [hn, Text.lowerFrom_dash, hrest, String.toList_ofList]
  rcases isSingle_of_dash h (by rw [hlow]; exact List.mem_cons_self) with hs | hs
  · exact Text.not_isSingle_begin hn hs
  · exact Text.not_isSingle_begin hlow hs

/-- **No name of a key has an arrow in it.** -/
theorem isKey_noArrow {name : String} (h : isKey name = true) : Text.NoArrow name.toList := by
  rintro ⟨before, rest, harrow⟩
  have hn : name.toList = before ++ '-' :: '>' :: rest := by
    rw [← harrow]
    simp
  -- both ends of an arrow stay as they are in lower case
  obtain ⟨low, hlow⟩ := Text.lowerFrom_append [] before ('-' :: '>' :: rest)
  have hlow' : (Text.lower name).toList
      = low ++ '-' :: '>' :: Text.lowerFrom ('>' :: '-' :: (before.reverse ++ [])) rest := by
    unfold Text.lower
    rw [hn, hlow, String.toList_ofList]
    rfl
  rcases isSingle_of_dash h (by rw [hlow']; simp) with hs | hs
  · exact Text.not_isSingle_arrow hn hs
  · exact Text.not_isSingle_arrow hlow' hs

end Key

end PadScribe
