import PadScribe.Proofs.NumberRuns

/-!
# `Proofs.OwnWords` — a number is made of the words that it uses

The reader of spoken numbers looks further than it goes: at a unit, a second multiplier or a conjunction that may not
be there, and at a whole number that it gives up again when that is too large. None of what it gives up leaves a trace.
Cut off behind the words that were used, a row of words is read as the same number, although the reader now meets the
end of the row at every place where it met another word before. So the words further on decide where a number stops,
and nothing else about it.

They do decide that, and in both directions. "two hundred" goes on when "one" follows, and "two hundred one" stops
before its last word when "hundred" follows that. So the words of a number are a row that is read whole, but not every
longer row is read up to the same place.

## Contents

* `look_take`, `unitAfter_take`, `multiplierAt_take`, `conjunctionCost_take` — a look at one word, in words cut off
* `tailStart_take`, `goOn_cut`, `goOn_take` — what a value goes on to, in the words that this takes
* `numberAt_take` — a number is read again from its own words
* `number_of_own_words` — the words that are used, and what the others have to do with the number
-/

namespace PadScribe.SpokenNumber

variable {words : List String} {value cost n : Nat}

/-! ## A look at the first word -/

/-- What is told by the first word alone is told by words cut off anywhere behind it; and where they are cut off in
front of it, by no words at all. -/
theorem look_take {α : Type} {look : List String → α} (hlook : ∀ w rest, look (w :: rest) = look [w])
    (hnothing : n = 0 → look words = look []) : look (words.take n) = look words := by
  cases n with
  | zero => exact (hnothing rfl).symm
  | succ n =>
      cases words with
      | nil => rfl
      | cons w rest => rw [List.take_succ_cons, hlook w (rest.take n), hlook w rest]

theorem unitAfter_take (h : (if (unitAfter value words).isSome then 1 else 0) ≤ n) :
    unitAfter value (words.take n) = unitAfter value words := by
  refine look_take (fun _ _ => rfl) fun hn => ?_
  have hnone : unitAfter value words = none := by
    cases hunit : unitAfter value words with
    | none => rfl
    | some unit => simp [hunit, hn] at h
  rw [hnone]
  simp [unitAfter]

theorem multiplierAt_take (h : (if (multiplierAt words).isSome then 1 else 0) ≤ n) :
    multiplierAt (words.take n) = multiplierAt words := by
  refine look_take (fun _ _ => rfl) fun hn => ?_
  cases hmultiplier : multiplierAt words with
  | none => rfl
  | some first => simp [hmultiplier, hn] at h

theorem conjunctionCost_take (h : conjunctionCost words ≤ n) :
    conjunctionCost (words.take n) = conjunctionCost words :=
  look_take (fun _ _ => rfl) fun hn => Nat.le_zero.mp (hn ▸ h)

/-! ## The number after the multipliers -/

/-- Cut off where the number after them starts or further on, words have the same multipliers, and it starts there. -/
theorem tailStart_take (hn : tailStart words ≤ n) :
    multiplierAt ((words.take n).drop 1) = multiplierAt (words.drop 1) ∧
      tailStart (words.take n) = tailStart words := by
  simp only [tailStart] at hn ⊢
  have hsecond : multiplierAt ((words.take n).drop 1) = multiplierAt (words.drop 1) := by
    rw [List.drop_take]
    exact multiplierAt_take (by omega)
  refine ⟨hsecond, ?_⟩
  rw [hsecond, List.drop_take, conjunctionCost_take (by omega)]

/-- Cut off anywhere behind the multipliers, words make the same product, and add the number that is read up to
there. -/
theorem goOn_cut {first : Nat} (hfirst : multiplierAt words = some first) (value used : Nat) :
    goOn value (words.take (tailStart words + used)) =
      addTail first (value * first * (multiplierAt (words.drop 1)).getD 1) (tailStart words)
        (numberAt? ((words.drop (tailStart words)).take used)) := by
  obtain ⟨hsecond, hstart⟩ := tailStart_take (Nat.le_add_right (tailStart words) used)
  have hone : 1 ≤ tailStart words + used := Nat.le_add_right_of_le (tailStart_pos words)
  have hlead : multiplierAt (words.take (tailStart words + used)) = some first := by
    rw [multiplierAt_take (by simpa [hfirst] using hone), hfirst]
  rw [goOn_multiplied hlead, hsecond, hstart, List.drop_take, Nat.add_sub_cancel_left]

/-- **What a value goes on to** is made of the words that it takes, if that is so of the numbers further on. -/
theorem goOn_take (value : Nat)
    (h : ∀ k tail cost, numberAt? (words.drop k) = some (tail, cost) →
      numberAt? ((words.drop k).take cost) = some (tail, cost)) :
    goOn value (words.take (goOn value words).2) = goOn value words := by
  cases hfirst : multiplierAt words with
  | none =>
      rw [goOn_alone hfirst]
      exact goOn_alone rfl
  | some first =>
      -- behind the multipliers nothing is left when it is cut off there
      have hnothing := goOn_cut hfirst value 0
      rw [Nat.add_zero, List.take_zero, numberAt?] at hnothing
      rw [goOn_multiplied hfirst]
      cases hafter : numberAt? (words.drop (tailStart words)) with
      | none => exact hnothing
      | some after =>
          obtain ⟨tail, cost⟩ := after
          by_cases hsmall : tail < first
          · have hread := goOn_cut hfirst value cost
            rw [h _ tail cost hafter] at hread
            simpa only [addTail, if_pos hsmall] using hread
          · simpa only [addTail, if_neg hsmall] using hnothing

/-- **A number is read again from its own words**: those that it used, cut off from what follows them, are the same
number and all of them are used. -/
theorem numberAt_take (h : numberAt? words = some (value, cost)) :
    numberAt? (words.take cost) = some (value, cost) := by
  -- the number after a multiplier starts further on, so the length goes down
  induction hlen : words.length using Nat.strong_induction_on generalizing words value cost with
  | _ len ih =>
      obtain ⟨-, w, rest, base, rfl, hword⟩ := numberAt_lead h
      rw [numberAt_eq hword] at h
      simp only [Option.some.injEq, Prod.mk.injEq] at h
      obtain ⟨hvalue, hcost⟩ := h
      generalize hunitCost : (if (unitAfter base rest).isSome then 1 else 0) = unitCost at hvalue hcost
      generalize hused : (goOn (base + (unitAfter base rest).getD 0) (rest.drop unitCost)).2 = used at hcost
      have hunit : unitAfter base (rest.take (unitCost + used)) = unitAfter base rest :=
        unitAfter_take (by omega)
      have hrest : goOn (base + (unitAfter base rest).getD 0) ((rest.drop unitCost).take used) =
          goOn (base + (unitAfter base rest).getD 0) (rest.drop unitCost) := by
        rw [← hused]
        apply goOn_take
        intro k tail cost htail
        refine ih _ ?_ htail rfl
        simp only [List.length_drop, ← hlen, List.length_cons]
        omega
      have hown : (w :: rest).take cost = w :: rest.take (unitCost + used) := by
        rw [← hcost, Nat.add_assoc, Nat.add_comm 1, List.take_succ_cons]
      rw [hown, numberAt_eq hword, hunit, hunitCost, List.drop_take, Nat.add_sub_cancel_left, hrest, hvalue, hused,
        hcost]

/-! ## The words that are used -/

/-- The words of a number that is found make the number that was found. -/
theorem numberUntil_take (h : numberUntil words = (value, cost, true)) :
    numberUntil (words.take cost) = (value, cost, true) :=
  numberUntil_iff.mpr (numberAt_take (numberUntil_iff.mp h))

/-- **A number is made of the words that it uses.** Where there are words, the reader uses at least one and no more
than there are, and it finds a number exactly when the first of them is a number word. All words of a number are of the
vocabulary. Standing alone, they are the same number, and all of them are used. Hence words further on have to do with
a number only in that they may decide where it stops: rows that start with the same words, and whose numbers use just
these words, have the same number. -/
theorem number_of_own_words (hwords : words ≠ []) :
    ∃ value cost found, numberUntil words = (value, cost, found) ∧ 1 ≤ cost ∧ cost ≤ words.length ∧
      (found = true ↔ ∃ w ∈ words.head?, (numberWord? w).isSome) ∧
      (found = true →
        numberUntil (words.take cost) = (value, cost, true) ∧
        (∀ w ∈ words.take cost, isNumeral w = true) ∧
        ∀ others n, others.take cost = words.take cost → numberUntil others = (n, cost, true) → n = value) := by
  obtain ⟨w, rest, rfl⟩ := List.exists_cons_of_ne_nil hwords
  cases hword : numberWord? w with
  | none =>
      refine ⟨0, 1, false, ?_, Nat.le_refl 1, by simp, by simp [hword], by simp⟩
      simp [numberUntil, numberAt_none hword]
  | some base =>
      obtain ⟨value, cost, hread⟩ : ∃ value cost, numberAt? (w :: rest) = some (value, cost) :=
        ⟨_, _, numberAt_eq hword rest⟩
      obtain ⟨hpos, hspoken⟩ := spoken_numberAt _ _ _ hread
      have hfound : numberUntil (w :: rest) = (value, cost, true) := numberUntil_iff.mpr hread
      have hown := numberUntil_take hfound
      refine ⟨value, cost, true, hfound, hpos, hspoken.within, by simp [hword], fun _ =>
        ⟨hown, hspoken.vocabulary, fun others n hsame hother => ?_⟩⟩
      -- both numbers are read from the words that the rows have in common
      have hboth := numberUntil_take hother
      rw [hsame, hown] at hboth
      exact (Prod.mk.inj hboth).1.symm

theorem number_of_own_words_given_up :
    let words := ["Two", "THOUSAND", "n", "six", "hundred", "one", "hundred", "haha"]
    words ≠ [] ∧ numberUntil words = (2600, 5, true) ∧ 1 ≤ 5 ∧ 5 ≤ words.length ∧
      numberUntil ["Two", "THOUSAND", "n", "six", "hundred"] = (2600, 5, true) ∧
      (∀ w ∈ ["Two", "THOUSAND", "n", "six", "hundred"], isNumeral w = true) ∧
      ∀ others n, others.take 5 = ["Two", "THOUSAND", "n", "six", "hundred"] →
        numberUntil others = (n, 5, true) → n = 2600 := by
  intro words
  have hwords : words ≠ [] := by simp [words]
  have hread : numberUntil words = (2600, 5, true) := by decide +kernel
  obtain ⟨value, cost, found, hsame, hpos, hwithin, -, hfound⟩ := number_of_own_words hwords
  obtain ⟨rfl, hrest⟩ := Prod.mk.inj (hread.symm.trans hsame)
  obtain ⟨rfl, rfl⟩ := Prod.mk.inj hrest
  obtain ⟨hown, hvocabulary, hothers⟩ := hfound rfl
  exact ⟨hwords, hread, hpos, hwithin, hown, hvocabulary, hothers⟩

/-- A hundred that follows makes the number shorter. -/
example : numberUntil ["two", "hundred", "one"] = (201, 3, true) ∧
    numberUntil ["two", "hundred", "one", "hundred"] = (200, 2, true) := by decide +kernel

end PadScribe.SpokenNumber
