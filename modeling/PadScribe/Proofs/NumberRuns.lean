import PadScribe.Proofs.CaseWords
import PadScribe.Proofs.Digits
import PadScribe.Proofs.Numerals

/-!
# `Proofs.NumberRuns` — words cut into numbers and other words

Writing numbers in digits reads the words once from the left. At a number word it takes the number that is read
there, with all the words that the number uses, and every other word is copied. The reader looks ahead: at the unit
after one of the tens, at a second multiplier, at a conjunction, and at a whole number of its own that it may give up
again. None of this lets it take a word that is not of the vocabulary of numbers. So the words that have nothing to
do with numbers are all still there, in order, and since digits are no number words, nothing is left to replace a
second time.

## Contents

* `isNumeral`, `Run`, `Runs` — the vocabulary, and the words cut into runs
* `Spoken`, `spoken_numberAt` — a number uses words of the vocabulary and no others
* `runs_unique`, `exists_runs`, `runs_written` — there is one way to cut, and it is the one that is written
* `numberWord_digit`, `replaceNumbers_plain` — digits are no number words
* `replaced_in_runs` — numbers are replaced and everything else is kept
-/

namespace PadScribe.SpokenNumber

/-! ## Runs -/

/-- Whether a word is of the vocabulary of numbers: a number word, a multiplier or a conjunction. -/
def isNumeral (w : String) : Bool :=
  (numberWord? w).isSome || (multiplier? w).isSome || isConjunction w

/-- What a row of words is cut into. -/
inductive Run where
  /-- A word that is no number word. -/
  | word (w : String)
  /-- The words of a number, and the number. -/
  | number (words : List String) (value : Nat)

namespace Run

/-- The words that a run was cut from. -/
def words : Run → List String
  | word w => [w]
  | number words _ => words

/-- The word that is written for a run. -/
def written : Run → String
  | word w => w
  | number _ value => toString value

/-- The word that a run copies. -/
def copied? : Run → Option String
  | word w => some w
  | number _ _ => none

end Run

/-- **The words cut from the left**: the number that is read at a number word is one run, all of whose words are of
the vocabulary, and every word that is no number word is a run of its own. -/
inductive Runs : List String → List Run → Prop where
  | nil : Runs [] []
  | word {w : String} {rest : List String} {runs : List Run} (plain : numberWord? w = none) (later : Runs rest runs) :
      Runs (w :: rest) (.word w :: runs)
  | number {words spoken rest : List String} {value : Nat} {runs : List Run} (split : words = spoken ++ rest)
      (lead : spoken.head?.any fun w => (numberWord? w).isSome) (vocabulary : ∀ w ∈ spoken, isNumeral w = true)
      (read : numberUntil words = (value, spoken.length, true)) (later : Runs rest runs) :
      Runs words (.number spoken value :: runs)

variable {words : List String} {runs others : List Run}

/-! ## The words that a number uses -/

/-- Some first words are there, and all of them are of the vocabulary. -/
structure Spoken (words : List String) (cost : Nat) : Prop where
  within : cost ≤ words.length
  vocabulary : ∀ w ∈ words.take cost, isNumeral w = true

theorem Spoken.nothing : Spoken words 0 where
  within := Nat.zero_le _
  vocabulary w hw := by simp at hw

theorem Spoken.single {w : String} {rest : List String} (h : isNumeral w = true) : Spoken (w :: rest) 1 where
  within := by simp
  vocabulary x hx := by
    rw [List.take_succ_cons, List.take_zero, List.mem_singleton] at hx
    rw [hx]
    exact h

theorem Spoken.append {a b : Nat} (ha : Spoken words a) (hb : Spoken (words.drop a) b) : Spoken words (a + b) where
  within := by
    have hwithin := hb.within
    have hfirst := ha.within
    rw [List.length_drop] at hwithin
    omega
  vocabulary w hw := by
    rw [List.take_add, List.mem_append] at hw
    cases hw with
    | inl hw => exact ha.vocabulary w hw
    | inr hw => exact hb.vocabulary w hw

theorem spoken_unit (value : Nat) (words : List String) :
    Spoken words (if (unitAfter value words).isSome then 1 else 0) := by
  cases hunit : unitAfter value words with
  | none => exact .nothing
  | some unit =>
      cases words with
      | nil => simp [unitAfter] at hunit
      | cons w rest =>
          apply Spoken.single
          have hword : (numberWord? w).isSome := by
            unfold unitAfter at hunit
            split at hunit
            · rw [Option.eq_some_of_filter_eq_some hunit]
              rfl
            · cases hunit
          simp [isNumeral, hword]

theorem spoken_multiplier (words : List String) : Spoken words (if (multiplierAt words).isSome then 1 else 0) := by
  cases hmultiplier : multiplierAt words with
  | none => exact .nothing
  | some first =>
      cases words with
      | nil => cases hmultiplier
      | cons w rest =>
          apply Spoken.single
          have hword : multiplier? w = some first := hmultiplier
          simp [isNumeral, hword]

theorem spoken_conjunction (words : List String) : Spoken words (conjunctionCost words) := by
  unfold conjunctionCost
  split
  · next hjoin =>
      cases words with
      | nil => cases hjoin
      | cons w rest =>
          apply Spoken.single
          have hword : isConjunction w = true := hjoin
          simp [isNumeral, hword]
  · exact .nothing

/-- The multipliers and the conjunction after them are of the vocabulary. -/
theorem spoken_tailStart {first : Nat} (hfirst : multiplierAt words = some first) : Spoken words (tailStart words) := by
  have hone : Spoken words 1 := by simpa [hfirst] using spoken_multiplier words
  exact (hone.append (spoken_multiplier _)).append (spoken_conjunction _)

/-- What a value goes on to is of the vocabulary, if the numbers further on are. A number that is read and given up
again counts for nothing. -/
theorem spoken_goOn (value : Nat)
    (h : ∀ k tail cost, numberAt? (words.drop k) = some (tail, cost) → Spoken (words.drop k) cost) :
    Spoken words (goOn value words).2 := by
  cases hfirst : multiplierAt words with
  | none =>
      rw [goOn_alone hfirst]
      exact .nothing
  | some first =>
      have hstart := spoken_tailStart hfirst
      rw [goOn_multiplied hfirst]
      cases hafter : numberAt? (words.drop (tailStart words)) with
      | none => exact hstart
      | some after =>
          have htail := hstart.append (h _ after.1 after.2 hafter)
          by_cases hsmall : after.1 < first
          · simpa only [addTail, if_pos hsmall] using htail
          · simpa only [addTail, if_neg hsmall] using hstart

/-- **A number that is read** uses at least one word, and words of the vocabulary only. -/
theorem spoken_numberAt (words : List String) (value cost : Nat) (h : numberAt? words = some (value, cost)) :
    1 ≤ cost ∧ Spoken words cost := by
  -- the number after a multiplier starts further on, so the length goes down
  induction hlen : words.length using Nat.strong_induction_on generalizing words value cost with
  | _ len ih =>
      cases words with
      | nil => simp [numberAt?] at h
      | cons w rest =>
          cases hword : numberWord? w with
          | none =>
              rw [numberAt_none hword] at h
              cases h
          | some base =>
              have hlead : Spoken (w :: rest) 1 := .single (by simp [isNumeral, hword])
              rw [numberAt_eq hword] at h
              simp only [Option.some.injEq, Prod.mk.injEq] at h
              obtain ⟨-, hcost⟩ := h
              have hunit := hlead.append (spoken_unit base rest)
              generalize hdef : (if (unitAfter base rest).isSome then 1 else 0) = unitCost at hcost hunit
              have hdrop : (w :: rest).drop (1 + unitCost) = rest.drop unitCost := by
                rw [Nat.add_comm, List.drop_succ_cons]
              have hrest : Spoken (rest.drop unitCost)
                  (goOn (base + (unitAfter base rest).getD 0) (rest.drop unitCost)).2 := by
                apply spoken_goOn
                intro k tail cost htail
                refine (ih _ ?_ _ tail cost htail rfl).2
                simp only [List.length_drop, ← hlen, List.length_cons]
                omega
              rw [← hdrop] at hrest
              have hwhole := hunit.append hrest
              rw [hdrop, hcost] at hwhole
              exact ⟨by omega, hwhole⟩

/-! ## The one way to cut -/

theorem runs_unique (h : Runs words runs) (h' : Runs words others) : runs = others := by
  induction h generalizing others with
  | nil =>
      cases h' with
      | nil => rfl
      | @number _ spoken _ _ _ split lead _ _ _ =>
          have hnil : spoken = [] := (List.append_eq_nil_iff.mp split.symm).1
          rw [hnil] at lead
          cases lead
  | @word w rest runs plain later ih =>
      cases h' with
      | word _ later' => rw [ih later']
      | @number _ spoken _ _ _ split lead _ _ _ =>
          cases spoken with
          | nil => cases lead
          | cons x spoken =>
              obtain ⟨rfl, -⟩ := List.cons.inj split
              simp [plain] at lead
  | @number words spoken rest value runs split lead vocabulary read later ih =>
      cases h' with
      | nil =>
          rw [(List.append_eq_nil_iff.mp split.symm).1] at lead
          cases lead
      | word plain _ =>
          cases spoken with
          | nil => cases lead
          | cons x spoken =>
              obtain ⟨rfl, -⟩ := List.cons.inj split
              simp [plain] at lead
      | number split' _ _ read' later' =>
          rw [read] at read'
          simp only [Prod.mk.injEq, and_true] at read'
          obtain ⟨hvalue, hlength⟩ := read'
          obtain ⟨rfl, rfl⟩ := List.append_inj (split.symm.trans split') hlength
          rw [ih later', hvalue]

theorem exists_runs (words : List String) : ∃ runs, Runs words runs := by
  induction hlen : words.length using Nat.strong_induction_on generalizing words with
  | _ len ih =>
      cases words with
      | nil => exact ⟨[], .nil⟩
      | cons w rest =>
          cases hread : numberAt? (w :: rest) with
          | none =>
              have hplain : numberWord? w = none := by
                cases hword : numberWord? w with
                | none => rfl
                | some base =>
                    rw [numberAt_eq hword] at hread
                    cases hread
              obtain ⟨runs, hruns⟩ := ih rest.length (by simp [← hlen]) rest rfl
              exact ⟨_, .word hplain hruns⟩
          | some number =>
              obtain ⟨value, cost⟩ := number
              obtain ⟨hpos, hspoken⟩ := spoken_numberAt _ _ _ hread
              obtain ⟨runs, hruns⟩ := ih ((w :: rest).drop cost).length
                (by simp only [List.length_drop, ← hlen, List.length_cons]; omega) _ rfl
              obtain ⟨-, x, more, base, hwords, hword⟩ := numberAt_lead hread
              obtain ⟨rfl, rfl⟩ := List.cons.inj hwords
              refine ⟨.number ((w :: rest).take cost) value :: runs,
                .number (List.take_append_drop cost (w :: rest)).symm ?_ hspoken.vocabulary ?_ hruns⟩
              · rw [show cost = (cost - 1) + 1 by omega, List.take_succ_cons, List.head?_cons, Option.any_some, hword]
                rfl
              · rw [List.length_take, Nat.min_eq_left hspoken.within]
                exact numberUntil_iff.mpr hread

/-- The runs put together are the words. -/
theorem runs_words (h : Runs words runs) : runs.flatMap Run.words = words := by
  induction h with
  | nil => rfl
  | word _ _ ih => rw [List.flatMap_cons, ih]; rfl
  | number split _ _ _ _ ih =>
      rw [List.flatMap_cons, ih, split]
      rfl

/-- **What is written for the runs** is what the words are replaced by. -/
theorem runs_written (h : Runs words runs) : replaceNumbers words = runs.map Run.written := by
  induction h with
  | nil => rw [replaceNumbers]; rfl
  | word plain _ ih =>
      rw [replaceNumbers_lead plain, ih]
      rfl
  | number split _ _ read _ ih =>
      rw [replaceNumbers_read (numberUntil_iff.mp read), split, List.drop_left, ih]
      rfl

/-- **Words that have nothing to do with numbers** are copied. -/
theorem runs_copied (h : Runs words runs) :
    (runs.filterMap Run.copied?).filter (!isNumeral ·) = words.filter (!isNumeral ·) := by
  induction h with
  | nil => rfl
  | @word w rest runs plain _ ih =>
      have hcopied : (Run.word w :: runs).filterMap Run.copied? = w :: runs.filterMap Run.copied? := rfl
      rw [hcopied, List.filter_cons, List.filter_cons, ih]
  | @number words spoken rest value runs split _ vocabulary _ _ ih =>
      have hcopied : (Run.number spoken value :: runs).filterMap Run.copied? = runs.filterMap Run.copied? := rfl
      have hnone : spoken.filter (!isNumeral ·) = [] := by
        rw [List.filter_eq_nil_iff]
        intro w hw
        simp [vocabulary w hw]
      rw [hcopied, ih, split, List.filter_append, hnone, List.nil_append]

/-- What is copied is written. -/
theorem copied_sublist (runs : List Run) : (runs.filterMap Run.copied?).Sublist (runs.map Run.written) := by
  induction runs with
  | nil => exact .slnil
  | cons run runs ih =>
      cases run with
      | word w => exact ih.cons_cons w
      | number spoken value => exact ih.cons (toString value)

/-! ## Digits -/

/-- **What starts with a digit is no number word**: it starts with the digit in any letter case, and no number word
does. -/
theorem numberWord_digit {c : Char} (hc : Text.isDigit c = true) (rest : List Char) :
    numberWord? (String.ofList (c :: rest)) = none := by
  have hall : ∀ p ∈ numberWords, p.1.toList.head?.any Text.isDigit = false := by decide +kernel
  cases hword : numberWord? (String.ofList (c :: rest)) with
  | none => rfl
  | some base =>
      obtain ⟨before, after, hwords, -⟩ := List.lookup_eq_some_iff.mp hword
      have hstart := hall (_, base) (hwords ▸ List.mem_append_right _ List.mem_cons_self)
      rw [Text.lower_digit hc] at hstart
      simp [hc] at hstart

/-- Digits are no number word. -/
theorem numberWord_digits (n : Nat) : numberWord? (toString n) = none := by
  obtain ⟨c, rest, hc, hdigits⟩ := Text.exists_digit n
  rw [hdigits]
  exact numberWord_digit hc rest

/-- Words without a number word are left as they are. -/
theorem replaceNumbers_plain (h : ∀ w ∈ words, numberWord? w = none) : replaceNumbers words = words := by
  induction words with
  | nil => rw [replaceNumbers]
  | cons w rest ih =>
      rw [replaceNumbers_lead (h w List.mem_cons_self), ih fun x hx => h x (List.mem_cons_of_mem w hx)]

theorem written_plain (h : Runs words runs) : ∀ w ∈ runs.map Run.written, numberWord? w = none := by
  induction h with
  | nil => intro w hw; cases hw
  | word plain _ ih =>
      rw [List.map_cons, List.forall_mem_cons]
      exact ⟨plain, ih⟩
  | number _ _ _ _ _ ih =>
      rw [List.map_cons, List.forall_mem_cons]
      exact ⟨numberWord_digits _, ih⟩

/-- **Numbers are replaced run by run, and everything else is kept.** There is one way to cut the words into the
numbers that are read at number words, each of words of the vocabulary alone, and single words that are no number
words. The runs put together are the words, and every run is written as its digits or as its word. The words that are
not of the vocabulary are copied, all of them and in order; no number word is left; and nothing changes when the
words are replaced again. -/
theorem replaced_in_runs (words : List String) :
    ∃ runs, (∀ others, Runs words others ↔ others = runs) ∧ runs.flatMap Run.words = words ∧
      replaceNumbers words = runs.map Run.written ∧
      (runs.filterMap Run.copied?).filter (!isNumeral ·) = words.filter (!isNumeral ·) ∧
      (words.filter (!isNumeral ·)).Sublist (replaceNumbers words) ∧
      (∀ w ∈ replaceNumbers words, numberWord? w = none) ∧
      replaceNumbers (replaceNumbers words) = replaceNumbers words := by
  obtain ⟨runs, hruns⟩ := exists_runs words
  have hwritten := runs_written hruns
  have hplain : ∀ w ∈ replaceNumbers words, numberWord? w = none := by
    rw [hwritten]
    exact written_plain hruns
  refine ⟨runs, fun others => ⟨fun h => runs_unique h hruns, fun h => h ▸ hruns⟩, runs_words hruns, hwritten,
    runs_copied hruns, ?_, hplain, replaceNumbers_plain hplain⟩
  -- the words that are copied are among the words that are written
  rw [← runs_copied hruns, hwritten]
  exact List.filter_sublist.trans (copied_sublist runs)

end PadScribe.SpokenNumber
