import PadScribe.Proofs.NumberRuns

/-!
# `Proofs.SpokenDelays` — a delay means the same in words and in digits

A spoken delay is a number and a unit. Its number may be said in words, or stand there in digits because the numbers of
the utterance were already replaced. The two are read by different readers: one looks at a whole row of words, and the
other at the digits of one word. This file says that it does not matter which of them reads a delay. The number is the
same, the unit is the word behind it, and the words after the unit are the same up to their own numbers.

## Contents

* `numberAt_lt` — numbers in words are small enough to be read in digits
* `delayOf`, `makeDelay_number` — what a delay makes of its number
* `Recast` — a failure before and after numbers are put in digits
* `SameDelay`, `sameDelay_number` — two rows of words that say the same delay
* `delay_in_digits` — every row of words says the same delay when its numbers are put in digits
-/

namespace PadScribe

namespace SpokenNumber

/-! ## How large a number in words can be -/

theorem numberWord_lt {w : String} {n : Nat} (h : numberWord? w = some n) : n ≤ 90 := by
  have hall : ∀ p ∈ numberWords, p.2 ≤ 90 := by decide
  obtain ⟨before, after, hwords, -⟩ := List.lookup_eq_some_iff.mp h
  exact hall (Text.lower w, n) (hwords ▸ List.mem_append_right _ List.mem_cons_self)

theorem multiplierAt_le {words : List String} {k : Nat} (h : multiplierAt words = some k) : k ≤ 1000 := by
  have hall : ∀ p ∈ multipliers, p.2 ≤ 1000 := by decide
  obtain ⟨w, -, hw⟩ := Option.bind_eq_some_iff.mp h
  obtain ⟨before, after, hwords, -⟩ := List.lookup_eq_some_iff.mp hw
  exact hall (Text.lower w, k) (hwords ▸ List.mem_append_right _ List.mem_cons_self)

theorem unitAfter_le {value unit : Nat} {words : List String} (h : unitAfter value words = some unit) : unit ≤ 9 := by
  unfold unitAfter at h
  split at h
  · cases words with
    | nil => cases h
    | cons w rest =>
        have hunit := (Option.filter_eq_some_iff.mp h).2
        simp only [Bool.and_eq_true, decide_eq_true_eq] at hunit
        exact hunit.2
  · cases h

/-- Two multipliers and a number below the first of them lead from a small number to one of eight digits. -/
theorem goOn_lt {value : Nat} (h : value < 100) (words : List String) : (goOn value words).1 < 100000000 := by
  cases hfirst : multiplierAt words with
  | none =>
      rw [goOn_alone hfirst]
      show value < 100000000
      omega
  | some first =>
      have hsmall := multiplierAt_le hfirst
      have hsecond : (multiplierAt (words.drop 1)).getD 1 ≤ 1000 := by
        cases hsecond : multiplierAt (words.drop 1) with
        | none => decide
        | some second => exact multiplierAt_le hsecond
      have hproduct : value * first * (multiplierAt (words.drop 1)).getD 1 ≤ 99 * 1000 * 1000 :=
        Nat.mul_le_mul (Nat.mul_le_mul (Nat.le_of_lt_succ h) hsmall) hsecond
      rw [goOn_multiplied hfirst]
      generalize numberAt? (words.drop (tailStart words)) = after
      cases after with
      | none =>
          show value * first * _ < 100000000
          omega
      | some tail =>
          by_cases hadded : tail.1 < first
          · simp only [addTail, if_pos hadded]
            omega
          · simp only [addTail, if_neg hadded]
            omega

/-- **A number in words** has at most eight digits. -/
theorem numberAt_lt {words : List String} {n cost : Nat} (h : numberAt? words = some (n, cost)) : n < 100000000 := by
  obtain ⟨-, w, rest, base, rfl, hword⟩ := numberAt_lead h
  rw [numberAt_eq hword] at h
  obtain ⟨rfl, -⟩ := Prod.mk.inj (Option.some.inj h)
  apply goOn_lt
  have hbase := numberWord_lt hword
  have hunit : (unitAfter base rest).getD 0 ≤ 9 := by
    cases hunit : unitAfter base rest with
    | none => decide
    | some unit => exact unitAfter_le hunit
  omega

end SpokenNumber

namespace Recipe

open SpokenNumber

variable {n cost : Nat} {first : String} {rest words written : List String}

/-! ## The number of a delay -/

/-- A number in words is read back from its digits. -/
theorem delayNumber_digits (h : numberAt? words = some (n, cost)) (rest : List String) :
    delayNumber (toString n) rest = .ok (n, 1) := by
  have hlength : (toString n).length ≤ ConversionError.digitLimit := by
    have hdigits : (Nat.toDigits 10 n).length ≤ 8 :=
      (Nat.length_toDigits_le_iff (by decide) (by decide)).mpr (numberAt_lt h)
    rw [Nat.toString_eq_ofList_toDigits, String.length_ofList]
    exact hdigits.trans (by decide)
  unfold delayNumber
  rw [Text.decimalValue_toString]
  exact if_neg (Nat.not_lt.mpr hlength)

/-- What is written in digits is no number word. -/
theorem numberWord_decimal (h : Text.decimalValue? first.toList = some n) : numberWord? first = none := by
  unfold Text.decimalValue? at h
  split at h
  · next hdecimal =>
      unfold Text.isDecimal at hdecimal
      rw [Bool.and_eq_true, List.all_eq_true] at hdecimal
      cases hchars : first.toList with
      | nil => simp [hchars] at hdecimal
      | cons c cs =>
          have hdigit := hdecimal.2 c (hchars ▸ List.mem_cons_self)
          rw [← String.ofList_toList (s := first), hchars]
          exact numberWord_digit hdigit cs
  · cases h

/-! ## The unit of a delay -/

/-- What a delay makes of its number and the words after it, the first of which is its unit. -/
def delayOf (n : Nat) : List String → Except Fault Command
  | [] => .error (.spoken .delayWithoutUnit)
  | word :: _ =>
    match delayUnits.lookup (Text.lower word) with
    | none => .error (.spoken (.unknownUnit word))
    | some unit =>
      match Binary64.ofInt n with
      | .error e => .error (.conversion e)
      | .ok x => .ok (.delay (x * unit))

theorem makeDelay_number (h : delayNumber first rest = .ok (n, cost)) :
    makeDelay (first :: rest) = (delayOf n ((first :: rest).drop cost)).map (cost + 1, ·) := by
  simp only [makeDelay, h, bind, Except.bind]
  rw [← List.head?_drop]
  cases (first :: rest).drop cost with
  | nil => rfl
  | cons word more =>
      simp only [List.head?_cons, delayOf]
      cases delayUnits.lookup (Text.lower word) with
      | none => rfl
      | some unit => cases Binary64.ofInt n <;> rfl

theorem makeDelay_fault {fault : Fault} (h : delayNumber first rest = .error fault) :
    makeDelay (first :: rest) = .error fault := by
  simp only [makeDelay, h]
  rfl

/-- A number word is no unit. -/
theorem unit_numberWord {w : String} {base : Nat} (h : numberWord? w = some base) :
    delayUnits.lookup (Text.lower w) = none := by
  have hall : ∀ p ∈ numberWords, (delayUnits.lookup p.1).isNone = true := by decide
  obtain ⟨before, after, hwords, -⟩ := List.lookup_eq_some_iff.mp h
  exact Option.isNone_iff_eq_none.mp (hall (Text.lower w, base) (hwords ▸ List.mem_append_right _ List.mem_cons_self))

/-- Digits are no unit. -/
theorem unit_digits (n : Nat) : delayUnits.lookup (Text.lower (toString n)) = none := by
  have hall : ∀ name ∈ delayUnits.map Prod.fst, name.toList.head?.any Text.isDigit = false := by decide +kernel
  obtain ⟨c, rest, hc, hdigits⟩ := Text.exists_digit n
  rw [List.lookup_eq_none_iff]
  intro p hp
  rw [bne_iff_ne]
  intro hunit
  have hno := hall p.1 (List.mem_map_of_mem hp)
  rw [← hunit, hdigits, Text.lower_digit hc] at hno
  simp [hc] at hno

/-! ## The same delay -/

/-- **A failure before and after numbers are put in digits**: the same one, but a number word that stands where the
unit should is named by the digits of its number. -/
inductive Recast : Fault → Fault → Prop where
  | same (fault : Fault) : Recast fault fault
  | unit {word : String} (number : Nat) (named : (numberWord? word).isSome) :
      Recast (.spoken (.unknownUnit word)) (.spoken (.unknownUnit (toString number)))

/-- **Two rows of words say the same delay**: both are the delay of so many seconds, and what is left of the first
becomes what is left of the second when its numbers are put in digits. Or both fail. -/
inductive SameDelay (words written : List String) : Prop where
  | waits {used usedWritten : Nat} {seconds : Float} (spoken : makeDelay words = .ok (used, .delay seconds))
      (digits : makeDelay written = .ok (usedWritten, .delay seconds))
      (left : written.drop usedWritten = replaceNumbers (words.drop used))
  | fails {fault faultWritten : Fault} (spoken : makeDelay words = .error fault)
      (digits : makeDelay written = .error faultWritten) (recast : Recast fault faultWritten)

/-- **Two numbers that are read alike** make the same delay, if the words after the one are those after the other with
their numbers put in digits. -/
theorem sameDelay_number {firstWritten : String} {restWritten : List String} {costWritten : Nat}
    (h : delayNumber first rest = .ok (n, cost))
    (hwritten : delayNumber firstWritten restWritten = .ok (n, costWritten))
    (hafter : (firstWritten :: restWritten).drop costWritten = replaceNumbers ((first :: rest).drop cost)) :
    SameDelay (first :: rest) (firstWritten :: restWritten) := by
  have hspoken := makeDelay_number h
  have hdigits := makeDelay_number hwritten
  rw [hafter] at hdigits
  cases hmore : (first :: rest).drop cost with
  | nil =>
      rw [hmore] at hspoken hdigits
      rw [replaceNumbers] at hdigits
      exact .fails hspoken hdigits (.same _)
  | cons word more =>
      cases hword : numberWord? word with
      | none =>
          -- the unit stays where it is, and both delays are made of it
          have hreplaced := replaceNumbers_lead hword more
          have halike : delayOf n (word :: replaceNumbers more) = delayOf n (word :: more) := rfl
          rw [hmore] at hspoken hdigits hafter
          rw [hreplaced, halike] at hdigits
          cases hmade : delayOf n (word :: more) with
          | error fault =>
              rw [hmade] at hspoken hdigits
              exact .fails hspoken hdigits (.same fault)
          | ok c =>
              rw [hmade] at hspoken hdigits
              obtain ⟨seconds, rfl⟩ := makeDelay_ok hspoken
              refine .waits hspoken hdigits ?_
              rw [← List.drop_drop, ← List.drop_drop, hmore, hafter, hreplaced]
              rfl
      | some base =>
          -- a number cannot be the unit, in words or in digits
          obtain ⟨number, used, hread⟩ : ∃ number used, numberAt? (word :: more) = some (number, used) :=
            ⟨_, _, numberAt_eq hword more⟩
          have hunit : delayOf n (word :: more) = .error (.spoken (.unknownUnit word)) := by
            simp only [delayOf, unit_numberWord hword]
          rw [hmore, hunit] at hspoken
          rw [hmore, replaceNumbers_read hread] at hdigits
          simp only [delayOf, unit_digits] at hdigits
          exact .fails hspoken hdigits (.unit number (by rw [hword]; rfl))

/-- **A delay means the same with and without its numbers put in digits.** For every row of words: the delay that it
says and the delay that it says in digits both fail, or both wait the same time, and then the words that are left over
are the same but for their own numbers, which are in digits too. -/
theorem delay_in_digits (words : List String) : SameDelay words (replaceNumbers words) := by
  cases words with
  | nil =>
      rw [replaceNumbers]
      exact .fails rfl rfl (.same _)
  | cons first rest =>
      cases hword : numberWord? first with
      | some base =>
          obtain ⟨n, cost, hread⟩ : ∃ n cost, numberAt? (first :: rest) = some (n, cost) :=
            ⟨_, _, numberAt_eq hword rest⟩
          have hspoken : delayNumber first rest = .ok (n, cost) := by
            unfold delayNumber
            cases hdecimal : Text.decimalValue? first.toList with
            | none => rw [hread]
            | some value => rw [numberWord_decimal hdecimal] at hword; cases hword
          rw [replaceNumbers_read hread]
          exact sameDelay_number hspoken (delayNumber_digits hread _) rfl
      | none =>
          -- the first word stays as it is, and is read for itself or not at all
          have hsame : ∀ more, delayNumber first more = delayNumber first rest := by
            intro more
            unfold delayNumber
            rw [numberAt_none hword, numberAt_none hword]
          rw [replaceNumbers_lead hword]
          cases hnumber : delayNumber first rest with
          | error fault =>
              exact .fails (makeDelay_fault hnumber) (makeDelay_fault ((hsame _).trans hnumber)) (.same fault)
          | ok r =>
              obtain ⟨n, cost⟩ := r
              have hone : cost = 1 := by
                unfold delayNumber at hnumber
                rw [numberAt_none hword] at hnumber
                split at hnumber
                · split at hnumber
                  · cases hnumber
                  · exact (Prod.mk.inj (Except.ok.inj hnumber)).2.symm
                · cases hnumber
              subst hone
              exact sameDelay_number hnumber ((hsame _).trans hnumber) rfl

end Recipe

end PadScribe
