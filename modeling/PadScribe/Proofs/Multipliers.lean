import PadScribe.Proofs.Numerals

/-!
# `Proofs.Multipliers` — a number after two multipliers

Two multipliers may follow a number word, and the number that comes after them is added when it is small enough. The
multiplier that a speaker has open there is the second one: after "two hundred thousand" everything below one thousand
belongs to the number. The reader still measures by the first one. After "hundred thousand" it gives up a number from
one hundred on, which is then written right behind the product as a number of its own, and after "thousand hundred" it
adds a number that is too large.

## Contents

* `goOn_multipliers` — what two multipliers and the number after them make of a value
* `numberAt_multipliers` — a small number in front of them
* `tail_below_first` — the number is added exactly when it is smaller than the first multiplier
-/

namespace PadScribe.SpokenNumber

variable {m k : String} {first second value tail cost : Nat} {join words more : List String}

/-- **A value and two multipliers**, with or without a conjunction after them, go on with the number that comes next, if
it is smaller than the first multiplier. -/
theorem goOn_multipliers (hm : multiplier? m = some first) (hk : multiplier? k = some second) (hjoin : MayJoin join)
    (hmore : numberAt? more = some (tail, cost)) :
    goOn value (m :: k :: (join ++ more)) =
      if tail < first then (value * first * second + tail, 2 + join.length + cost)
      else (value * first * second, 2 + join.length) := by
  have hfirst : multiplierAt (m :: k :: (join ++ more)) = some first := hm
  have hsecond : multiplierAt (k :: (join ++ more)) = some second := hk
  cases hjoin with
  | nothing =>
      obtain ⟨-, w, rest, base, rfl, hw⟩ := numberAt_lead hmore
      have hcost : conjunctionCost (w :: rest) = 0 := by
        simp [conjunctionCost, (alone_of_numberWord hw).2]
      rw [List.nil_append] at hfirst hsecond ⊢
      simp [goOn, hfirst, hsecond, hcost, hmore]
  | @word w joins =>
      have hcost : conjunctionCost (w :: more) = 1 := by
        simp [conjunctionCost, (conjunction_joins joins).1]
      rw [List.singleton_append] at hfirst hsecond ⊢
      simp [goOn, hfirst, hsecond, hcost, hmore]

theorem numberAt_multipliers {n : Nat} (hn : SpellsSmall n words) (hm : multiplier? m = some first)
    (hk : multiplier? k = some second) (hjoin : MayJoin join) (hmore : numberAt? more = some (tail, cost)) :
    numberAt? (words ++ m :: k :: (join ++ more)) =
      if tail < first then some (n * first * second + tail, words.length + 2 + join.length + cost)
      else some (n * first * second, words.length + 2 + join.length) := by
  have hhead : ∀ w ∈ (m :: k :: (join ++ more)).head?, numberWord? w = none := by
    intro w hw
    obtain rfl := Option.some.inj hw
    cases hword : numberWord? m with
    | none => rfl
    | some base => rw [(alone_of_numberWord hword).1] at hm; cases hm
  rw [numberAt_small hn hhead, goOn_multipliers hm hk hjoin hmore]
  by_cases hsmall : tail < first
  · simp only [if_pos hsmall, Nat.add_assoc]
  · simp only [if_neg hsmall, Nat.add_assoc]

/-- **After two multipliers a number is added exactly when it is smaller than the first of them.** A number below one
hundred, two multipliers, a conjunction or nothing, and words that start with a number: the two numbers are read as
one, and written in the digits of one, when the second is smaller than the first multiplier. Otherwise the product is
read alone, and the second number is written in digits of its own behind it. -/
theorem tail_below_first {n : Nat} (hn : SpellsSmall n words) (hm : multiplier? m = some first)
    (hk : multiplier? k = some second) (hjoin : MayJoin join) (hmore : numberUntil more = (tail, cost, true)) :
    let product := n * first * second
    let lead := words.length + 2 + join.length
    let spoken := words ++ m :: k :: (join ++ more)
    (numberUntil spoken = (product + tail, lead + cost, true) ↔ tail < first) ∧
      (numberUntil spoken = (product, lead, true) ↔ first ≤ tail) ∧
      replaceNumbers spoken =
        if tail < first then toString (product + tail) :: replaceNumbers (more.drop cost)
        else toString product :: toString tail :: replaceNumbers (more.drop cost) := by
  intro product lead spoken
  rw [numberUntil_iff] at hmore
  have hpos := (numberAt_lead hmore).1
  have hread : numberAt? spoken = if tail < first then some (product + tail, lead + cost) else some (product, lead) :=
    numberAt_multipliers hn hm hk hjoin hmore
  have hsplit : spoken = (words ++ m :: k :: join) ++ more := by simp [spoken]
  have hlead : (words ++ m :: k :: join).length = lead := by
    simp only [List.length_append, List.length_cons, lead]
    omega
  have hdrop : ∀ used, spoken.drop (lead + used) = more.drop used := by
    intro used
    rw [hsplit, ← hlead, List.drop_append, List.drop_eq_nil_of_le (Nat.le_add_right _ _), List.nil_append,
      Nat.add_sub_cancel_left]
  rw [numberUntil_iff, numberUntil_iff]
  by_cases hsmall : tail < first
  · rw [if_pos hsmall] at hread ⊢
    refine ⟨by simp [hread, hsmall], ?_, ?_⟩
    · -- a number that is added takes words of its own
      rw [hread]
      simp only [Option.some.injEq, Prod.mk.injEq]
      omega
    · rw [replaceNumbers_read hread, hdrop]
  · rw [if_neg hsmall] at hread ⊢
    refine ⟨?_, by simp [hread, Nat.not_lt.mp hsmall], ?_⟩
    · rw [hread]
      simp only [Option.some.injEq, Prod.mk.injEq]
      omega
    · have hbehind := hdrop 0
      rw [Nat.add_zero, List.drop_zero] at hbehind
      rw [replaceNumbers_read hread, hbehind, replaceNumbers_read hmore]

theorem tail_below_first_apart :
    SpellsSmall 2 ["two"] ∧ multiplier? "hundred" = some 100 ∧ multiplier? "thousand" = some 1000 ∧ MayJoin [] ∧
      numberUntil ["five", "hundred"] = (500, 2, true) ∧
      numberUntil ["two", "hundred", "thousand", "five", "hundred"] = (200000, 3, true) ∧
      replaceNumbers ["two", "hundred", "thousand", "five", "hundred"] =
        toString 200000 :: toString 500 :: replaceNumbers [] := by
  have htwo : SpellsSmall 2 ["two"] := .word (by decide)
  have hhundred : multiplier? "hundred" = some 100 := by decide
  have hthousand : multiplier? "thousand" = some 1000 := by decide
  have hfive : numberUntil ["five", "hundred"] = (500, 2, true) := by decide +kernel
  obtain ⟨-, hapart, hwritten⟩ := tail_below_first htwo hhundred hthousand .nothing hfive
  exact ⟨htwo, hhundred, hthousand, .nothing, hfive, hapart.mpr (by decide), hwritten⟩

/-- **A number below one thousand is not always added to so many hundred thousand.** "two hundred thousand five
hundred" is read as 200000, and 500 is left over. -/
theorem hundred_thousand_cut_short :
    ¬ ∀ (a : Nat) (w : String) (more : List String) (tail cost : Nat),
      smallNames[a]? = some w → 1 ≤ a → a ≤ 9 → numberUntil more = (tail, cost, true) → tail < 1000 →
        numberUntil (w :: "hundred" :: "thousand" :: more) = (a * 100000 + tail, 3 + cost, true) := by
  intro hadded
  have hfive : numberUntil ["five", "hundred"] = (500, 2, true) := by decide +kernel
  have hone := hadded 2 "two" ["five", "hundred"] 500 2 rfl (by decide) (by decide) hfive (by decide)
  have htwo : numberUntil ["two", "hundred", "thousand", "five", "hundred"] = (200000, 3, true) := by decide +kernel
  rw [htwo] at hone
  exact absurd hone (by decide)

end PadScribe.SpokenNumber
