import PadScribe.Speech.SpokenNumber

/-!
# `Proofs.Numerals` — English numerals are read as their numbers

English spells a number below one hundred thousand by a few rules: a word, or one of the tens and a unit, below one
hundred; a unit and "hundred" below one thousand; and a number below one hundred and "thousand" above that. After
"hundred" and "thousand" nothing may follow, or the spelling of what is left over, with or without a conjunction in
front of it. This file says that the reader of spoken numbers takes every such spelling whole and finds the number
that it spells, whatever words follow, as long as they cannot go on with it.

## Contents

* `SpellsSmall`, `Remainder`, `SpellsHundreds`, `Spells` — the spellings of a number
* `Ends` — words that cannot go on with a number
* `exists_spells` — every number below one hundred thousand has a spelling
* `goOn`, `numberAt_eq` — what a number word goes on to
* `tailStart`, `addTail`, `goOn_multiplied` — where the number after the multipliers starts, and what it adds
* `numberAt_small`, `goOn_remainder` — a small number, and what is left over after a multiplier
* `ReadWhole`, `readWhole_spells` — spellings that are read whole
* `numeral_read` — every spelling of every number
-/

namespace PadScribe.SpokenNumber

/-! ## Spellings -/

/-- The words for the numbers below twenty. -/
def smallNames : List String :=
  ["zero", "one", "two", "three", "four", "five", "six", "seven", "eight", "nine", "ten", "eleven", "twelve",
    "thirteen", "fourteen", "fifteen", "sixteen", "seventeen", "eighteen", "nineteen"]

/-- The words for the tens from twenty on. -/
def tensNames : List String :=
  ["twenty", "thirty", "forty", "fifty", "sixty", "seventy", "eighty", "ninety"]

/-- **The spellings of a number below one hundred**, in any letter case. -/
inductive SpellsSmall : Nat → List String → Prop where
  | word {n : Nat} {w : String} (name : smallNames[n]? = some (Text.lower w)) : SpellsSmall n [w]
  | tens {t : Nat} {w : String} (name : tensNames[t]? = some (Text.lower w)) : SpellsSmall (10 * (t + 2)) [w]
  | tensAndUnit {t u : Nat} {w x : String} (name : tensNames[t]? = some (Text.lower w)) (pos : 1 ≤ u) (unit : u ≤ 9)
      (unitName : smallNames[u]? = some (Text.lower x)) : SpellsSmall (10 * (t + 2) + u) [w, x]

/-- A conjunction, or nothing. -/
inductive MayJoin : List String → Prop where
  | nothing : MayJoin []
  | word {w : String} (joins : Text.lower w = "n" ∨ Text.lower w = "and") : MayJoin [w]

/-- **What may follow a multiplier**: nothing when nothing is left over, and otherwise what spells the rest, with or
without a conjunction in front of it. -/
inductive Remainder (P : Nat → List String → Prop) : Nat → List String → Prop where
  | nothing : Remainder P 0 []
  | some {r : Nat} {join words : List String} (joins : MayJoin join) (spelled : P r words) (pos : 0 < r) :
      Remainder P r (join ++ words)

/-- **The spellings of a number below one thousand.** -/
inductive SpellsHundreds : Nat → List String → Prop where
  | small {n : Nat} {words : List String} (spelled : SpellsSmall n words) : SpellsHundreds n words
  | hundreds {h r : Nat} {w m : String} {rest : List String} (pos : 1 ≤ h) (unit : h ≤ 9)
      (name : smallNames[h]? = some (Text.lower w)) (multiplier : Text.lower m = "hundred")
      (remainder : Remainder SpellsSmall r rest) : SpellsHundreds (100 * h + r) (w :: m :: rest)

/-- **The spellings of a number below one hundred thousand.** -/
inductive Spells : Nat → List String → Prop where
  | hundreds {n : Nat} {words : List String} (spelled : SpellsHundreds n words) : Spells n words
  | thousands {t r : Nat} {words rest : List String} {m : String} (spelled : SpellsSmall t words) (pos : 1 ≤ t)
      (multiplier : Text.lower m = "thousand") (remainder : Remainder SpellsHundreds r rest) :
      Spells (1000 * t + r) (words ++ m :: rest)

/-- Words that cannot go on with a number: the first of them is no number word, no multiplier and no conjunction. -/
def Ends (rest : List String) : Prop :=
  ∀ w ∈ rest.head?, numberWord? w = none ∧ multiplier? w = none ∧ isConjunction w = false

/-! ## Which numbers have a spelling -/

theorem lt_of_smallName {n : Nat} {name : String} (h : smallNames[n]? = some name) : n < 20 :=
  (List.getElem?_eq_some_iff.mp h).1

theorem lt_of_tensName {t : Nat} {name : String} (h : tensNames[t]? = some name) : t < 8 :=
  (List.getElem?_eq_some_iff.mp h).1

/-- The names are written small. -/
theorem lower_names : ∀ name ∈ smallNames ++ tensNames, Text.lower name = name := by
  decide

theorem exists_smallName {n : Nat} (h : n < 20) : ∃ w, smallNames[n]? = some (Text.lower w) := by
  have hlen : n < smallNames.length := h
  refine ⟨smallNames[n], ?_⟩
  rw [lower_names _ (List.mem_append_left _ (List.getElem_mem hlen)), List.getElem?_eq_getElem hlen]

theorem exists_tensName {t : Nat} (h : t < 8) : ∃ w, tensNames[t]? = some (Text.lower w) := by
  have hlen : t < tensNames.length := h
  refine ⟨tensNames[t], ?_⟩
  rw [lower_names _ (List.mem_append_right _ (List.getElem_mem hlen)), List.getElem?_eq_getElem hlen]

theorem exists_spellsSmall {n : Nat} (h : n < 100) : ∃ words, SpellsSmall n words := by
  by_cases hlow : n < 20
  · obtain ⟨w, hw⟩ := exists_smallName hlow
    exact ⟨_, .word hw⟩
  · obtain ⟨t, u, hu, rfl⟩ : ∃ t u, u ≤ 9 ∧ n = 10 * (t + 2) + u := ⟨n / 10 - 2, n % 10, by omega, by omega⟩
    obtain ⟨w, hw⟩ := exists_tensName (show t < 8 by omega)
    cases u with
    | zero => exact ⟨_, .tens hw⟩
    | succ u =>
        obtain ⟨x, hx⟩ := exists_smallName (show u + 1 < 20 by omega)
        exact ⟨_, .tensAndUnit hw (Nat.succ_pos u) hu hx⟩

theorem exists_remainder {P : Nat → List String → Prop} {r : Nat} (h : ∃ words, P r words) :
    ∃ words, Remainder P r words := by
  obtain ⟨words, hwords⟩ := h
  cases r with
  | zero => exact ⟨_, .nothing⟩
  | succ r => exact ⟨_, .some .nothing hwords (Nat.succ_pos r)⟩

theorem exists_spellsHundreds {n : Nat} (h : n < 1000) : ∃ words, SpellsHundreds n words := by
  obtain ⟨k, r, hr, rfl⟩ : ∃ k r, r < 100 ∧ n = 100 * k + r := ⟨n / 100, n % 100, by omega, by omega⟩
  obtain ⟨small, hsmall⟩ := exists_spellsSmall hr
  cases k with
  | zero =>
      rw [Nat.mul_zero, Nat.zero_add]
      exact ⟨small, .small hsmall⟩
  | succ k =>
      obtain ⟨w, hw⟩ := exists_smallName (show k + 1 < 20 by omega)
      obtain ⟨rest, hrest⟩ := exists_remainder ⟨small, hsmall⟩
      have hm : Text.lower "hundred" = "hundred" := by decide
      exact ⟨_, .hundreds (Nat.succ_pos k) (by omega) hw hm hrest⟩

/-- **Every number below one hundred thousand** has a spelling. -/
theorem exists_spells {n : Nat} (h : n < 100000) : ∃ words, Spells n words := by
  obtain ⟨k, r, hr, rfl⟩ : ∃ k r, r < 1000 ∧ n = 1000 * k + r := ⟨n / 1000, n % 1000, by omega, by omega⟩
  obtain ⟨low, hlow⟩ := exists_spellsHundreds hr
  cases k with
  | zero =>
      rw [Nat.mul_zero, Nat.zero_add]
      exact ⟨low, .hundreds hlow⟩
  | succ k =>
      obtain ⟨words, hwords⟩ := exists_spellsSmall (show k + 1 < 100 by omega)
      obtain ⟨rest, hrest⟩ := exists_remainder ⟨low, hlow⟩
      have hm : Text.lower "thousand" = "thousand" := by decide
      exact ⟨_, .thousands hwords (Nat.succ_pos k) hm hrest⟩

theorem spellsSmall_lt {n : Nat} {words : List String} (h : SpellsSmall n words) : n < 100 := by
  cases h with
  | word name => exact Nat.lt_trans (lt_of_smallName name) (by decide)
  | tens name =>
      have := lt_of_tensName name
      omega
  | tensAndUnit name _ _ _ =>
      have := lt_of_tensName name
      omega

theorem remainder_lt {P : Nat → List String → Prop} {k r : Nat} {words : List String} (hk : 0 < k)
    (hP : ∀ {n words}, P n words → n < k) (h : Remainder P r words) : r < k := by
  cases h with
  | nothing => exact hk
  | some _ spelled _ => exact hP spelled

theorem spellsHundreds_lt {n : Nat} {words : List String} (h : SpellsHundreds n words) : n < 1000 := by
  cases h with
  | small spelled => exact Nat.lt_trans (spellsSmall_lt spelled) (by decide)
  | hundreds _ _ _ _ remainder =>
      have := remainder_lt (by decide) spellsSmall_lt remainder
      omega

/-! ## The words of spellings -/

/-- A number word is no multiplier and no conjunction. -/
theorem alone_of_numberWord {w : String} {n : Nat} (h : numberWord? w = some n) :
    multiplier? w = none ∧ isConjunction w = false := by
  have hall : ∀ p ∈ numberWords, multipliers.lookup p.1 = none ∧ conjunctions.contains p.1 = false := by
    decide
  obtain ⟨before, after, hwords, -⟩ := List.lookup_eq_some_iff.mp h
  exact hall (Text.lower w, n) (hwords ▸ List.mem_append_right _ List.mem_cons_self)

theorem numberWord_small {n : Nat} {w : String} (h : smallNames[n]? = some (Text.lower w)) :
    numberWord? w = some n := by
  have hall : ∀ p ∈ smallNames.zipIdx, numberWords.lookup p.1 = some p.2 := by decide
  exact hall (Text.lower w, n) (List.mem_zipIdx_iff_getElem?.mpr h)

theorem numberWord_tens {t : Nat} {w : String} (h : tensNames[t]? = some (Text.lower w)) :
    numberWord? w = some (10 * (t + 2)) := by
  have hall : ∀ p ∈ tensNames.zipIdx, numberWords.lookup p.1 = some (10 * (p.2 + 2)) := by decide
  exact hall (Text.lower w, t) (List.mem_zipIdx_iff_getElem?.mpr h)

/-- A multiplier is no number word. -/
theorem multiplier_hundred {m : String} (h : Text.lower m = "hundred") :
    multiplier? m = some 100 ∧ numberWord? m = none := by
  unfold multiplier? numberWord?
  rw [h]
  decide

theorem multiplier_thousand {m : String} (h : Text.lower m = "thousand") :
    multiplier? m = some 1000 ∧ numberWord? m = none := by
  unfold multiplier? numberWord?
  rw [h]
  decide

/-- A conjunction is no multiplier. -/
theorem conjunction_joins {w : String} (h : Text.lower w = "n" ∨ Text.lower w = "and") :
    isConjunction w = true ∧ multiplier? w = none := by
  unfold isConjunction multiplier?
  rcases h with h | h
  · rw [h]
    decide
  · rw [h]
    decide

/-! ## The reader -/

/-- What a value goes on to: the number that it makes with the words after it, and how many of them that takes. -/
def goOn (value : Nat) (words : List String) : Nat × Nat :=
  match multiplierAt words with
  | none => (value, 0)
  | some first =>
    let second := multiplierAt (words.drop 1)
    let start := 1 + if second.isSome then 1 else 0
    let start := start + conjunctionCost (words.drop start)
    let value := value * first * second.getD 1
    match numberAt? (words.drop start) with
    | none => (value, start)
    | some (tail, cost) => if tail < first then (value + tail, start + cost) else (value, start)

/-- **A number that is read** is a number word, with the unit after one of the tens, and what it goes on to. -/
theorem numberAt_eq {w : String} {base : Nat} (h : numberWord? w = some base) (rest : List String) :
    let unit := unitAfter base rest
    let cost := if unit.isSome then 1 else 0
    let made := goOn (base + unit.getD 0) (rest.drop cost)
    numberAt? (w :: rest) = some (made.1, 1 + cost + made.2) := by
  have hdrop : ∀ k j, (rest.drop k).drop j = rest.drop (k + j) := fun k j => List.drop_drop ..
  rw [numberAt?]
  simp only [h, goOn, hdrop]
  cases multiplierAt (rest.drop (if (unitAfter base rest).isSome then 1 else 0)) with
  | none => rfl
  | some first =>
      simp only [← Nat.add_assoc]
      generalize numberAt? (rest.drop _) = after
      cases after with
      | none => simp only [Nat.add_assoc]
      | some tail =>
          by_cases hsmall : tail.1 < first
          · simp only [if_pos hsmall, Nat.add_assoc]
          · simp only [if_neg hsmall, Nat.add_assoc]

/-- A value that no multiplier follows goes on to nothing. -/
theorem goOn_alone {value : Nat} {words : List String} (h : multiplierAt words = none) :
    goOn value words = (value, 0) := by
  simp only [goOn, h]

/-- Where the number after the multipliers starts: behind one multiplier or two, and a conjunction if there is one. -/
def tailStart (words : List String) : Nat :=
  let start := 1 + if (multiplierAt (words.drop 1)).isSome then 1 else 0
  start + conjunctionCost (words.drop start)

/-- What a product is with the number after it, which is added when it is smaller than the first multiplier. -/
def addTail (first product start : Nat) : Option (Nat × Nat) → Nat × Nat
  | none => (product, start)
  | some (tail, cost) => if tail < first then (product + tail, start + cost) else (product, start)

/-- **A value and a multiplier** go on to their product and what the number after it adds. -/
theorem goOn_multiplied {first : Nat} {words : List String} (hfirst : multiplierAt words = some first) (value : Nat) :
    goOn value words = addTail first (value * first * (multiplierAt (words.drop 1)).getD 1) (tailStart words)
      (numberAt? (words.drop (tailStart words))) := by
  simp only [goOn, hfirst]
  rfl

theorem tailStart_pos (words : List String) : 1 ≤ tailStart words := by
  simp only [tailStart]
  omega

theorem numberAt_none {w : String} (h : numberWord? w = none) (rest : List String) :
    numberAt? (w :: rest) = none := by
  simp only [numberAt?, h]

/-- A number that is read starts with a number word, and uses it. -/
theorem numberAt_lead {words : List String} {n cost : Nat} (h : numberAt? words = some (n, cost)) :
    1 ≤ cost ∧ ∃ w rest base, words = w :: rest ∧ numberWord? w = some base := by
  cases words with
  | nil => simp [numberAt?] at h
  | cons w rest =>
      cases hword : numberWord? w with
      | none =>
          rw [numberAt_none hword] at h
          cases h
      | some base =>
          rw [numberAt_eq hword] at h
          obtain ⟨-, rfl⟩ := Prod.mk.inj (Option.some.inj h)
          exact ⟨by omega, w, rest, base, rfl, hword⟩

theorem numberUntil_iff {words : List String} {n cost : Nat} :
    numberUntil words = (n, cost, true) ↔ numberAt? words = some (n, cost) := by
  unfold numberUntil
  cases numberAt? words with
  | none => simp
  | some r => simp [Prod.ext_iff]

/-- **Digits stand for a number that is read**, and the words after it are replaced as if they stood alone. -/
theorem replaceNumbers_read {words : List String} {n cost : Nat} (h : numberAt? words = some (n, cost)) :
    replaceNumbers words = toString n :: replaceNumbers (words.drop cost) := by
  obtain ⟨hpos, w, rest, base, rfl, -⟩ := numberAt_lead h
  obtain ⟨used, rfl⟩ := Nat.exists_eq_add_of_le' hpos
  rw [replaceNumbers, h]
  rfl

/-- Words that cannot go on with a number do not. -/
theorem Ends.stops {rest : List String} (h : Ends rest) :
    multiplierAt rest = none ∧ conjunctionCost rest = 0 ∧ numberAt? rest = none := by
  cases rest with
  | nil => exact ⟨rfl, rfl, by simp [numberAt?]⟩
  | cons w rest =>
      obtain ⟨hword, hmultiplier, hjoin⟩ := h w rfl
      exact ⟨hmultiplier, by simp [conjunctionCost, hjoin], numberAt_none hword rest⟩

/-- **A spelling below one hundred is read whole**, and what is made of it depends on the words after it alone, where
they do not start with a number word. -/
theorem numberAt_small {n : Nat} {words rest : List String} (h : SpellsSmall n words)
    (hrest : ∀ w ∈ rest.head?, numberWord? w = none) :
    numberAt? (words ++ rest) = some ((goOn n rest).1, words.length + (goOn n rest).2) := by
  cases h with
  | word name =>
      have hword := numberWord_small name
      have hunit : unitAfter n rest = none := by
        have hlow : isTens n = false := by simp [isTens, Nat.not_le.mpr (lt_of_smallName name)]
        simp [unitAfter, hlow]
      have hread := numberAt_eq hword rest
      rw [hunit] at hread
      exact hread
  | @tens t w name =>
      have hunit : unitAfter (10 * (t + 2)) rest = none := by
        cases rest with
        | nil => simp [unitAfter]
        | cons x rest => simp [unitAfter, hrest x rfl]
      have hread := numberAt_eq (numberWord_tens name) rest
      rw [hunit] at hread
      exact hread
  | @tensAndUnit t u w x name pos unit unitName =>
      have hunit : unitAfter (10 * (t + 2)) (x :: rest) = some u := by
        have htens : isTens (10 * (t + 2)) = true := by simp [isTens]; omega
        simp [unitAfter, htens, numberWord_small unitName, pos, unit]
      have hread := numberAt_eq (numberWord_tens name) (x :: rest)
      rw [hunit] at hread
      exact hread

/-- A kind of spellings that are read whole, and start with a number word. -/
structure ReadWhole (P : Nat → List String → Prop) : Prop where
  lead {n : Nat} {words : List String} : P n words → ∃ w rest base, words = w :: rest ∧ numberWord? w = some base
  read {n : Nat} {words rest : List String} : P n words → Ends rest →
    numberAt? (words ++ rest) = some (n, words.length)

/-- A value and a multiplier, with or without a conjunction after it, go on with the number that comes next, if it is
smaller than the multiplier. -/
theorem goOn_multiplier {m : String} {first : Nat} (hm : multiplier? m = some first) {join words : List String}
    (hjoin : MayJoin join) (hsecond : multiplierAt words = none) (hsingle : conjunctionCost words = 0) (value : Nat) :
    goOn value (m :: (join ++ words)) =
      match numberAt? words with
      | none => (value * first, 1 + join.length)
      | some (tail, cost) =>
        if tail < first then (value * first + tail, 1 + join.length + cost) else (value * first, 1 + join.length) := by
  have hfirst : multiplierAt (m :: (join ++ words)) = some first := hm
  cases hjoin with
  | nothing =>
      rw [List.nil_append] at hfirst ⊢
      simp [goOn, hfirst, hsecond, hsingle]
  | @word w joins =>
      obtain ⟨hword, hno⟩ := conjunction_joins joins
      have hnone : multiplierAt (w :: words) = none := hno
      have hcost : conjunctionCost (w :: words) = 1 := by simp [conjunctionCost, hword]
      rw [List.singleton_append] at hfirst ⊢
      simp [goOn, hfirst, hnone, hcost]

/-- **A multiplier and what is left over** are added to a value, where the rest is smaller than the multiplier. -/
theorem goOn_remainder {P : Nat → List String → Prop} (hP : ReadWhole P) {m : String} {first : Nat}
    (hm : multiplier? m = some first) {r : Nat} {words rest : List String} (h : Remainder P r words) (hr : r < first)
    (hrest : Ends rest) (value : Nat) :
    goOn value (m :: (words ++ rest)) = (first * value + r, 1 + words.length) := by
  cases h with
  | nothing =>
      obtain ⟨hsecond, hsingle, hnone⟩ := hrest.stops
      have hgo := goOn_multiplier hm .nothing hsecond hsingle value
      rw [hnone] at hgo
      rw [Nat.mul_comm first]
      exact hgo
  | @some r join words joins spelled pos =>
      obtain ⟨w, more, base, rfl, hw⟩ := hP.lead spelled
      obtain ⟨hsecond, hno⟩ := alone_of_numberWord hw
      have hnext : multiplierAt (w :: more ++ rest) = none := hsecond
      have hsingle : conjunctionCost (w :: more ++ rest) = 0 := by simp [conjunctionCost, hno]
      have hgo := goOn_multiplier hm joins hnext hsingle value
      rw [hP.read spelled hrest] at hgo
      simp only [if_pos hr] at hgo
      rw [List.append_assoc, hgo, Nat.mul_comm first, List.length_append, Nat.add_assoc]

theorem readWhole_small : ReadWhole SpellsSmall where
  lead h := by
    cases h with
    | word name => exact ⟨_, _, _, rfl, numberWord_small name⟩
    | tens name => exact ⟨_, _, _, rfl, numberWord_tens name⟩
    | tensAndUnit name _ _ _ => exact ⟨_, _, _, rfl, numberWord_tens name⟩
  read {n words rest} h hrest := by
    rw [numberAt_small h fun w hw => (hrest w hw).1, goOn_alone hrest.stops.1]
    rfl

theorem readWhole_hundreds : ReadWhole SpellsHundreds where
  lead h := by
    cases h with
    | small spelled => exact readWhole_small.lead spelled
    | hundreds _ _ name _ _ => exact ⟨_, _, _, rfl, numberWord_small name⟩
  read {n words rest} h hrest := by
    cases h with
    | small spelled => exact readWhole_small.read spelled hrest
    | @hundreds h r w m more pos unit name multiplier remainder =>
        obtain ⟨hm, hnoword⟩ := multiplier_hundred multiplier
        have hhead : ∀ x ∈ (m :: (more ++ rest)).head?, numberWord? x = none := by simpa using hnoword
        have hread := numberAt_small (.word name) hhead
        rw [goOn_remainder readWhole_small hm remainder (remainder_lt (by decide) spellsSmall_lt remainder) hrest]
          at hread
        simpa [Nat.add_comm, Nat.add_left_comm] using hread

theorem readWhole_spells : ReadWhole Spells where
  lead h := by
    cases h with
    | hundreds spelled => exact readWhole_hundreds.lead spelled
    | thousands spelled _ _ _ =>
        obtain ⟨w, rest, base, rfl, hw⟩ := readWhole_small.lead spelled
        exact ⟨_, _, _, rfl, hw⟩
  read {n words rest} h hrest := by
    cases h with
    | hundreds spelled => exact readWhole_hundreds.read spelled hrest
    | @thousands t r words more m spelled pos multiplier remainder =>
        obtain ⟨hm, hnoword⟩ := multiplier_thousand multiplier
        have hhead : ∀ x ∈ (m :: (more ++ rest)).head?, numberWord? x = none := by simpa using hnoword
        have hread := numberAt_small spelled hhead
        rw [goOn_remainder readWhole_hundreds hm remainder
          (remainder_lt (by decide) spellsHundreds_lt remainder) hrest] at hread
        simpa [Nat.add_comm, Nat.add_left_comm] using hread

/-- **Every spelling of every number below one hundred thousand is read as the number.** The number has a spelling;
and whatever words follow that cannot go on with it, the reader finds the number, and has used the words of its spelling
and no others. Where numbers are replaced by their digits, those of the number stand for its spelling, and the words
after it are replaced as if they stood alone. -/
theorem numeral_read {n : Nat} (hn : n < 100000) :
    (∃ words, Spells n words) ∧ ∀ words rest, Spells n words → Ends rest →
      numberUntil (words ++ rest) = (n, words.length, true) ∧
      replaceNumbers (words ++ rest) = toString n :: replaceNumbers rest := by
  refine ⟨exists_spells hn, fun words rest h hrest => ?_⟩
  have hread := readWhole_spells.read h hrest
  refine ⟨by simp only [numberUntil, hread], ?_⟩
  obtain ⟨w, more, _, rfl, _⟩ := readWhole_spells.lead h
  rw [List.cons_append] at hread ⊢
  rw [replaceNumbers, hread]
  simp

theorem numeral_read_mixed : Spells 20605 ["Twenty", "THOUSAND", "n", "six", "hundred", "And", "five"] ∧
    Ends ["haha", "seven"] ∧
    numberUntil ["Twenty", "THOUSAND", "n", "six", "hundred", "And", "five", "haha", "seven"] = (20605, 7, true) ∧
    replaceNumbers ["Twenty", "THOUSAND", "n", "six", "hundred", "And", "five", "haha", "seven"]
      = toString 20605 :: replaceNumbers ["haha", "seven"] := by
  have hspelled : Spells 20605 ["Twenty", "THOUSAND", "n", "six", "hundred", "And", "five"] := by
    have hfive : SpellsSmall 5 ["five"] := .word (by decide)
    have hlow : SpellsHundreds 605 ["six", "hundred", "And", "five"] :=
      .hundreds (h := 6) (by decide) (by decide) (by decide) (by decide)
        (.some (.word (by decide)) hfive (by decide))
    have htwenty : SpellsSmall 20 ["Twenty"] := .tens (t := 0) (by decide)
    exact .thousands htwenty (by decide) (by decide) (.some (.word (by decide)) hlow (by decide))
  have hends : Ends ["haha", "seven"] := by
    intro w hw
    obtain rfl := Option.some.inj hw
    decide
  exact ⟨hspelled, hends, (numeral_read (by decide)).2 _ _ hspelled hends⟩

end PadScribe.SpokenNumber
