import PadScribe.Text.CharClass
import PadScribe.Text.LetterCase

/-!
# `Proofs.Digits` — the decimal digits of every script

The ten digits of a script stand in a row behind its zero. They have one letter case and separate no words, so that a
text that starts with a digit starts with the same digit when letter case is dropped. The plain digits of a number are
read back as the number.

## Contents

* `exists_zero` — a digit and the zero of its script
* `lowerChar_digit`, `lower_digit` — digits have one letter case
* `isBlank_digit` — digits separate no words
* `decimalValue_toString` — plain digits are read back
-/

namespace PadScribe.Text

variable {c : Char} {d : Nat}

/-- **A digit stands behind the zero of its script.** -/
theorem exists_zero (h : digitValue? c = some d) : d < 10 ∧ ∃ z ∈ zeros, c.toNat = z + d := by
  unfold digitValue? at h
  split at h
  · split at h
    · next hplain =>
        obtain ⟨hlow, hhigh⟩ : 48 ≤ c.toNat ∧ c.toNat ≤ 57 := hplain
        have hd : c.toNat - 48 = d := Option.some.inj h
        exact ⟨by omega, 48, by decide, by omega⟩
    · cases h
  · obtain ⟨z, hz, rfl⟩ := Option.map_eq_some_iff.mp h
    have hnear := List.find?_some hz
    simp only [Bool.and_eq_true, decide_eq_true_eq] at hnear
    exact ⟨by omega, z, List.mem_of_find?_eq_some hz, by omega⟩

theorem exists_value (h : isDigit c = true) : ∃ d, digitValue? c = some d :=
  Option.isSome_iff_exists.mp h

/-! ## Letter case -/

/-- No letter with a lower case is a digit. -/
theorem lowerRuns_off_zeros {r : Run} {z : Nat} (hr : r ∈ lowerRuns) (hz : z ∈ zeros) :
    r.last < z ∨ z + 9 < r.first := by
  have hall : (lowerRuns.all fun r => zeros.all fun z => r.last < z || z + 9 < r.first) = true := by decide +kernel
  simpa using List.all_eq_true.mp (List.all_eq_true.mp hall r hr) z hz

/-- **A digit has one letter case.** -/
theorem lowerChar_digit (h : isDigit c = true) : lowerChar c = [c] := by
  obtain ⟨d, hvalue⟩ := exists_value h
  obtain ⟨hd, z, hz, hc⟩ := exists_zero hvalue
  unfold lowerChar
  split
  · next hplain =>
      have hall : ∀ n < 0x80, (digitValue? (Char.ofNat n)).isSome → (Char.ofNat n).toLower = Char.ofNat n := by
        decide +kernel
      have hlower := hall c.toNat hplain
      rw [Char.ofNat_toNat] at hlower
      rw [hlower h]
  · have hexpansion : lowerExpansions.lookup c.toNat = none := by
      have hall : ∀ p ∈ lowerExpansions, isDigit (Char.ofNat p.1) = false := by decide +kernel
      rw [List.lookup_eq_none_iff]
      intro p hp
      rw [bne_iff_ne]
      intro hcode
      have hno := hall p hp
      rw [← hcode, Char.ofNat_toNat, h] at hno
      cases hno
    have hrun : lowerRuns.findSome? (·.target? c.toNat) = none := by
      rw [List.findSome?_eq_none_iff]
      intro r hr
      have hoff := lowerRuns_off_zeros hr hz
      have hout : (decide (r.first ≤ c.toNat) && decide (c.toNat ≤ r.last)) = false := by
        rw [Bool.and_eq_false_iff, decide_eq_false_iff_not, decide_eq_false_iff_not]
        omega
      simp [Run.target?, hout]
    unfold mapLetter
    rw [hexpansion, hrun]
    rfl

/-- **A text that starts with a digit** starts with it in lower case too. -/
theorem lower_digit (h : isDigit c = true) (rest : List Char) :
    (lower (String.ofList (c :: rest))).toList.head? = some c := by
  have hsigma : c ≠ 'Σ' := by
    rintro rfl
    exact absurd h (by decide)
  simp [lower, lowerFrom, hsigma, lowerChar_digit h]

/-! ## Blanks -/

theorem isBlank_digit (h : isDigit c = true) : isBlank c = false := by
  have hall : ∀ b ∈ blanks, isDigit (Char.ofNat b) = false := by decide +kernel
  rw [Bool.eq_false_iff]
  intro hblank
  have hno := hall c.toNat (List.contains_iff_mem.mp hblank)
  rw [Char.ofNat_toNat, h] at hno
  cases hno

/-! ## Plain digits -/

theorem digitValue_plain (h : c.isDigit = true) : digitValue? c = some (c.toNat - 48) := by
  obtain ⟨hlow, hhigh⟩ := Char.isDigit_iff_toNat.mp h
  have hplain : c.toNat < 0x80 := Nat.lt_of_le_of_lt hhigh (by decide)
  unfold digitValue?
  rw [if_pos hplain, if_pos ⟨hlow, hhigh⟩]
  rfl

theorem values_plain {cs : List Char} (h : ∀ c ∈ cs, c.isDigit = true) :
    cs.filterMap digitValue? = cs.map fun c => c.toNat - 48 := by
  induction cs with
  | nil => rfl
  | cons c cs ih =>
      rw [List.forall_mem_cons] at h
      rw [List.filterMap_cons_some (digitValue_plain h.1), ih h.2, List.map_cons]

/-- The digits of a number start with a digit. -/
theorem exists_digit (n : Nat) : ∃ c rest, isDigit c = true ∧ toString n = String.ofList (c :: rest) := by
  obtain ⟨c, rest, hdigits⟩ := List.exists_cons_of_ne_nil (Nat.toDigits_ne_nil (n := n) (b := 10))
  have hplain : c.isDigit = true := Nat.isDigit_of_mem_toDigits (by decide) (by decide) (hdigits ▸ List.mem_cons_self)
  refine ⟨c, rest, ?_, by rw [Nat.toString_eq_ofList_toDigits, hdigits]⟩
  rw [isDigit, digitValue_plain hplain]
  rfl

/-- **The digits of a number are read back** as the number. -/
theorem decimalValue_toString (n : Nat) : decimalValue? (toString n).toList = some n := by
  have hdigits : ∀ c ∈ Nat.toDigits 10 n, c.isDigit = true := fun c hc =>
    Nat.isDigit_of_mem_toDigits (by decide) (by decide) hc
  have hdecimal : isDecimal (Nat.toDigits 10 n) = true := by
    unfold isDecimal
    rw [Bool.and_eq_true, List.all_eq_true]
    refine ⟨by simp [Nat.toDigits_ne_nil], fun c hc => ?_⟩
    rw [isDigit, digitValue_plain (hdigits c hc)]
    rfl
  rw [Nat.toString_eq_ofList_toDigits, String.toList_ofList]
  unfold decimalValue?
  have hnumber : ofDigits ((Nat.toDigits 10 n).map fun c => c.toNat - 48) = n := by
    unfold ofDigits
    rw [List.foldl_map]
    exact Nat.ofDigitChars_ten_toDigits
  rw [if_pos hdecimal, values_plain hdigits, hnumber]

end PadScribe.Text
