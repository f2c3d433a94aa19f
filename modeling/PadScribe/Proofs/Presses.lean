import Mathlib.Data.Int.Bitwise
import Mathlib.Data.Int.ModEq
import PadScribe.Input.Button

/-!
# `Proofs.Presses` — the buttons that went down and up

The bytes of a report are whole numbers of any size and sign, and what is read of them are their eight lowest
bits in two's complement. Between two reports every bit was set, was cleared or stayed as it was. So the buttons
that went down and those that went up are told apart bit by bit, and both together lead from one report to the
next.

## Contents

* `testBit_low`, `low_eq_iff` — the bits that are read of a byte
* `testBit_rise`, `rise_bounds` — the bits that were set between two bytes
* `rise_disjoint`, `rise_restores` — the bits that were set and those that were cleared
* `has_eq`, `byte_down`, `byte_up` — buttons and bytes of a report
* **`presses_and_releases`** — what went down and up between two reports
-/

namespace PadScribe.ButtonState

/-! ## The bits of a byte -/

/-- **The bits that are read of a byte** are its eight lowest ones, in two's complement. -/
theorem testBit_low (n : Int) (i : Nat) : (low n).testBit i = (decide (i < 8) && n.testBit i) := by
  cases n with
  | ofNat m =>
      have hlow : low (Int.ofNat m) = m % 2 ^ 8 := rfl
      rw [hlow, Nat.testBit_mod_two_pow]
      rfl
  | negSucc m =>
      have hlow : low (Int.negSucc m) = 2 ^ 8 - (m % 2 ^ 8 + 1) := by
        unfold low
        omega
      have hlt : m % 2 ^ 8 < 2 ^ 8 := Nat.mod_lt _ (by decide)
      rw [hlow, Nat.testBit_two_pow_sub_succ hlt, Nat.testBit_mod_two_pow]
      cases h : decide (i < 8) <;> simp [Int.testBit]

theorem low_lt (n : Int) : low n < 256 := by
  unfold low
  omega

/-- Bytes are read alike exactly when they agree modulo 256. -/
theorem low_eq_iff {m n : Int} : low m = low n ↔ m ≡ n [ZMOD 256] := by
  unfold low Int.ModEq
  omega

/-! ## The bits that were set -/

/-- **The bits that were set** between two bytes. -/
theorem testBit_rise (before after : Int) (i : Nat) :
    (rise before after).testBit i = (decide (i < 8) && !before.testBit i && after.testBit i) := by
  have hall : (0xFF : Nat).testBit i = decide (i < 8) := Nat.testBit_two_pow_sub_one 8 i
  show ((low before ^^^ 0xFF) &&& low after).testBit i = _
  rw [Nat.testBit_and, Nat.testBit_xor, testBit_low, testBit_low, hall]
  cases decide (i < 8) <;> cases before.testBit i <;> simp

theorem rise_bounds (before after : Int) : 0 ≤ rise before after ∧ rise before after ≤ 255 := by
  have hle : (low before ^^^ 0xFF) &&& low after ≤ low after := Nat.and_le_right
  have hlt := low_lt after
  unfold rise
  omega

/-- No bit was both set and cleared. -/
theorem rise_disjoint (before after : Int) : Int.land (rise before after) (rise after before) = 0 := by
  have hbits : ∀ i, (Int.land (rise before after) (rise after before)).testBit i = false := by
    intro i
    rw [Int.testBit_land, testBit_rise, testBit_rise]
    cases before.testBit i <;> simp
  have hnone : ∀ n : Nat, (∀ i, (n : Int).testBit i = false) → (n : Int) = 0 := fun n h =>
    congrArg Nat.cast (Nat.zero_of_testBit_eq_false h)
  exact hnone _ hbits

/-- **Clearing and setting bits** leads from one byte to the next. -/
theorem rise_restores (before after : Int) :
    Int.lor (Int.ldiff before (rise after before)) (rise before after) ≡ after [ZMOD 256] := by
  rw [← low_eq_iff]
  apply Nat.eq_of_testBit_eq
  intro i
  rw [testBit_low, testBit_low, Int.testBit_lor, Int.testBit_ldiff, testBit_rise, testBit_rise]
  cases decide (i < 8) <;> cases before.testBit i <;> cases after.testBit i <;> rfl

/-! ## Buttons and bytes of a report -/

/-- Every button has a bit that is read. -/
theorem bit_lt (button : Button) : button.bit < 8 := by
  cases button <;> decide

/-- A button is held when its bit is set. -/
theorem has_eq (s : ButtonState) (button : Button) :
    s.has button = (s.byte button.cluster).testBit button.bit := by
  unfold has
  rw [testBit_low, decide_eq_true (bit_lt button), Bool.true_and]

@[simp] theorem byte_down (before after : ButtonState) (c : Cluster) :
    (before.down after).byte c = rise (before.byte c) (after.byte c) := by
  cases c <;> rfl

@[simp] theorem byte_up (before after : ButtonState) (c : Cluster) :
    (before.up after).byte c = rise (after.byte c) (before.byte c) := by
  cases c <;> rfl

/-- A button went down when it is held now and was not before. -/
theorem has_down (before after : ButtonState) (button : Button) :
    (before.down after).has button = (!before.has button && after.has button) := by
  simp only [has_eq, byte_down, testBit_rise, decide_eq_true (bit_lt button), Bool.true_and]

/-- What went up between two reports went down between them the other way round. -/
theorem up_eq_down (before after : ButtonState) : before.up after = after.down before := rfl

/-- **What went down and up between two reports.** A button went down exactly when it was not held before and is
held after, and up exactly when it was held before and is not held after. In every byte the two changes are bytes
themselves and have no bit in common, and clearing what went up in the byte before and then setting what went
down gives the byte after, modulo 256. -/
theorem presses_and_releases (before after : ButtonState) :
    (∀ button, (before.down after).has button = true ↔ before.has button = false ∧ after.has button = true) ∧
    (∀ button, (before.up after).has button = true ↔ before.has button = true ∧ after.has button = false) ∧
    ∀ c : Cluster,
      let set := (before.down after).byte c
      let cleared := (before.up after).byte c
      (0 ≤ set ∧ set ≤ 255) ∧ (0 ≤ cleared ∧ cleared ≤ 255) ∧ Int.land set cleared = 0 ∧
        Int.lor (Int.ldiff (before.byte c) cleared) set ≡ after.byte c [ZMOD 256] := by
  refine ⟨fun button => ?_, fun button => ?_, fun c => ?_⟩
  · simp [has_down]
  · simp [up_eq_down, has_down, and_comm]
  · intro set cleared
    have hset : set = rise (before.byte c) (after.byte c) := byte_down before after c
    have hcleared : cleared = rise (after.byte c) (before.byte c) := byte_up before after c
    rw [hset, hcleared]
    exact ⟨rise_bounds _ _, rise_bounds _ _, rise_disjoint _ _, rise_restores _ _⟩

end PadScribe.ButtonState
