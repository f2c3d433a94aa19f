import Mathlib
import PadScribe.Real.Binary64

/-!
# `Proofs.Numbers` — the order of numbers and their signs

A threshold and a stick position may each be a whole number or a double. What the zones of a stick need of
their order is little: the exact comparison agrees with the signs of the numbers, and all zeros are equal.

## Contents

* `Binary64.parts_finite`, `Binary64.parts_zero` — the parts of a double are those of its unpacked form
* `Binary64.sign?`, `Number.sign?` — the sign of a number; a value that is no number has none
* `Number.sign_mono` — a smaller number has no greater sign
* `Number.le_of_zero` — a zero is at most any other
* **`Number.above_zero`** — what lies above a number that is not negative lies above every zero
-/

namespace PadScribe

open Float.Model Float.Model.UnpackedFloat

/-! ## The parts of a double -/

namespace Binary64

/-- The sign bit is the highest one. -/
theorem sign_bit (b : BitVec 64) :
    (Sign.ofBitVec (@unpackSign .binary64 b) == .negative) = (b.toNat >>> 63 == 1) := by
  have hbit : b.toNat >>> 63 < 2 := by have := b.isLt; omega
  have hnat : (@unpackSign .binary64 b).toNat = b.toNat >>> 63 := by
    simp [unpackSign, Nat.mod_eq_of_lt hbit]
  unfold Sign.ofBitVec
  simp only [← BitVec.toNat_inj, hnat, BitVec.toNat_ofNat]
  obtain h | h : b.toNat >>> 63 = 0 ∨ b.toNat >>> 63 = 1 := by omega
  · rw [h]; rfl
  · rw [h]; rfl

/-- The exponent is the eleven bits below the sign. -/
theorem exponent_bits (b : BitVec 64) :
    (@unpackExponent .binary64 b).toNat = (b.toNat >>> 52) % 2048 := by
  simp [unpackExponent]

/-- The fraction is the rest of the bits. -/
theorem fraction_bits (b : BitVec 64) :
    (@unpackMantissa .binary64 b).toNat = b.toNat % (1 <<< 52) := by
  simp [unpackMantissa]

/-- A fraction with the bit in front that is not written down. -/
theorem toNat_one_append (m : BitVec 52) : (1#1 ++ m).toNat = m.toNat + (1 <<< 52) := by
  rw [BitVec.toNat_append, ← Nat.shiftLeft_add_eq_or_of_lt m.isLt, Nat.add_comm]
  rfl

/-- The parts of a double in terms of its fields. -/
theorem parts_fields (x : Float) :
    let b := x.toModel.toBits.toBitVec
    let exponent := @unpackExponent .binary64 b
    let fraction := (@unpackMantissa .binary64 b).toNat
    parts x = (Sign.ofBitVec (@unpackSign .binary64 b) == .negative,
      if exponent.toNat = 0 then (fraction, -1074)
      else (fraction + (1 <<< 52), (exponent.toNat : Int) - 1075)) := by
  intro b exponent fraction
  unfold exponent fraction
  rw [sign_bit, exponent_bits, fraction_bits]
  rfl

/-- The parts of a double that is not zero. -/
theorem parts_finite {x : Float} {s : Sign} {m : Nat} {e : Int} {h : 0 < m}
    (hx : x.toModel.unpack = .finite s m e h) : parts x = (s == .negative, m, e) := by
  have hbias : ((Format.binary64.exponentBias : Nat) : Int) = 1023 := rfl
  rw [parts_fields]
  unfold Float.Model.unpack UnpackedFloat.unpack at hx
  dsimp only at hx
  split at hx
  · split at hx <;> cases hx
  split at hx
  next hzero =>
    split at hx
    · cases hx
    · injection hx with hs hm he
      subst hs hm he
      simp [hzero, hbias]
  next hnormal =>
    have hexponent : (@unpackExponent .binary64 x.toModel.toBits.toBitVec).toNat ≠ 0 :=
      fun h => hnormal (BitVec.eq_of_toNat_eq h)
    injection hx with hs hm he
    subst hs hm he
    rw [toNat_one_append, if_neg hexponent]
    simp [hbias]

/-- The parts of a zero. -/
theorem parts_zero {x : Float} {s : Sign} (hx : x.toModel.unpack = .zero s) :
    parts x = (s == .negative, 0, -1074) := by
  rw [parts_fields]
  unfold Float.Model.unpack UnpackedFloat.unpack at hx
  dsimp only at hx
  split at hx
  · split at hx <;> cases hx
  split at hx
  next hexponent =>
    split at hx
    next hfraction =>
      injection hx with hs
      subst hs
      simp [hexponent, hfraction]
    next => cases hx
  next => cases hx

/-! ## Signs of doubles -/

/-- The sign of an unpacked double. A value that is no number has none. -/
def signOf? : UnpackedFloat → Option SignType
  | .notANumber => none
  | .zero _ => some 0
  | .infinity .negative | .finite .negative .. => some (-1)
  | .infinity .positive | .finite .positive .. => some 1

/-- The sign of a double. -/
def sign? (x : Float) : Option SignType :=
  signOf? x.toModel.unpack

/-- Doubles compare as their unpacked forms do. -/
theorem le_unpack {x y : Float} : x ≤ y ↔ x.toModel.unpack.le y.toModel.unpack = true := by
  change Float.le x y = true ↔ _
  unfold Float.le
  exact decide_eq_true_iff

/-- Doubles compare strictly as their unpacked forms do. -/
theorem lt_unpack {x y : Float} : x < y ↔ x.toModel.unpack.lt y.toModel.unpack = true := by
  change Float.lt x y = true ↔ _
  unfold Float.lt
  exact decide_eq_true_iff

/-- A smaller unpacked double has no greater sign. -/
theorem signOf_mono {u v : UnpackedFloat} (h : u.le v = true) :
    ∃ s t, signOf? u = some s ∧ signOf? v = some t ∧ s ≤ t := by
  rcases u with ⟨_ | _⟩ | _ | _ | ⟨_ | _, m, e, hm⟩ <;>
    rcases v with ⟨_ | _⟩ | _ | _ | ⟨_ | _, n, f, hn⟩ <;>
    -- the comparison of each other pair of forms is known to be false
    first
    | exact ⟨_, _, rfl, rfl, by decide⟩
    | cases h

/-- A smaller double has no greater sign. -/
theorem sign_mono {x y : Float} (h : x ≤ y) : ∃ s t, sign? x = some s ∧ sign? y = some t ∧ s ≤ t :=
  signOf_mono (le_unpack.mp h)

/-- Zeros are at most one another, whatever their sign bits say. -/
theorem le_of_zero {x y : Float} (hx : sign? x = some 0) (hy : sign? y = some 0) : x ≤ y := by
  rw [le_unpack]
  unfold sign? at hx hy
  rcases hu : x.toModel.unpack with ⟨_ | _⟩ | _ | _ | ⟨_ | _, m, e, hm⟩ <;> rw [hu] at hx <;> cases hx
  rcases hv : y.toModel.unpack with ⟨_ | _⟩ | _ | _ | ⟨_ | _, n, f, hn⟩ <;> rw [hv] at hy <;> cases hy
  rfl

theorem unpack_zero : (0 : Float).toModel.unpack = .zero .positive := by rfl

/-- The sign of a double above zero. -/
theorem sign_pos {x : Float} (h : 0 < x) : sign? x = some 1 := by
  rw [lt_unpack, unpack_zero] at h
  unfold sign?
  rcases hu : x.toModel.unpack with ⟨_ | _⟩ | _ | _ | ⟨_ | _, m, e, hm⟩ <;> rw [hu] at h
  case infinity.positive | finite.positive => rfl
  all_goals cases h

/-- The sign of a double below zero. -/
theorem sign_neg {x : Float} (h : x < 0) : sign? x = some (-1) := by
  rw [lt_unpack, unpack_zero] at h
  unfold sign?
  rcases hu : x.toModel.unpack with ⟨_ | _⟩ | _ | _ | ⟨_ | _, m, e, hm⟩ <;> rw [hu] at h
  case infinity.negative | finite.negative => rfl
  all_goals cases h

/-- A double that is a number has a sign. -/
theorem exists_sign {x : Float} (h : x.isNaN = false) : ∃ s, sign? x = some s := by
  change x.toModel.unpack.isNaN = false at h
  unfold sign?
  rcases hu : x.toModel.unpack with ⟨_ | _⟩ | _ | _ | ⟨_ | _, m, e, hm⟩
  case notANumber => rw [hu] at h; cases h
  all_goals exact ⟨_, rfl⟩

/-- Dropping every bit below the point, and finding them all zero, finds the significand to be zero only if
it is. -/
theorem wholePart_zero {m : Nat} {q : Int} (h : wholePart m q = (0, true)) : m = 0 := by
  unfold wholePart at h
  split at h
  · injection h with hm _
    simpa using hm
  · injection h with hm hexact
    rw [Nat.shiftRight_eq_div_pow] at hm
    rw [Nat.one_shiftLeft, beq_iff_eq] at hexact
    have := Nat.div_add_mod m (2 ^ (-q).toNat)
    rw [hm, hexact] at this
    omega

/-- The parts of a finite double, by its sign: its significand is zero only if it is. -/
theorem parts_sign {x : Float} {s : SignType} (hinf : x.isInf = false) (hs : sign? x = some s) :
    ∃ negative m q, parts x = (negative, m, q) ∧
      ((s = 0 ∧ m = 0) ∨ (m ≠ 0 ∧ s = if negative then -1 else 1)) := by
  change x.toModel.unpack.isInf = false at hinf
  unfold sign? at hs
  cases hx : x.toModel.unpack with
  | notANumber => rw [hx] at hs; cases hs
  | infinity z => rw [hx] at hinf; cases hinf
  | zero z =>
    rw [hx] at hs
    cases hs
    exact ⟨_, _, _, parts_zero hx, .inl ⟨rfl, rfl⟩⟩
  | finite z m e hm =>
    rw [hx] at hs
    refine ⟨_, _, _, parts_finite hx, .inr ⟨hm.ne', ?_⟩⟩
    cases z <;> (cases hs; rfl)

/-- The whole numbers around a finite double have its sign, as far as rounding leaves it one. -/
theorem rounded_sign {x : Float} {s : SignType} (hinf : x.isInf = false) (hs : sign? x = some s) :
    (s = 0 ∧ floor x = 0 ∧ ceil x = 0) ∨ (s = -1 ∧ floor x < 0 ∧ ceil x ≤ 0) ∨
      (s = 1 ∧ 0 ≤ floor x ∧ 0 < ceil x) := by
  obtain ⟨negative, m, q, hparts, hsign⟩ := parts_sign hinf hs
  unfold floor ceil
  rw [hparts]
  dsimp only
  rcases hwhole : wholePart m q with ⟨n, exact⟩
  obtain ⟨rfl, rfl⟩ | ⟨hm, rfl⟩ := hsign
  · have hnone : wholePart 0 q = (0, true) := by
      unfold wholePart
      split <;> simp
    obtain ⟨rfl, rfl⟩ := Prod.mk.inj (hwhole.symm.trans hnone)
    cases negative <;> exact .inl ⟨rfl, rfl, rfl⟩
  · have hn : exact = true → n ≠ 0 := by
      rintro rfl rfl
      exact hm (wholePart_zero hwhole)
    cases negative <;> cases exact <;> simp at hn ⊢ <;> omega

/-- A zero is finite, and both whole numbers around it are zero. -/
theorem of_zero {x : Float} (h : sign? x = some 0) :
    x.isNaN = false ∧ x.isInf = false ∧ floor x = 0 ∧ ceil x = 0 := by
  have hfinite : x.isNaN = false ∧ x.isInf = false := by
    unfold sign? at h
    change x.toModel.unpack.isNaN = false ∧ x.toModel.unpack.isInf = false
    rcases hu : x.toModel.unpack with ⟨_ | _⟩ | _ | _ | ⟨_ | _, m, e, hm⟩ <;> rw [hu] at h
    case zero => exact ⟨rfl, rfl⟩
    all_goals cases h
  obtain ⟨hnan, hinf⟩ := hfinite
  obtain ⟨-, hfloor, hceil⟩ | ⟨hs, -⟩ | ⟨hs, -⟩ := rounded_sign hinf h
  · exact ⟨hnan, hinf, hfloor, hceil⟩
  · cases hs
  · cases hs

end Binary64

/-! ## Signs of numbers -/

namespace Number

/-- The sign of a number. A value that is no number has none. -/
def sign? : Number → Option SignType
  | whole n => some (if 0 < n then 1 else if n < 0 then -1 else 0)
  | real x => Binary64.sign? x

/-- What a whole number up to a double says about its sign. -/
theorem whole_le_real {n : Int} {x : Float} (h : whole n ≤ real x) :
    ∃ t, Binary64.sign? x = some t ∧ SignType.sign n ≤ t := by
  change (if x.isNaN then false else
    if x.isInf then decide (0 < x) else decide (n ≤ Binary64.floor x)) = true at h
  cases hnan : x.isNaN with
  | true =>
    rw [hnan] at h
    cases h
  | false =>
    rw [hnan] at h
    cases hinf : x.isInf with
    | true =>
      rw [hinf] at h
      exact ⟨1, Binary64.sign_pos (of_decide_eq_true h), SignType.le_one _⟩
    | false =>
      rw [hinf] at h
      have hn : n ≤ Binary64.floor x := of_decide_eq_true h
      obtain ⟨t, ht⟩ := Binary64.exists_sign hnan
      refine ⟨t, ht, ?_⟩
      obtain ⟨rfl, hx, -⟩ | ⟨rfl, hx, -⟩ | ⟨rfl, -, -⟩ := Binary64.rounded_sign hinf ht
      · exact sign_nonpos_iff.mpr (hn.trans hx.le)
      · exact (sign_neg (hn.trans_lt hx)).le
      · exact SignType.le_one _

/-- What a whole number from a double on says about its sign. -/
theorem real_le_whole {n : Int} {x : Float} (h : real x ≤ whole n) :
    ∃ t, Binary64.sign? x = some t ∧ t ≤ SignType.sign n := by
  change (if x.isNaN then false else
    if x.isInf then decide (x < 0) else decide (Binary64.ceil x ≤ n)) = true at h
  cases hnan : x.isNaN with
  | true =>
    rw [hnan] at h
    cases h
  | false =>
    rw [hnan] at h
    cases hinf : x.isInf with
    | true =>
      rw [hinf] at h
      exact ⟨-1, Binary64.sign_neg (of_decide_eq_true h), SignType.neg_one_le _⟩
    | false =>
      rw [hinf] at h
      have hn : Binary64.ceil x ≤ n := of_decide_eq_true h
      obtain ⟨t, ht⟩ := Binary64.exists_sign hnan
      refine ⟨t, ht, ?_⟩
      obtain ⟨rfl, -, hx⟩ | ⟨rfl, -, -⟩ | ⟨rfl, -, hx⟩ := Binary64.rounded_sign hinf ht
      · exact sign_nonneg_iff.mpr (hx.ge.trans hn)
      · exact SignType.neg_one_le _
      · exact (sign_pos (hx.trans_le hn)).ge

/-- A smaller number has no greater sign. -/
theorem sign_mono {a b : Number} (h : a ≤ b) : ∃ s t, a.sign? = some s ∧ b.sign? = some t ∧ s ≤ t := by
  cases a with
  | whole m =>
    cases b with
    | whole n => exact ⟨_, _, rfl, rfl, SignType.sign.monotone (of_decide_eq_true h)⟩
    | real y =>
      obtain ⟨t, ht, hle⟩ := whole_le_real h
      exact ⟨_, t, rfl, ht, hle⟩
  | real x =>
    cases b with
    | whole n =>
      obtain ⟨s, hs, hle⟩ := real_le_whole h
      exact ⟨s, _, hs, rfl, hle⟩
    | real y => exact Binary64.sign_mono (of_decide_eq_true h)

/-- Zeros are at most one another. -/
theorem le_of_zero {a b : Number} (ha : a.sign? = some 0) (hb : b.sign? = some 0) : a ≤ b := by
  have hwhole {n : Int} (h : (whole n).sign? = some 0) : n = 0 := sign_eq_zero_iff.mp (Option.some.inj h)
  change a.le b = true
  cases a with
  | whole m =>
    obtain rfl := hwhole ha
    cases b with
    | whole n =>
      obtain rfl := hwhole hb
      rfl
    | real y =>
      obtain ⟨hnan, hinf, hfloor, -⟩ := Binary64.of_zero hb
      change (if y.isNaN then false else
        if y.isInf then decide (0 < y) else decide (0 ≤ Binary64.floor y)) = true
      rw [hnan, hinf, hfloor]
      rfl
  | real x =>
    cases b with
    | whole n =>
      obtain rfl := hwhole hb
      obtain ⟨hnan, hinf, -, hceil⟩ := Binary64.of_zero ha
      change (if x.isNaN then false else
        if x.isInf then decide (x < 0) else decide (Binary64.ceil x ≤ 0)) = true
      rw [hnan, hinf, hceil]
      rfl
    | real y => exact decide_eq_true (Binary64.le_of_zero ha hb)

/-- **What lies above a number that is not negative lies above every zero.** -/
theorem above_zero {n e z : Number} (hn : whole 0 ≤ n) (hne : n ≤ e) (hen : ¬ e ≤ n)
    (hz : z.sign? = some 0) : ¬ e ≤ z := by
  intro hez
  obtain ⟨o, sn, ho, hsn, hn⟩ := sign_mono hn
  obtain ⟨sn', se, hsn', hse, hne⟩ := sign_mono hne
  obtain ⟨se', sz, hse', hsz, hez⟩ := sign_mono hez
  have hzero : (whole 0).sign? = some 0 := rfl
  cases hzero.symm.trans ho
  cases hsn.symm.trans hsn'
  cases hse.symm.trans hse'
  cases hz.symm.trans hsz
  have hn0 : sn = 0 := le_antisymm (hne.trans hez) hn
  have he0 : se = 0 := le_antisymm hez (hn.trans hne)
  rw [hn0] at hsn
  rw [he0] at hse
  exact hen (le_of_zero hse hsn)

end Number

end PadScribe
