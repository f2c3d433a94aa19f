import PadScribe.Proofs.Numbers
import PadScribe.Proofs.Reading
import PadScribe.Proofs.Shifting

/-!
# `Proofs.Rejecting` — inputs that modifiers and actions fail on

A configuration that compiles may still hold options that were left empty and factors of any size, and an
input may carry values of any size and words of any length. This file says of every modifier and every action
exactly which inputs it fails on. Most never fail. Numbers are the main cause: a product that is no finite
double has no whole number, and a spoken delay may have more digits, or more seconds, than can be counted.

## Contents

* `Binary64.Scales`, `Binary64.scale_ok_iff` — numbers that stay within the doubles
* `Modifier.Rejects`, `Modifier.apply_ok_iff` — the inputs that a modifier fails on
* `Recipe.TooLong`, `Recipe.makeDelay_fails_iff`, `Recipe.make_error` — spoken delays beyond counting, which
  are all that fails when an utterance is compiled
* `Vocabulary.BreaksOff`, `Vocabulary.compile_fault_iff` — utterances that are not read to their end
* `Desk.Works` — desks at which every request ends well
* `Action.Rejects`, **`Action.run_ok_iff`** — the inputs that an action fails on
-/

namespace PadScribe

/-- A bind that succeeds for some result, in its two halves. -/
theorem except_bind_ok_iff {ε α β : Type} {x : Except ε α} {f : α → Except ε β} :
    (∃ b, (x >>= f) = .ok b) ↔ ∃ a, x = .ok a ∧ ∃ b, f a = .ok b := by
  constructor
  · rintro ⟨b, h⟩
    obtain ⟨a, ha, hb⟩ := except_bind_ok h
    exact ⟨a, ha, b, hb⟩
  · rintro ⟨a, rfl, b, hb⟩
    exact ⟨b, hb⟩

/-! ## Numbers that stay within the doubles -/

namespace Binary64

theorem isFinite_iff (x : Float) : x.isFinite = true ↔ x.isNaN = false ∧ x.isInf = false := by
  change x.toModel.unpack.isFinite = true ↔ x.toModel.unpack.isNaN = false ∧ x.toModel.unpack.isInf = false
  cases x.toModel.unpack <;>
    simp [Float.Model.UnpackedFloat.isFinite, Float.Model.UnpackedFloat.isNaN,
      Float.Model.UnpackedFloat.isInf]

/-- The doubles that are finite have a whole number. -/
theorem truncate_ok_iff {x : Float} : (∃ n, truncate x = .ok n) ↔ x.isFinite = true := by
  rw [isFinite_iff]
  unfold truncate
  cases x.isNaN <;> cases x.isInf <;> simp

/-- Whether a whole number and its product with a factor stay within the doubles. -/
def Scales (n : Int) (factor : Float) : Prop :=
  (Float.ofInt n).isInf = false ∧ (Float.ofInt n * factor).isFinite = true

theorem scale_ok_iff {n : Int} {factor : Float} : (∃ m, scale n factor = .ok m) ↔ Scales n factor := by
  unfold scale Scales
  rw [except_bind_ok_iff]
  unfold ofInt
  cases h : (Float.ofInt n).isInf <;> simp [h, truncate_ok_iff]

end Binary64

/-! ## Modifiers -/

/-- The values of a motion sample. -/
def GyroFrame.values (f : GyroFrame) : List Int :=
  [f.x, f.y, f.z, f.roll, f.pitch, f.yaw]

namespace Modifier

/-- The inputs that a modifier fails on. An emptied factor multiplies no position and no sample. A prefix and
a text have to be there both, or neither where no space goes between them. -/
def Rejects (inp : Input) : Modifier → Prop
  | boost factor =>
    (inp.kind = .stick ∧ inp.stick.isSome ∧ factor = none) ∨
    (inp.kind = .gyro ∧ ∃ f, inp.gyro = some f ∧
      ∀ k, factor = some k → ¬ ∀ n ∈ f.values, Binary64.Scales n k)
  | addPrefix lead space =>
    inp.kind = .speech ∧ ∃ u, inp.speech = some u ∧
      (lead.isSome ≠ u.text.isSome ∨ (lead = none ∧ space = true))

theorem boostFrame_ok_iff {factor : Float} {f : GyroFrame} :
    (∃ g, boostFrame factor f = .ok g) ↔ ∀ n ∈ f.values, Binary64.Scales n factor := by
  unfold boostFrame GyroFrame.values
  simp only [except_bind_ok_iff, List.forall_mem_cons, ← Binary64.scale_ok_iff]
  constructor
  · rintro ⟨x, hx, y, hy, z, hz, roll, hroll, pitch, hpitch, yaw, hyaw, _⟩
    exact ⟨⟨x, hx⟩, ⟨y, hy⟩, ⟨z, hz⟩, ⟨roll, hroll⟩, ⟨pitch, hpitch⟩, ⟨yaw, hyaw⟩, by simp⟩
  · rintro ⟨⟨x, hx⟩, ⟨y, hy⟩, ⟨z, hz⟩, ⟨roll, hroll⟩, ⟨pitch, hpitch⟩, ⟨yaw, hyaw⟩, _⟩
    exact ⟨x, hx, y, hy, z, hz, roll, hroll, pitch, hpitch, yaw, hyaw, _, rfl⟩

theorem applyBoost_ok_iff {factor : Option Float} {inp : Input} :
    (∃ out, applyBoost factor inp = .ok out) ↔ ¬ (boost factor).Rejects inp := by
  unfold applyBoost Rejects
  cases inp.kind with
  | stick => cases inp.stick <;> cases factor <;> simp
  | gyro =>
    cases inp.gyro with
    | none => simp
    | some f =>
      cases factor with
      | none => simp
      | some k =>
        simp only [← @boostFrame_ok_iff k f, reduceCtorEq, false_and, false_or, true_and,
          Option.some.injEq, exists_eq_left', forall_eq', not_not]
        cases boostFrame k f <;> simp
  | _ => simp

theorem prefixed_ok_iff {lead text : Option String} {space : Bool} :
    (∃ out, prefixed lead space text = .ok out) ↔
      ¬ (lead.isSome ≠ text.isSome ∨ (lead = none ∧ space = true)) := by
  unfold prefixed
  cases lead <;> cases text <;> cases space <;> simp

theorem applyPrefix_ok_iff {lead : Option String} {space : Bool} {inp : Input} :
    (∃ out, applyPrefix lead space inp = .ok out) ↔ ¬ (addPrefix lead space).Rejects inp := by
  unfold applyPrefix Rejects
  cases inp.kind with
  | speech =>
    cases inp.speech with
    | none => simp
    | some u =>
      simp only [true_and, Option.some.injEq, exists_eq_left']
      rw [← prefixed_ok_iff]
      cases prefixed lead space u.text <;> simp [Except.map]
  | _ => simp

/-- **A modifier ends well** unless it fails on the input. -/
theorem apply_ok_iff (m : Modifier) (inp : Input) : (∃ out, m.apply inp = .ok out) ↔ ¬ m.Rejects inp := by
  cases m with
  | addPrefix lead space => exact applyPrefix_ok_iff
  | boost factor => exact applyBoost_ok_iff

end Modifier

/-! ## Utterances -/

namespace Recipe

/-- A spoken delay beyond counting: more digits than are read as one number, or a number of seconds or
milliseconds beyond the doubles. -/
def TooLong (words : List String) : Prop :=
  (∃ first rest n, words = first :: rest ∧ Text.decimalValue? first.toList = some n ∧
      ConversionError.digitLimit < first.length) ∨
  (∃ first rest n cost word unit, words = first :: rest ∧ delayNumber first rest = .ok (n, cost) ∧
      words[cost]? = some word ∧ delayUnits.lookup (Text.lower word) = some unit ∧
      (Float.ofInt n).isInf = true)

theorem delayNumber_error {first : String} {rest : List String} {fault : Fault}
    (h : delayNumber first rest = .error fault) (hf : ∀ e, fault ≠ .spoken e) :
    ∃ n, Text.decimalValue? first.toList = some n ∧ ConversionError.digitLimit < first.length := by
  unfold delayNumber at h
  split at h
  · split at h
    next n hn hlong => exact ⟨n, hn, hlong⟩
    next => cases h
  · split at h
    · cases h
    · cases h
      exact absurd rfl (hf _)

/-- **A spoken delay fails, and is not merely passed over, exactly when it is beyond counting.** -/
theorem makeDelay_fails_iff {words : List String} :
    (∃ fault, makeDelay words = .error fault ∧ ∀ e, fault ≠ .spoken e) ↔ TooLong words := by
  constructor
  · rintro ⟨fault, h, hf⟩
    cases words with
    | nil => cases h; exact absurd rfl (hf _)
    | cons first rest =>
      simp only [makeDelay] at h
      cases hn : delayNumber first rest with
      | error e =>
        rw [hn] at h
        cases h
        obtain ⟨n, hvalue, hlong⟩ := delayNumber_error hn hf
        exact .inl ⟨first, rest, n, rfl, hvalue, hlong⟩
      | ok r =>
        obtain ⟨n, cost⟩ := r
        rw [hn] at h
        simp only [bind, Except.bind] at h
        split at h
        · cases h; exact absurd rfl (hf _)
        next word hword =>
          split at h
          · cases h; exact absurd rfl (hf _)
          next unit hunit =>
            refine .inr ⟨first, rest, n, cost, word, unit, rfl, hn, hword, hunit, ?_⟩
            unfold Binary64.ofInt at h
            by_contra hfinite
            simp [hfinite] at h
  · rintro (⟨first, rest, n, rfl, hvalue, hlong⟩ |
      ⟨first, rest, n, cost, word, unit, rfl, hn, hword, hunit, hinf⟩)
    · refine ⟨.conversion (.tooManyDigits first.length), ?_, fun _ h => by cases h⟩
      simp only [makeDelay, delayNumber, hvalue, if_pos hlong]
      rfl
    · refine ⟨.conversion .tooLarge, ?_, fun _ h => by cases h⟩
      simp only [makeDelay, hn, bind, Except.bind, hword, hunit, Binary64.ofInt]
      simp [hinf]

/-- **No other recipe fails.** -/
theorem make_error {last : String} {words : List String} {r : Recipe} {fault : Fault}
    (h : r.make last words = .error fault) (hf : ∀ e, fault ≠ .spoken e) :
    r = .spokenDelay ∧ TooLong words := by
  cases r with
  | spokenDelay => exact ⟨rfl, makeDelay_fails_iff.mp ⟨fault, h, hf⟩⟩
  | spokenHotkey =>
    simp only [make] at h
    split at h
    · cases h
    · cases h; exact absurd rfl (hf _)
  | _ => cases h

/-- What a replay speaks does not matter to the words that a recipe uses, -/
theorem make_ok_last (last' : String) {last : String} {words : List String} {r : Recipe} {used : Nat}
    {c : Command} (h : r.make last words = .ok (used, c)) : ∃ c', r.make last' words = .ok (used, c') := by
  cases r with
  | replay => cases h; exact ⟨_, rfl⟩
  | _ => exact ⟨c, h⟩

/-- nor to whether it fails. -/
theorem make_error_last (last' : String) {last : String} {words : List String} {r : Recipe} {fault : Fault}
    (h : r.make last words = .error fault) : r.make last' words = .error fault := by
  cases r with
  | replay => cases h
  | _ => exact h

end Recipe

namespace Vocabulary

variable {v : Vocabulary} {last : String} {words rest : List String} {fault : Fault}

/-- The failure of the walk over the words is that of the piece where it ends. -/
theorem compileFrom_fault (v : Vocabulary) (last : String) (done : List Command) (dropped : List SpokenError)
    (words : List String) :
    (v.compileFrom last done dropped words).fault = (v.pieces last words).findSome? Piece.fault? := by
  have halone (w : String) : (if v.typing then Piece.typed w else Piece.dropped w).fault? = none := by
    split <;> rfl
  fun_induction compileFrom v last done dropped words with
  | case1 => simp [pieces]
  | case2 done dropped w rest n r hs after used c hm ih =>
      rw [pieces_made (longest_of_scan hs) hm]
      exact ih
  | case3 done dropped w rest n r hs after e hm ih =>
      rw [pieces_rejected (longest_of_scan hs) hm]
      exact ih
  | case4 done dropped w rest n r hs after fault hf hm =>
      rw [pieces_failed (longest_of_scan hs) hm hf]
      rfl
  | case5 done dropped w rest hs r hr used c hm ih =>
      rw [pieces_alone (longest_of_scan hs), List.findSome?_cons, halone]
      exact ih
  | case6 done dropped w rest hs r hr fault hm ih =>
      rw [pieces_alone (longest_of_scan hs), List.findSome?_cons, halone]
      exact ih
  | case7 done dropped w rest hs hr ih =>
      rw [pieces_alone (longest_of_scan hs), List.findSome?_cons, halone]
      exact ih

/-- A piece at which the reading fails is a phrase of a spoken delay before one that is beyond counting. -/
theorem failed_of_mem (h : .failed rest fault ∈ v.pieces last words) :
    ∃ phrase after, rest = phrase ++ after ∧ v.commands.tree.get? phrase = some .spokenDelay ∧
      Recipe.TooLong after := by
  fun_induction pieces v last words with
  | case1 => cases h
  | case2 w more n r hl _ after count made hm ih =>
      rcases List.mem_cons.mp h with he | h
      · cases he
      · exact ih h
  | case3 w more n r _ _ after e _ ih =>
      rcases List.mem_cons.mp h with he | h
      · cases he
      · exact ih h
  | case4 w more n r hl after failure hne hm =>
      obtain ⟨rfl, rfl⟩ := Piece.failed.inj (List.mem_singleton.mp h)
      have htake : (w :: more).take n = w :: more.take (n - 1) := by
        rw [List.take_cons (by have := PhraseTree.longest_pos hl; omega)]
      have hget := PhraseTree.longest_get? hl
      rw [htake] at hget
      obtain ⟨rfl, hlong⟩ := Recipe.make_error hm hne
      exact ⟨_, _, by simp [after], hget, hlong⟩
  | case5 w more _ ih =>
      rcases List.mem_cons.mp h with he | h
      · split at he <;> cases he
      · exact ih h

/-- Where the reading fails does not depend on what a replay speaks. -/
theorem failed_last (last' : String) (h : .failed rest fault ∈ v.pieces last words) :
    .failed rest fault ∈ v.pieces last' words := by
  fun_induction pieces v last words with
  | case1 => cases h
  | case2 w more n r hl _ after count made hm ih =>
      obtain ⟨c', hm'⟩ := Recipe.make_ok_last last' hm
      rw [pieces_made hl hm']
      rcases List.mem_cons.mp h with he | h
      · cases he
      · exact List.mem_cons_of_mem _ (ih h)
  | case3 w more n r hl _ after e hm ih =>
      rw [pieces_rejected hl (Recipe.make_error_last last' hm)]
      rcases List.mem_cons.mp h with he | h
      · cases he
      · exact List.mem_cons_of_mem _ (ih h)
  | case4 w more n r hl after failure hne hm =>
      rw [pieces_failed hl (Recipe.make_error_last last' hm) hne]
      exact h
  | case5 w more hl ih =>
      rw [pieces_alone hl]
      rcases List.mem_cons.mp h with he | h
      · split at he <;> cases he
      · exact List.mem_cons_of_mem _ (ih h)

/-- **Where the reading of words breaks off**: one of the pieces that they are cut into is a phrase of a spoken
delay before one that is beyond counting. -/
def BreaksOff (v : Vocabulary) (words : List String) : Prop :=
  ∃ last phrase after fault, .failed (phrase ++ after) fault ∈ v.pieces last words ∧
    v.commands.tree.get? phrase = some .spokenDelay ∧ Recipe.TooLong after

/-- **An utterance is read to its end** unless its mapped words break off. -/
theorem compile_fault_iff (v : Vocabulary) (last text : String) :
    (∃ fault, (v.compile last text).1.fault = some fault) ↔ v.BreaksOff (v.mapped text) := by
  unfold compile compileWords
  dsimp only
  rw [compileFrom_fault]
  constructor
  · rintro ⟨fault, h⟩
    obtain ⟨piece, hpiece, hfault⟩ := List.exists_of_findSome?_eq_some h
    cases piece with
    | failed rest fault' =>
      obtain ⟨phrase, after, rfl, hget, hlong⟩ := failed_of_mem hpiece
      exact ⟨_, phrase, after, fault', hpiece, hget, hlong⟩
    | _ => cases hfault
  · rintro ⟨last', phrase, after, fault, hpiece, -, -⟩
    have hmem := failed_last (if (v.mapped text).contains replayTag then last else text) hpiece
    rw [← Option.isSome_iff_exists, List.findSome?_isSome_iff]
    exact ⟨_, hmem, rfl⟩

end Vocabulary

variable {desk : Desk} {s s' : Studio}

theorem utter_ok_iff (v : Vocabulary) (text : String) :
    (∃ t, utter v text s = .ok () t) ↔ ¬ v.BreaksOff (v.mapped text) := by
  rw [utter_apply, ← v.compile_fault_iff s.lastSpeech text]
  cases (v.compile s.lastSpeech text).1.fault <;> simp

/-! ## Actions -/

/-- A desk at which every request ends well. -/
structure Desk.Works (desk : Desk) : Prop where
  pointer : ∀ q, (desk.pointer q).fault = none
  keyboard : ∀ q, (desk.keyboard q).fault = none
  notifier : ∀ q, (desk.notifier q).fault = none

theorem plain_works (shell : List String → ShellResult) : (Desk.plain shell).Works where
  pointer q := by cases q <;> rfl
  keyboard q := by cases q <;> rfl
  notifier q := by cases q <;> rfl

theorem respond_ok {r : Response} (h : r.fault = none) (s : Studio) :
    respond r s = .ok () { s with record := s.record ++ r.effects } := by
  rw [respond_apply, h]

namespace Action

/-- The inputs that an action fails on. The pointer needs a speed, and finite products with it; a mode needs an
id; and what is heard needs a text, which has to be read to its end. -/
def Rejects (inp : Input) : Action → Prop
  | moveCursor speed =>
    (inp.kind = .stick ∧ ∃ r, inp.stick = some r ∧ ∀ k, speed = some k →
      ¬ ((r.position.x * k).isFinite = true ∧ (-r.position.y * k).isFinite = true)) ∨
    (inp.kind = .gyro ∧ ∃ f, inp.gyro = some f ∧ ∀ k, speed = some k →
      ¬ (Binary64.Scales f.yaw k ∧ Binary64.Scales (-f.pitch) k))
  | enterMode target => target = none
  | speech v =>
    inp.kind = .speech ∧ ∃ u, inp.speech = some u ∧ ∀ text, u.text = some text → v.BreaksOff (v.mapped text)
  | _ => False

/-- How far the pointer moves can be said unless moving it fails. -/
theorem pointerMove_ok_iff {speed : Option Float} {inp : Input} :
    (∃ p, pointerMove? speed inp = .ok p) ↔ ¬ (moveCursor speed).Rejects inp := by
  unfold pointerMove? Rejects
  cases hkind : inp.kind with
  | stick =>
    cases hstick : inp.stick with
    | none => simp
    | some r =>
      cases speed with
      | none => simp
      | some k =>
        simp only [reduceCtorEq, false_and, or_false, true_and, Option.some.injEq, exists_eq_left', forall_eq',
          not_not, ← Binary64.truncate_ok_iff]
        cases Binary64.truncate (r.position.x * k) <;> cases Binary64.truncate (-r.position.y * k) <;> simp
  | gyro =>
    cases hgyro : inp.gyro with
    | none => simp
    | some f =>
      cases speed with
      | none => simp
      | some k =>
        simp only [reduceCtorEq, false_and, false_or, true_and, Option.some.injEq, exists_eq_left', forall_eq',
          not_not, ← Binary64.scale_ok_iff]
        cases Binary64.scale f.yaw k <;> cases Binary64.scale (-f.pitch) k <;> simp
  | _ => simp

/-- **At a desk that works, an action ends well** unless it fails on the input. -/
theorem run_ok_iff (hd : desk.Works) (a : Action) (inp : Input) (s : Studio) :
    (∃ t, a.run desk inp s = .ok () t) ↔ ¬ a.Rejects inp := by
  cases a with
  | moveCursor speed =>
    rw [← pointerMove_ok_iff, run, bind_apply, liftFault_apply]
    cases pointerMove? speed inp with
    | error e => simp
    | ok p => cases p <;> simp
  | click button double => exact ⟨fun _ => id, fun _ => ⟨_, respond_ok (hd.pointer _) s⟩⟩
  | enterMode target =>
    cases target with
    | none =>
      refine ⟨?_, fun h => absurd rfl h⟩
      rintro ⟨_, h⟩
      cases h
    | some id =>
      obtain ⟨t, ht, _⟩ := enterOrWarn_ok (rfl : s.manager.setup = s.manager.setup) id inp
      exact ⟨fun _ => by simp [Rejects], fun _ => ⟨t, ht⟩⟩
  | speech v =>
    unfold Rejects
    rw [run]
    cases hkind : inp.kind with
    | speech =>
      cases hspeech : inp.speech with
      | none => simp
      | some u =>
        obtain ⟨_ | heard⟩ := u
        · simp
        · simpa using utter_ok_iff v heard
    | _ => simp
  | notify title text icon =>
    refine ⟨fun _ => id, fun _ => ?_⟩
    rw [run]
    cases inp.kind <;> cases inp.speech <;> exact ⟨_, rfl⟩
  | speak text => exact ⟨fun _ => id, fun _ => ⟨_, rfl⟩⟩
  | hotkey keys =>
    refine ⟨fun _ => id, fun _ => ?_⟩
    rw [run, tapKeys]
    split
    · exact ⟨_, rfl⟩
    · exact ⟨_, respond_ok (hd.keyboard _) s⟩
  | flush =>
    refine ⟨fun _ => id, fun _ => ?_⟩
    rw [run, bind_apply, get_apply]
    dsimp only
    cases s.manager.currentMode? with
    | none => exact ⟨_, rfl⟩
    | some mode =>
      obtain ⟨id, kind, switches, triggers⟩ := mode
      cases kind <;> exact ⟨_, rfl⟩
  | replay =>
    refine ⟨fun _ => id, fun _ => ?_⟩
    rw [run, bind_apply, get_apply]
    dsimp only
    split <;> exact ⟨_, rfl⟩

end Action

end PadScribe
