import Mathlib.Data.List.TakeWhile
import PadScribe.Proofs.Digits
import PadScribe.Speech.Duration

/-!
# `Proofs.Durations` — the texts that are durations

A duration is a row of parts, each a number with its unit right after it. The reader takes the longest run of digits,
one point and the digits after it, and then the first unit of its table that fits. This file says that nothing is lost
by never taking a choice back: a text is read exactly when it can be cut into parts at all, it can be cut in one way
only, and what is read is the sum of the parts from the left. The number of a part is the double that its text is read
as on its own.

## Contents

* `Decimal.read_whole`, `Decimal.read_point` — digits with and without a point, read on their own
* `Numeral`, `number_read`, `number_sound` — the numbers of durations
* `unit_read`, `unit_sound` — units, of which one may start another
* `Part`, `part_read`, `part_sound`, `part_unique` — numbers with their units
* `Spelled`, `totalFrom`, `duration_read` — whole texts
-/

namespace PadScribe

namespace Decimal

variable {cs ds fs rest : List Char} {c : Char}

/-! ## Digits that are read on their own -/

/-- A character with the digits of every script in their plain form. -/
def plainChar (c : Char) : Char :=
  ((Text.digitValue? c).map fun d => Char.ofNat ('0'.toNat + d)).getD c

/-- The values of some digits. -/
def values (ds : List Char) : List Nat :=
  ds.filterMap Text.digitValue?

/-- A row of digits. -/
def Digits (ds : List Char) : Prop :=
  ∀ c ∈ ds, Text.isDigit c = true

theorem digits_nil : Digits [] := by
  intro c hc
  cases hc

theorem values_nil : values [] = [] := rfl

theorem plainChar_digit (h : Text.isDigit c = true) :
    (plainChar c).isDigit = true ∧ Text.digitValue? c = some ((plainChar c).toNat - 48) ∧
      (plainChar c).toLower = plainChar c := by
  obtain ⟨d, hvalue⟩ := Text.exists_value h
  have hall : ∀ d < 10, (Char.ofNat (48 + d)).isDigit = true ∧ (Char.ofNat (48 + d)).toNat - 48 = d ∧
      (Char.ofNat (48 + d)).toLower = Char.ofNat (48 + d) := by decide
  obtain ⟨hdigit, hback, hlower⟩ := hall d (Text.exists_zero hvalue).1
  have hplain : plainChar c = Char.ofNat (48 + d) := by
    unfold plainChar
    rw [hvalue]
    rfl
  rw [hplain, hback]
  exact ⟨hdigit, hvalue, hlower⟩

/-- Some digits in their plain form, before something that starts with no digit. -/
theorem digits_plain (hds : Digits ds) (hrest : ∀ c ∈ rest.head?, c.isDigit = false) :
    digits (ds.map plainChar ++ rest) = (values ds, rest) := by
  induction ds with
  | nil =>
      cases rest with
      | nil => rfl
      | cons c rest => simp [digits, values, hrest c rfl]
  | cons c ds ih =>
      obtain ⟨hc, hds⟩ := List.forall_mem_cons.mp hds
      obtain ⟨hdigit, hvalue, -⟩ := plainChar_digit hc
      obtain ⟨hvalues, hafter⟩ := Prod.mk.inj (ih hds)
      have hfirst : values (c :: ds) = ((plainChar c).toNat - 48) :: values ds :=
        List.filterMap_cons_some hvalue
      rw [List.map_cons, List.cons_append, hfirst, ← hvalues]
      unfold digits
      rw [List.takeWhile_cons_of_pos hdigit, List.dropWhile_cons_of_pos hdigit, hafter]
      rfl

/-- A character of a number without a sign: a digit or a point. -/
def InNumber (c : Char) : Prop :=
  Text.isDigit c = true ∨ c = '.'

theorem isMargin_inNumber (h : InNumber c) : isMargin c = false := by
  rcases h with h | rfl
  · simp [isMargin, Text.isBlank_digit h]
  · decide

theorem plain_inNumber (h : ∀ c ∈ cs, InNumber c) : plain cs = cs.map plainChar := by
  have hkeep : ∀ ds : List Char, (∀ c ∈ ds, InNumber c) → ds.dropWhile isMargin = ds := by
    intro ds hds
    cases ds with
    | nil => rfl
    | cons c ds => exact List.dropWhile_cons_of_neg (by simp [isMargin_inNumber (hds c List.mem_cons_self)])
  unfold plain
  rw [hkeep cs h, hkeep cs.reverse fun c hc => h c (List.mem_reverse.mp hc), List.reverse_reverse]
  rfl

/-- A plain digit or a point is no underscore, no sign and no letter. -/
theorem plainChar_inNumber (h : InNumber c) :
    plainChar c ∉ ['_', '-', '+'] ∧ (plainChar c).toLower ∉ ['i', 'n'] := by
  rcases h with h | rfl
  · obtain ⟨hdigit, -, hlower⟩ := plainChar_digit h
    have hother : (['_', '-', '+', 'i', 'n'].all fun c => !c.isDigit) = true := by decide
    have hno : plainChar c ∉ ['_', '-', '+', 'i', 'n'] := by
      intro hmem
      have hnot := List.all_eq_true.mp hother _ hmem
      rw [hdigit] at hnot
      cases hnot
    rw [hlower]
    exact ⟨fun hmem => hno (List.mem_append_left ['i', 'n'] hmem),
      fun hmem => hno (List.mem_append_right ['_', '-', '+'] hmem)⟩
  · decide

theorem dropUnderscores_none (h : '_' ∉ cs) (previous : Bool) : dropUnderscores? previous cs = some cs := by
  induction cs generalizing previous with
  | nil => rfl
  | cons c cs ih =>
      obtain ⟨hc, hcs⟩ := not_or.mp (mt List.mem_cons.mpr h)
      rw [dropUnderscores?, ih hcs]
      · rfl
      · rintro - - rfl
        exact absurd rfl hc
      · rintro rfl
        exact absurd rfl hc

/-- **A number without a sign** is read as what its plain digits and its point make. -/
theorem read_inNumber (hne : cs ≠ []) (h : ∀ c ∈ cs, InNumber c) :
    read? (String.ofList cs) = finite? (cs.map plainChar) := by
  obtain ⟨c, more, rfl⟩ := List.exists_cons_of_ne_nil hne
  obtain ⟨hsigns, hletters⟩ := plainChar_inNumber (h c List.mem_cons_self)
  have hunderscore : '_' ∉ (c :: more).map plainChar := by
    intro hmem
    obtain ⟨d, hd, hscore⟩ := List.mem_map.mp hmem
    exact (plainChar_inNumber (h d hd)).1 (hscore ▸ List.mem_cons_self)
  have hsign : sign ((c :: more).map plainChar) = (false, (c :: more).map plainChar) := by
    simp only [List.mem_cons, not_or] at hsigns
    rw [List.map_cons]
    unfold sign
    split
    · next hhead => exact absurd (List.cons.inj hhead).1 hsigns.2.1
    · next hhead => exact absurd (List.cons.inj hhead).1 hsigns.2.2.1
    · rfl
  have hword : ∀ d ∈ ['i', 'n'], ∀ word, ((c :: more).map plainChar).map Char.toLower ≠ d :: word := by
    intro d hd word heq
    exact hletters ((List.cons.inj heq).1 ▸ hd)
  have hinf := hword 'i' (by decide)
  have hnan := hword 'n' (by decide)
  simp only [read?, String.toList_ofList, plain_inNumber h, dropUnderscores_none hunderscore, Option.bind_eq_bind,
    Option.bind_some, hsign, hinf, hnan, or_self, if_false]
  cases finite? ((c :: more).map plainChar) <;> rfl

theorem ofFixed_eq (whole fraction : List Nat) :
    ofScientific (Text.ofDigits (whole ++ fraction)) (0 - (fraction.length : Int)) = ofFixed whole fraction := by
  rw [Int.zero_sub]
  rfl

theorem values_ne_nil (hds : Digits ds) (hne : ds ≠ []) : values ds ≠ [] := by
  obtain ⟨c, ds, rfl⟩ := List.exists_cons_of_ne_nil hne
  have hvalue := (plainChar_digit (hds c List.mem_cons_self)).2.1
  unfold values
  rw [List.filterMap_cons_some hvalue]
  exact List.cons_ne_nil _ _

/-- **Digits** are read as the number that they stand for. -/
theorem read_whole (hds : Digits ds) (hne : ds ≠ []) :
    read? (String.ofList ds) = some (ofFixed (values ds) []) := by
  have hcut : digits (ds.map plainChar ++ []) = (values ds, []) := digits_plain hds (by simp)
  rw [read_inNumber hne fun c hc => .inl (hds c hc)]
  rw [List.append_nil] at hcut
  unfold finite?
  rw [hcut]
  simp [values_ne_nil hds hne, exponent?, ← ofFixed_eq]

/-- **Digits with a point among them** are read as the number that they stand for, if there is a digit at all. -/
theorem read_point (hds : Digits ds) (hfs : Digits fs) (hne : ds ≠ [] ∨ fs ≠ []) :
    read? (String.ofList (ds ++ '.' :: fs)) = some (ofFixed (values ds) (values fs)) := by
  have hin : ∀ c ∈ ds ++ '.' :: fs, InNumber c := by
    intro c hc
    rcases List.mem_append.mp hc with hc | hc
    · exact .inl (hds c hc)
    · rcases List.mem_cons.mp hc with rfl | hc
      · exact .inr rfl
      · exact .inl (hfs c hc)
  have hpoint : plainChar '.' = '.' := by decide
  have hwhole : digits ((ds ++ '.' :: fs).map plainChar) = (values ds, '.' :: fs.map plainChar) := by
    rw [List.map_append, List.map_cons, hpoint]
    exact digits_plain hds (by simp)
  have hfraction : digits (fs.map plainChar ++ []) = (values fs, []) := digits_plain hfs (by simp)
  rw [List.append_nil] at hfraction
  have hsome : ¬ ((values ds).isEmpty && (values fs).isEmpty) = true := by
    rw [Bool.and_eq_true, List.isEmpty_iff, List.isEmpty_iff]
    rintro ⟨hd, hf⟩
    rcases hne with hne | hne
    · exact values_ne_nil hds hne hd
    · exact values_ne_nil hfs hne hf
  rw [read_inNumber (by simp) hin]
  unfold finite?
  simp only [hwhole, hfraction, if_neg hsome, exponent?, Option.map_some, ofFixed_eq]

theorem read_fraction (hfs : Digits fs) (hne : fs ≠ []) :
    read? (String.ofList ('.' :: fs)) = some (ofFixed [] (values fs)) := by
  have hread := read_point digits_nil hfs (.inr hne)
  rwa [List.nil_append, values_nil] at hread

end Decimal

namespace Duration

open Decimal (Digits values)

variable {s cs ds rest more : List Char} {x factor : Float} {word : List Char}

/-! ## Numbers -/

/-- **The numbers of durations**: digits with an optional point and optional further digits, or a point and digits. -/
inductive Numeral : List Char → Prop where
  | whole {ds : List Char} (digits : Digits ds) (nonempty : ds ≠ []) : Numeral ds
  | point {ds fs : List Char} (digits : Digits ds) (nonempty : ds ≠ []) (further : Digits fs) : Numeral (ds ++ '.' :: fs)
  | fraction {fs : List Char} (digits : Digits fs) (nonempty : fs ≠ []) : Numeral ('.' :: fs)

/-- What cannot go on with a number: the first character is no digit and no point. -/
def Stops (rest : List Char) : Prop :=
  ∀ c ∈ rest.head?, Text.isDigit c = false ∧ c ≠ '.'

theorem digits_append (hds : Digits ds) (hrest : ∀ c ∈ rest.head?, Text.isDigit c = false) :
    digits (ds ++ rest) = (values ds, rest) := by
  have hnone : rest.takeWhile Text.isDigit = [] ∧ rest.dropWhile Text.isDigit = rest := by
    cases rest with
    | nil => exact ⟨rfl, rfl⟩
    | cons c rest =>
        have hc : ¬ Text.isDigit c = true := by simp [hrest c rfl]
        exact ⟨List.takeWhile_cons_of_neg hc, List.dropWhile_cons_of_neg hc⟩
  unfold digits
  rw [List.takeWhile_append_of_pos hds, List.dropWhile_append_of_pos hds, hnone.1, hnone.2, List.append_nil]
  rfl

/-- Every text starts with some digits, and goes on with something that starts with no digit. -/
theorem exists_digits (s : List Char) :
    ∃ ds rest, s = ds ++ rest ∧ Digits ds ∧ (∀ c ∈ rest.head?, Text.isDigit c = false) := by
  refine ⟨s.takeWhile Text.isDigit, s.dropWhile Text.isDigit, List.takeWhile_append_dropWhile.symm,
    fun c hc => List.mem_takeWhile_imp hc, ?_⟩
  intro c hc
  have hhead := List.head?_dropWhile_not Text.isDigit s
  rw [Option.mem_def] at hc
  rw [hc] at hhead
  simpa using hhead

/-- **A number is read whole**, and as what it is on its own. -/
theorem number_read (h : Numeral cs) (hrest : Stops rest) :
    ∃ x, Decimal.read? (String.ofList cs) = some x ∧ number? (cs ++ rest) = some (x, rest) := by
  have hstop : ∀ c ∈ rest.head?, Text.isDigit c = false := fun c hc => (hrest c hc).1
  have hpoint : Text.isDigit '.' = false := by decide
  cases h with
  | whole hds hne =>
      refine ⟨_, Decimal.read_whole hds hne, ?_⟩
      obtain ⟨d, vs, hvalues⟩ := List.exists_cons_of_ne_nil (Decimal.values_ne_nil hds hne)
      unfold number?
      rw [digits_append hds hstop, hvalues]
      cases rest with
      | nil => rfl
      | cons c rest =>
          have hc := (hrest c rfl).2
          simp [hc]
  | @point ds fs hds hne hfs =>
      refine ⟨_, Decimal.read_point hds hfs (.inl hne), ?_⟩
      obtain ⟨d, vs, hvalues⟩ := List.exists_cons_of_ne_nil (Decimal.values_ne_nil hds hne)
      unfold number?
      rw [List.append_assoc, List.cons_append, digits_append hds (by simp [hpoint]), hvalues]
      simp [digits_append hfs hstop]
  | @fraction fs hfs hne =>
      refine ⟨_, Decimal.read_fraction hfs hne, ?_⟩
      obtain ⟨d, vs, hvalues⟩ := List.exists_cons_of_ne_nil (Decimal.values_ne_nil hfs hne)
      have hnone : digits ('.' :: (fs ++ rest)) = ([], '.' :: (fs ++ rest)) :=
        digits_append Decimal.digits_nil (by simp [hpoint])
      unfold number?
      rw [List.cons_append, hnone]
      simp only [digits_append hfs hstop, hvalues]

/-- **What is read as a number** is one, and what is left over stands behind it. -/
theorem number_sound (h : number? s = some (x, rest)) :
    ∃ cs, Numeral cs ∧ s = cs ++ rest ∧ Decimal.read? (String.ofList cs) = some x := by
  obtain ⟨ds, more, rfl, hds, hmore⟩ := exists_digits s
  unfold number? at h
  rw [digits_append hds hmore] at h
  by_cases hne : ds = []
  · subst hne
    rw [Decimal.values_nil] at h
    -- without a digit there has to be a point, and a digit behind it
    cases more with
    | nil => cases h
    | cons c after =>
        by_cases hpoint : c = '.'
        · subst hpoint
          obtain ⟨fs, after, rfl, hfs, hafter⟩ := exists_digits after
          simp only [digits_append hfs hafter] at h
          by_cases hnone : fs = []
          · simp [hnone, Decimal.values_nil] at h
          · obtain ⟨d, vs, hvalues⟩ := List.exists_cons_of_ne_nil (Decimal.values_ne_nil hfs hnone)
            rw [hvalues] at h
            obtain ⟨rfl, rfl⟩ := Prod.mk.inj (Option.some.inj h)
            rw [← hvalues]
            exact ⟨_, .fraction hfs hnone, rfl, Decimal.read_fraction hfs hnone⟩
        · simp [hpoint] at h
  · obtain ⟨d, vs, hvalues⟩ := List.exists_cons_of_ne_nil (Decimal.values_ne_nil hds hne)
    rw [hvalues] at h
    cases more with
    | nil =>
        obtain ⟨rfl, rfl⟩ := Prod.mk.inj (Option.some.inj h)
        rw [← hvalues]
        exact ⟨_, .whole hds hne, rfl, Decimal.read_whole hds hne⟩
    | cons c after =>
        by_cases hpoint : c = '.'
        · subst hpoint
          obtain ⟨fs, after, rfl, hfs, hafter⟩ := exists_digits after
          simp only [digits_append hfs hafter] at h
          obtain ⟨rfl, rfl⟩ := Prod.mk.inj (Option.some.inj h)
          rw [← hvalues]
          exact ⟨_, .point hds hne hfs, by simp, Decimal.read_point hds hfs (.inl hne)⟩
        · simp [hpoint] at h
          obtain ⟨rfl, rfl⟩ := h
          rw [← hvalues]
          exact ⟨_, .whole hds hne, rfl, Decimal.read_whole hds hne⟩

/-- A number can be read on its own. -/
theorem Numeral.reads (h : Numeral cs) : (Decimal.read? (String.ofList cs)).isSome = true := by
  have hstops : Stops [] := by simp [Stops]
  obtain ⟨x, hread, -⟩ := number_read h hstops
  rw [hread]
  rfl

theorem Numeral.begins (h : Numeral cs) : ∃ c tail, cs = c :: tail ∧ (Text.isDigit c = true ∨ c = '.') := by
  cases h with
  | whole hds hne =>
      obtain ⟨c, tail, rfl⟩ := List.exists_cons_of_ne_nil hne
      exact ⟨c, tail, rfl, .inl (hds c List.mem_cons_self)⟩
  | @point ds fs hds hne _ =>
      obtain ⟨c, tail, rfl⟩ := List.exists_cons_of_ne_nil hne
      exact ⟨c, tail ++ '.' :: fs, rfl, .inl (hds c List.mem_cons_self)⟩
  | fraction _ _ => exact ⟨_, _, rfl, .inr rfl⟩

/-! ## Units -/

/-- What a part may be followed by: nothing, or what starts a number. -/
def Begins (rest : List Char) : Prop :=
  ∀ c ∈ rest.head?, Text.isDigit c = true ∨ c = '.'

/-- **A unit is read whole**: what starts a number cannot go on with it to a longer unit. -/
theorem unit_read (h : (word, factor) ∈ units) (hrest : Begins rest) : unit? (word ++ rest) = some (factor, rest) := by
  simp only [units, List.mem_cons, Prod.mk.injEq, List.not_mem_nil, or_false] at h
  cases rest with
  | nil =>
      rcases h with ⟨rfl, rfl⟩ | ⟨rfl, rfl⟩ | ⟨rfl, rfl⟩ | ⟨rfl, rfl⟩ | ⟨rfl, rfl⟩ | ⟨rfl, rfl⟩ | ⟨rfl, rfl⟩ <;> rfl
  | cons c rest =>
      -- minutes are the one unit that starts another
      have hc : ¬ 's' = c := by
        rintro rfl
        exact absurd (hrest 's' rfl) (by decide)
      rcases h with ⟨rfl, rfl⟩ | ⟨rfl, rfl⟩ | ⟨rfl, rfl⟩ | ⟨rfl, rfl⟩ | ⟨rfl, rfl⟩ | ⟨rfl, rfl⟩ | ⟨rfl, rfl⟩ <;>
        simp [unit?, units, afterWord?, hc]

theorem afterWord_sound (h : afterWord? word s = some rest) : s = word ++ rest := by
  induction word generalizing s with
  | nil => exact Option.some.inj h
  | cons w word ih =>
      cases s with
      | nil => cases h
      | cons c s =>
          rw [afterWord?] at h
          split at h
          · next hc => rw [ih h, hc]; rfl
          · cases h

theorem unit_sound (h : unit? s = some (factor, rest)) : ∃ word, (word, factor) ∈ units ∧ s = word ++ rest := by
  obtain ⟨entry, hmem, hentry⟩ := List.exists_of_findSome?_eq_some h
  obtain ⟨after, hafter, heq⟩ := Option.map_eq_some_iff.mp hentry
  obtain ⟨rfl, rfl⟩ := Prod.mk.inj heq
  exact ⟨entry.1, hmem, afterWord_sound hafter⟩

theorem unit_stops (h : (word, factor) ∈ units) (rest : List Char) : Stops (word ++ rest) := by
  have hall : ∀ word ∈ units.map Prod.fst, word.head?.any (fun c => !Text.isDigit c && c != '.') = true := by decide
  have hstart := hall word (List.mem_map_of_mem h)
  cases word with
  | nil => cases hstart
  | cons c tail =>
      intro d hd
      obtain rfl := Option.some.inj hd
      simpa using hstart

/-! ## Parts -/

/-- **A part of a duration**: a number and the unit behind it. -/
structure Part where
  number : List Char
  numeral : Numeral number
  unit : List Char
  factor : Float
  known : (unit, factor) ∈ units

namespace Part

/-- The text of a part. -/
def text (p : Part) : List Char :=
  p.number ++ p.unit

/-- The double that the number of a part is read as on its own. -/
def value (p : Part) : Float :=
  (Decimal.read? (String.ofList p.number)).get p.numeral.reads

/-- The seconds of a part. -/
def seconds (p : Part) : Float :=
  p.value * p.factor

end Part

variable {p q : Part} {parts others : List Part}

theorem part_read (p : Part) (h : Begins rest) : part? (p.text ++ rest) = some (p.seconds, rest) := by
  obtain ⟨x, hread, hnumber⟩ := number_read p.numeral (unit_stops p.known rest)
  have hvalue : p.value = x := by
    unfold Part.value
    simp only [hread, Option.get_some]
  unfold part? Part.text Part.seconds
  rw [List.append_assoc, hnumber, hvalue]
  simp only [Option.bind_eq_bind, Option.bind_some, unit_read p.known h]
  rfl

theorem part_sound (h : part? s = some (x, rest)) : ∃ p : Part, s = p.text ++ rest ∧ x = p.seconds := by
  unfold part? at h
  obtain ⟨⟨n, after⟩, hnumber, h⟩ := Option.bind_eq_some_iff.mp h
  obtain ⟨⟨factor, last⟩, hunit, h⟩ := Option.bind_eq_some_iff.mp h
  obtain ⟨rfl, rfl⟩ := Prod.mk.inj (Option.some.inj h)
  obtain ⟨number, hnumeral, rfl, hread⟩ := number_sound hnumber
  obtain ⟨unit, hknown, rfl⟩ := unit_sound hunit
  refine ⟨⟨number, hnumeral, unit, factor, hknown⟩, (List.append_assoc _ _ _).symm, ?_⟩
  unfold Part.seconds Part.value
  simp only [hread, Option.get_some]

/-- **A text starts with one part at most**, if what follows the part can be another. -/
theorem part_unique (h : p.text ++ rest = q.text ++ more) (hrest : Begins rest) (hmore : Begins more) :
    p = q ∧ rest = more := by
  unfold Part.text at h
  rw [List.append_assoc, List.append_assoc] at h
  -- the number ends where the reader of numbers stops, and the unit where the reader of units does
  obtain ⟨x, -, hnumber⟩ := number_read p.numeral (unit_stops p.known rest)
  obtain ⟨y, -, hnumber'⟩ := number_read q.numeral (unit_stops q.known more)
  rw [h, hnumber'] at hnumber
  obtain ⟨-, hunits⟩ := Prod.mk.inj (Option.some.inj hnumber)
  have hunit := unit_read p.known hrest
  rw [← hunits, unit_read q.known hmore] at hunit
  obtain ⟨hfactor, hafter⟩ := Prod.mk.inj (Option.some.inj hunit)
  rw [hunits] at h
  have hsame := List.append_cancel_right h
  rw [hafter] at hunits
  have hword := List.append_cancel_right hunits
  cases p
  cases q
  simp only at hfactor hsame hword
  subst hfactor hsame hword
  exact ⟨rfl, hafter.symm⟩

/-! ## Whole texts -/

/-- A text is cut into parts, of which there is at least one. -/
structure Spelled (s : String) (parts : List Part) : Prop where
  text : s.toList = parts.flatMap Part.text
  nonempty : parts ≠ []

/-- The sum of some parts from the left. -/
def totalFrom (start : Float) (parts : List Part) : Float :=
  parts.foldl (fun sum p => sum + p.seconds) start

theorem text_begins (p : Part) (rest : List Char) : Begins (p.text ++ rest) ∧ p.text ≠ [] := by
  obtain ⟨c, tail, hcons, hc⟩ := p.numeral.begins
  unfold Part.text
  rw [hcons]
  refine ⟨?_, by simp⟩
  intro d hd
  obtain rfl := Option.some.inj hd
  exact hc

theorem parts_begin (parts : List Part) : Begins (parts.flatMap Part.text) := by
  cases parts with
  | nil => simp [Begins]
  | cons p parts => exact (text_begins p _).1

theorem length_le_text (parts : List Part) : parts.length ≤ (parts.flatMap Part.text).length := by
  induction parts with
  | nil => exact Nat.le_refl 0
  | cons p parts ih =>
      have hpos := List.length_pos_iff.mpr (text_begins p []).2
      rw [List.flatMap_cons, List.length_append, List.length_cons]
      omega

/-- **Parts in a row are summed from the left.** -/
theorem sumFrom_read {n : Nat} (h : parts.length ≤ n) (start : Float) :
    sumFrom? n start (parts.flatMap Part.text) = some (totalFrom start parts) := by
  induction parts generalizing n start with
  | nil => cases n <;> rfl
  | cons p parts ih =>
      obtain ⟨n, rfl⟩ := Nat.exists_eq_add_of_le' (Nat.lt_of_lt_of_le (Nat.succ_pos _) h)
      obtain ⟨c, tail, htext⟩ := List.exists_cons_of_ne_nil (text_begins p []).2
      have hcons : (p :: parts).flatMap Part.text = c :: (tail ++ parts.flatMap Part.text) := by
        rw [List.flatMap_cons, htext, List.cons_append]
      have hpart : part? (c :: (tail ++ parts.flatMap Part.text)) = some (p.seconds, parts.flatMap Part.text) := by
        rw [← hcons]
        exact part_read p (parts_begin parts)
      rw [hcons, sumFrom?]
      · simp only [hpart, Option.bind_eq_bind, Option.bind_some]
        exact ih (Nat.le_of_succ_le_succ h) _
      · simp

/-- **What is summed** is cut into parts. -/
theorem sumFrom_sound {n : Nat} {start : Float} (h : sumFrom? n start s = some x) :
    ∃ parts, s = parts.flatMap Part.text ∧ x = totalFrom start parts := by
  induction n generalizing start s with
  | zero =>
      cases s with
      | nil => exact ⟨[], rfl, (Option.some.inj h).symm⟩
      | cons c s => cases h
  | succ n ih =>
      cases s with
      | nil => exact ⟨[], rfl, (Option.some.inj h).symm⟩
      | cons c s =>
          rw [sumFrom?] at h
          · obtain ⟨⟨seconds, rest⟩, hpart, h⟩ := Option.bind_eq_some_iff.mp h
            obtain ⟨p, hp, rfl⟩ := part_sound hpart
            obtain ⟨parts, rfl, rfl⟩ := ih h
            exact ⟨p :: parts, hp, rfl⟩
          · simp

theorem parts_unique (h : parts.flatMap Part.text = others.flatMap Part.text) : parts = others := by
  induction parts generalizing others with
  | nil =>
      cases others with
      | nil => rfl
      | cons q others =>
          rw [List.flatMap_cons] at h
          exact absurd (List.append_eq_nil_iff.mp h.symm).1 (text_begins q []).2
  | cons p parts ih =>
      cases others with
      | nil =>
          rw [List.flatMap_cons] at h
          exact absurd (List.append_eq_nil_iff.mp h).1 (text_begins p []).2
      | cons q others =>
          obtain ⟨rfl, hrest⟩ := part_unique h (parts_begin parts) (parts_begin others)
          rw [ih hrest]

theorem parse_some_iff {s : String} : parse? s = some x ↔ ∃ parts, Spelled s parts ∧ x = totalFrom 0.0 parts := by
  unfold parse?
  by_cases hempty : s = ""
  · rw [if_pos hempty]
    constructor
    · intro h
      cases h
    · rintro ⟨parts, ⟨htext, hne⟩, -⟩
      obtain ⟨p, parts, rfl⟩ := List.exists_cons_of_ne_nil hne
      rw [hempty] at htext
      exact absurd (List.append_eq_nil_iff.mp htext.symm).1 (text_begins p []).2
  · rw [if_neg hempty]
    constructor
    · intro h
      obtain ⟨parts, htext, hx⟩ := sumFrom_sound h
      refine ⟨parts, ⟨htext, ?_⟩, hx⟩
      rintro rfl
      exact hempty (String.toList_eq_nil_iff.mp htext)
    · rintro ⟨parts, ⟨htext, -⟩, rfl⟩
      have hlength : parts.length ≤ s.length := by
        rw [← String.length_toList, htext]
        exact length_le_text parts
      rw [htext]
      exact sumFrom_read hlength 0.0

/-- **A text is a duration exactly when it is cut into parts**, at least one: then it is cut in one way only, and it
stands for the sum of its parts from the left, from zero on. Any other text is refused. -/
theorem duration_read (s : String) :
    (∀ x, parse? s = some x ↔ ∃ parts, Spelled s parts ∧ x = totalFrom 0.0 parts) ∧
      (parse? s = none ↔ ¬ ∃ parts, Spelled s parts) ∧
      ∀ parts others, Spelled s parts → Spelled s others → parts = others := by
  refine ⟨fun x => parse_some_iff, ?_, fun parts others h h' => parts_unique (h.text.symm.trans h'.text)⟩
  constructor
  · rintro hnone ⟨parts, hspelled⟩
    rw [parse_some_iff.mpr ⟨parts, hspelled, rfl⟩] at hnone
    cases hnone
  · intro hno
    cases hparse : parse? s with
    | none => rfl
    | some x =>
        obtain ⟨parts, hspelled, -⟩ := parse_some_iff.mp hparse
        exact absurd ⟨parts, hspelled⟩ hno

end Duration

end PadScribe
