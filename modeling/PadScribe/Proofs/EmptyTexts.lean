import PadScribe.Proofs.KeyNames
import PadScribe.Proofs.Recasing
import PadScribe.Studio.Queue

/-!
# `Proofs.EmptyTexts` — when typed words make no text

Words may be typed and still make no text. Without camel and snake case this depends on the words alone: they are all
empty, and no space is put between two of them. Camel and snake case drop the separators between the parts of words,
so that the words make no text exactly when they hold nothing but separators, whatever the other styles are. This is so
because no style turns a separator into another character, and none turns all that stands between separators into
separators, in either letter case and in every script.

It follows that empty words among the others do not matter to whether a text is made, and that styles in front of the
others do not make a text of nothing.

## Contents

* `separatorCodes`, `upperChar_inside`, `lowerFrom_inside` — separators and letter case
* `Sounds`, `sounds_apply`, `silent_apply` — words that hold more than separators, in a style
* `CaseStyle.splits`, `blank_apply` — the styles that cut words, and the others
* `typedText_plain`, `typedText_empty_iff` — when words make no text
* `typedText_stays_empty` — without empty words, in more styles
-/

namespace PadScribe

/-! ## Separators and letter case -/

namespace CaseStyle

open Text (upperChar lowerChar lowerFrom mapLetter chunks)

/-- The code points of the separators. -/
def separatorCodes : List Nat :=
  Text.blanks ++ [0x5F, 0x2D, 0x2E]

theorem isSeparator_iff {c : Char} : isSeparator c = true ↔ c.toNat ∈ separatorCodes := by
  have hcode : ∀ d : Char, c = d ↔ c.toNat = d.toNat := fun d => ⟨congrArg _, fun h => Char.toNat_inj.mp h⟩
  simp [isSeparator, separatorCodes, Text.isBlank, hcode, or_assoc]

/-- Runs and expansions that map nothing to separators alone. -/
structure Inside (runs : List Text.Run) (expansions : List (Nat × List Nat)) : Prop where
  runs : ∀ r ∈ runs, ∀ b ∈ separatorCodes, (b : Int) < r.first + r.shift ∨ r.last + r.shift < b
  expansions : ∀ e ∈ expansions, (e.2.map Char.ofNat).any fun c => !isSeparator c

theorem upper_tables : Inside Text.upperRuns Text.upperExpansions where
  runs := by decide +kernel
  expansions := by decide +kernel

theorem lower_tables : Inside Text.lowerRuns Text.lowerExpansions where
  runs := by decide +kernel
  expansions := by decide +kernel

/-- A letter that is no separator is not mapped to separators alone. -/
theorem mapLetter_inside {runs : List Text.Run} {expansions : List (Nat × List Nat)} (h : Inside runs expansions)
    {c : Char} (hc : isSeparator c = false) : ∃ d ∈ mapLetter runs expansions c, isSeparator d = false := by
  unfold mapLetter
  cases hlookup : expansions.lookup c.toNat with
  | some cs =>
      obtain ⟨before, after, hsplit, -⟩ := List.lookup_eq_some_iff.mp hlookup
      have hany := h.expansions (c.toNat, cs) (hsplit ▸ List.mem_append_right _ List.mem_cons_self)
      obtain ⟨d, hd, hinside⟩ := List.any_eq_true.mp hany
      exact ⟨d, hd, by simpa using hinside⟩
  | none =>
      refine ⟨_, List.mem_singleton_self _, ?_⟩
      cases hrun : runs.findSome? (·.target? c.toNat) with
      | none => exact hc
      | some n =>
          obtain ⟨r, hr, htarget⟩ := List.exists_of_findSome?_eq_some hrun
          unfold Text.Run.target? at htarget
          split at htarget
          · next hin =>
              simp only [Bool.and_eq_true, decide_eq_true_eq] at hin
              obtain rfl := Option.some.inj htarget
              rw [Bool.eq_false_iff, Option.map_some, Option.getD_some, Ne, isSeparator_iff, Char.toNat_ofNat]
              intro hsep
              split at hsep
              · have hoff := h.runs r hr _ hsep
                have hpos : 0 < ((c.toNat : Int) + r.shift).toNat :=
                  Nat.pos_of_ne_zero fun hzero => absurd (hzero ▸ hsep) (by decide)
                omega
              · exact absurd hsep (by decide)
          · cases htarget

/-- **Upper case keeps more than separators** of what is more. -/
theorem upperChar_inside {c : Char} (hc : isSeparator c = false) : ∃ d ∈ upperChar c, isSeparator d = false := by
  unfold upperChar
  split
  · next hplain => exact ⟨_, List.mem_singleton_self _, (Inner.toUpper ⟨hplain, hc⟩).inside⟩
  · exact mapLetter_inside upper_tables hc

/-- **Upper case keeps separators.** -/
theorem upperChar_separator {c : Char} (hc : isSeparator c = true) : upperChar c = [c] := by
  have hall : ∀ b ∈ separatorCodes, upperChar (Char.ofNat b) = [Char.ofNat b] := by decide +kernel
  have hsame := hall c.toNat (isSeparator_iff.mp hc)
  rwa [Char.ofNat_toNat] at hsame

theorem upperChar_ne_nil (c : Char) : upperChar c ≠ [] := by
  cases hc : isSeparator c with
  | true => simp [upperChar_separator hc]
  | false =>
      obtain ⟨d, hd, -⟩ := upperChar_inside hc
      exact List.ne_nil_of_mem hd

/-- **Lower case keeps more than separators** of what is more, whatever stands around it. -/
theorem lowerFrom_inside {s : List Char} {c : Char} (hmem : c ∈ s) (hc : isSeparator c = false)
    (before : List Char) : ∃ d ∈ lowerFrom before s, isSeparator d = false := by
  obtain ⟨lead, rest, rfl⟩ := List.append_of_mem hmem
  obtain ⟨low, hlow⟩ := Text.lowerFrom_append before lead (c :: rest)
  rw [hlow, lowerFrom]
  have hletter : ∃ d ∈ lowerChar c, isSeparator d = false := by
    unfold lowerChar
    split
    · next hplain => exact ⟨_, List.mem_singleton_self _, (Inner.toLower ⟨hplain, hc⟩).inside⟩
    · exact mapLetter_inside lower_tables hc
  split
  · refine ⟨_, List.mem_append_right _ (List.mem_append_left _ (List.mem_singleton_self _)), ?_⟩
    split <;> decide
  · obtain ⟨d, hd, hinside⟩ := hletter
    exact ⟨d, List.mem_append_right _ (List.mem_append_left _ hd), hinside⟩

/-! ## Words in a style -/

variable {words : List String} {w : String}

/-- **Words hold more than separators.** -/
def Sounds (words : List String) : Prop :=
  ∃ w ∈ words, ∃ c ∈ w.toList, isSeparator c = false

/-- **The parts of words** are those of each. -/
theorem parts_eq (words : List String) :
    parts words = (words.flatMap fun w => chunks isSeparator w.toList).flatMap humps := by
  unfold parts
  rw [String.toList_intercalate]
  show (chunks isSeparator ([' '].intercalate _)).flatMap humps = _
  rw [Text.chunks_joined (by decide), List.flatMap_map]

/-- Words hold more than separators exactly when they have parts. -/
theorem sounds_iff : Sounds words ↔ parts words ≠ [] := by
  constructor
  · rintro ⟨w, hw, c, hc, hinside⟩ hnone
    obtain ⟨p, hp, hmem⟩ := Text.exists_chunk hc hinside
    rw [parts_eq, List.flatMap_eq_nil_iff] at hnone
    have hhumps := hnone p (List.mem_flatMap.mpr ⟨w, hw, hp⟩)
    rw [humps_eq_splitBy, List.splitBy_eq_nil] at hhumps
    rw [hhumps] at hmem
    cases hmem
  · intro hne
    obtain ⟨p, hp⟩ := List.exists_mem_of_ne_nil _ hne
    obtain ⟨hpne, hinner⟩ := mem_parts hp
    obtain ⟨c, hc⟩ := List.exists_mem_of_ne_nil _ hpne
    obtain ⟨hinside, w, hw, hmem⟩ := hinner c hc
    exact ⟨w, hw, c, hmem, hinside⟩

/-- A text with its first character in upper case keeps more than separators of what is more. -/
theorem upperFirst_inside {p : List Char} {c : Char} (hmem : c ∈ p) (hc : isSeparator c = false) :
    ∃ d ∈ upperFirst p, isSeparator d = false := by
  cases p with
  | nil => cases hmem
  | cons e rest =>
      rcases List.mem_cons.mp hmem with rfl | hmem
      · obtain ⟨d, hd, hinside⟩ := upperChar_inside hc
        exact ⟨d, List.mem_append_left _ hd, hinside⟩
      · exact ⟨c, List.mem_append_right _ hmem, hc⟩

/-- **No style silences words** that hold more than separators. -/
theorem sounds_apply (style : CaseStyle) (h : Sounds words) : Sounds (style.apply words) := by
  cases style with
  | camel =>
      show Sounds (toCamel words)
      unfold toCamel
      split
      next hnone => exact absurd hnone (sounds_iff.mp h)
      next p ps hsome =>
        have hp : p ∈ parts words := hsome ▸ List.mem_cons_self
        obtain ⟨hne, hinner⟩ := mem_parts hp
        obtain ⟨c, rest, rfl⟩ := List.exists_cons_of_ne_nil hne
        obtain ⟨d, hd, hinside⟩ := lowerFrom_inside (List.mem_singleton_self c) (hinner c List.mem_cons_self).1 []
        refine ⟨_, List.mem_singleton_self _, d, ?_, hinside⟩
        simp [lowerFirst, Text.lower, hd]
  | snake =>
      obtain ⟨p, hp⟩ := List.exists_mem_of_ne_nil _ (sounds_iff.mp h)
      obtain ⟨hne, hinner⟩ := mem_parts hp
      obtain ⟨c, hc⟩ := List.exists_mem_of_ne_nil _ hne
      obtain ⟨d, hd, hinside⟩ := lowerFrom_inside hc (hinner c hc).1 []
      refine ⟨_, List.mem_singleton_self _, d, ?_, hinside⟩
      rw [String.toList_intercalate]
      have hlow : d ∈ (Text.lower (String.ofList p)).toList := by simpa [Text.lower] using hd
      exact Text.mem_intercalate_of_mem (List.mem_map_of_mem (List.mem_map_of_mem hp)) hlow
  | upper =>
      obtain ⟨w, hw, c, hc, hinside⟩ := h
      obtain ⟨d, hd, hout⟩ := upperChar_inside hinside
      refine ⟨Text.upper w, List.mem_map_of_mem hw, d, ?_, hout⟩
      rw [Text.upper, String.toList_ofList]
      exact List.mem_flatMap.mpr ⟨c, hc, hd⟩
  | title =>
      obtain ⟨w, hw, c, hc, hinside⟩ := h
      cases words with
      | nil => cases hw
      | cons first rest =>
          rcases List.mem_cons.mp hw with rfl | hw
          · have hspace : decide (c = ' ') = false := by
              rw [decide_eq_false_iff_not]
              rintro rfl
              exact absurd hinside (by decide)
            have hpiece : ∃ p ∈ Text.pieces (· = ' ') w.toList, c ∈ p := Text.exists_piece hc hspace
            obtain ⟨p, hp, hmem⟩ := hpiece
            obtain ⟨d, hd, hout⟩ := upperFirst_inside hmem hinside
            refine ⟨_, List.mem_cons_self, d, ?_, hout⟩
            rw [String.toList_intercalate]
            refine Text.mem_intercalate_of_mem (List.mem_map_of_mem (List.mem_map_of_mem hp)) ?_
            rwa [String.toList_ofList]
          · exact ⟨w, List.mem_cons_of_mem _ hw, c, hc, hinside⟩

/-- **The styles that cut words** into parts. -/
def splits : CaseStyle → Bool
  | camel => true
  | snake => true
  | upper => false
  | title => false

/-- A style that cuts words leaves nothing of words without parts. -/
theorem split_silent {style : CaseStyle} (hs : style.splits = true) (h : ¬ Sounds words) :
    style.apply words = [""] := by
  have hnone : parts words = [] := by
    by_contra hsome
    exact h (sounds_iff.mpr hsome)
  cases style with
  | camel => simp [apply, toCamel, hnone]
  | snake => simp [apply, toSnake, hnone]
  | _ => cases hs

/-- What upper case makes of a text holds more than separators only where the text does. -/
theorem inside_upperChar {c d : Char} (hd : d ∈ upperChar c) (hinside : isSeparator d = false) :
    isSeparator c = false := by
  rw [Bool.eq_false_iff]
  intro hc
  rw [upperChar_separator hc, List.mem_singleton] at hd
  rw [hd, hc] at hinside
  cases hinside

/-- The first word of a title holds more than separators only where it did before. -/
theorem inside_titled {d : Char} (hinside : isSeparator d = false)
    (hd : d ∈ (String.intercalate " "
      ((Text.pieces (· = ' ') w.toList).map fun p => String.ofList (upperFirst p))).toList) :
    ∃ c ∈ w.toList, isSeparator c = false := by
  rw [String.toList_intercalate, List.map_map] at hd
  rcases Text.mem_intercalate hd with rfl | ⟨q, hq, hmem⟩
  · exact absurd hinside (by decide)
  · obtain ⟨p, hp, rfl⟩ := List.mem_map.mp hq
    rw [Function.comp_apply, String.toList_ofList] at hmem
    have hin : ∀ c ∈ p, c ∈ w.toList := fun c hc => (Text.mem_pieces hp hc).2
    cases p with
    | nil => cases hmem
    | cons c rest =>
        rcases List.mem_append.mp hmem with hmem | hmem
        · exact ⟨c, hin c List.mem_cons_self, inside_upperChar hmem hinside⟩
        · exact ⟨d, hin d (List.mem_cons_of_mem c hmem), hinside⟩

/-- A style that does not cut words makes no words hold more than separators. -/
theorem sounds_of_apply {style : CaseStyle} (hs : style.splits = false) (h : Sounds (style.apply words)) :
    Sounds words := by
  obtain ⟨w, hw, d, hd, hinside⟩ := h
  cases style with
  | upper =>
      obtain ⟨u, hu, rfl⟩ := List.mem_map.mp hw
      rw [Text.upper, String.toList_ofList] at hd
      obtain ⟨c, hc, hmem⟩ := List.mem_flatMap.mp hd
      exact ⟨u, hu, c, hc, inside_upperChar hmem hinside⟩
  | title =>
      cases words with
      | nil => cases hw
      | cons first rest =>
          rcases List.mem_cons.mp hw with rfl | hw
          · exact ⟨first, List.mem_cons_self, inside_titled hinside hd⟩
          · exact ⟨w, List.mem_cons_of_mem first hw, d, hd, hinside⟩
  | _ => cases hs

/-- **Words without text**: all of them are empty. -/
def Blank (words : List String) : Prop :=
  ∀ w ∈ words, w = ""

theorem upper_eq_empty : Text.upper w = "" ↔ w = "" := by
  constructor
  · intro h
    rw [Text.upper, ← String.toList_eq_nil_iff, String.toList_ofList, List.flatMap_eq_nil_iff] at h
    rw [← String.toList_eq_nil_iff, List.eq_nil_iff_forall_not_mem]
    exact fun c hc => upperChar_ne_nil c (h c hc)
  · rintro rfl
    rfl

/-- The first word of a title is empty only if it was empty before. -/
theorem titled_eq_empty : String.intercalate " "
    ((Text.pieces (· = ' ') w.toList).map fun p => String.ofList (upperFirst p)) = "" ↔ w = "" := by
  rw [← String.toList_eq_nil_iff, ← String.toList_eq_nil_iff, String.toList_intercalate, List.map_map]
  cases w.toList with
  | nil => simp [Text.pieces, upperFirst]
  | cons c rest =>
      refine iff_of_false ?_ (by simp)
      rw [Text.pieces]
      split
      · -- a space at the start stays between two pieces
        obtain ⟨q, qs, hsome⟩ : ∃ q qs, Text.pieces (· = ' ') rest = q :: qs := by
          rw [Text.pieces_eq_splitOnP]
          exact List.exists_cons_of_ne_nil (List.splitOnP_ne_nil _ rest)
        rw [hsome, List.map_cons, List.map_cons, List.intercalate_cons_cons]
        simp
      · have hfirst : ∀ p : List Char, upperFirst (c :: p) ≠ [] := fun p => by simp [upperFirst, upperChar_ne_nil]
        split
        · simpa using hfirst []
        next p ps _ =>
          obtain ⟨d, hd⟩ := List.exists_mem_of_ne_nil _ (hfirst p)
          refine List.ne_nil_of_mem (Text.mem_intercalate_of_mem List.mem_cons_self (c := d) ?_)
          rwa [Function.comp_apply, String.toList_ofList]

/-- A style that does not cut words keeps their number, and empty words and others as they are. -/
theorem blank_apply {style : CaseStyle} (hs : style.splits = false) (words : List String) :
    (style.apply words).length = words.length ∧ (Blank (style.apply words) ↔ Blank words) := by
  cases style with
  | upper =>
      refine ⟨List.length_map _, ?_⟩
      simp [Blank, apply, toUpper, upper_eq_empty]
  | title =>
      cases words with
      | nil => exact ⟨rfl, Iff.rfl⟩
      | cons first rest =>
          refine ⟨rfl, ?_⟩
          simp only [Blank, apply, toTitle, List.forall_mem_cons, titled_eq_empty]
  | _ => cases hs

end CaseStyle

/-! ## Words that make no text -/

open CaseStyle

variable {words : List String} {styles : List CaseStyle} {joined : Bool}

/-- **Words as they are make no text** when all of them are empty and no space comes between two of them. -/
theorem typedText_plain :
    typedText [] words joined = "" ↔ Blank words ∧ (joined = true ∨ words.length ≤ 1) := by
  unfold typedText
  rw [List.foldl_nil, ← String.toList_eq_nil_iff, String.toList_intercalate, Text.intercalate_eq_nil]
  have hbetween : (if joined then "" else " ").toList = [] ↔ joined = true := by cases joined <;> decide
  simp [Blank, hbetween]

/-- Words that hold more than separators are not all empty. -/
theorem not_blank_of_sounds (h : Sounds words) : ¬ Blank words := by
  obtain ⟨w, hw, c, hc, -⟩ := h
  intro hblank
  rw [hblank w hw] at hc
  cases hc

/-- **When words make no text**: with a style that cuts words, exactly when they hold nothing but separators, and with
none, exactly when they make none as they are. -/
theorem typedText_empty_iff (styles : List CaseStyle) (words : List String) (joined : Bool) :
    typedText styles words joined = "" ↔
      if styles.any splits then ¬ Sounds words else typedText [] words joined = "" := by
  induction styles generalizing words with
  | nil => rfl
  | cons style styles ih =>
      have happly : typedText (style :: styles) words joined = typedText styles (style.apply words) joined := rfl
      rw [happly, ih, List.any_cons]
      cases hs : style.splits with
      | true =>
          rw [Bool.true_or, if_pos rfl]
          by_cases h : Sounds words
          · have hlater := sounds_apply style h
            refine iff_of_false ?_ (not_not_intro h)
            split
            · exact not_not_intro hlater
            · exact fun hempty => not_blank_of_sounds hlater (typedText_plain.mp hempty).1
          · refine iff_of_true ?_ h
            rw [split_silent hs h]
            split
            · simp [Sounds]
            · simp [typedText_plain, Blank]
      | false =>
          obtain ⟨hlength, hblank⟩ := blank_apply hs words
          have hsounds : Sounds (style.apply words) ↔ Sounds words := ⟨sounds_of_apply hs, sounds_apply style⟩
          rw [Bool.false_or, hsounds, typedText_plain, typedText_plain, hlength, hblank]

/-- **What makes no text makes none without its empty words**, also where more styles come first. -/
theorem typedText_stays_empty {more : List CaseStyle} (hmore : styles <:+ more)
    (h : typedText styles words joined = "") : typedText more (words.filter (· ≠ "")) joined = "" := by
  rw [typedText_empty_iff] at h ⊢
  by_cases hany : styles.any splits = true
  · have hmoreAny : more.any splits = true := by
      obtain ⟨style, hmem, hs⟩ := List.any_eq_true.mp hany
      exact List.any_eq_true.mpr ⟨style, hmore.subset hmem, hs⟩
    rw [if_pos hany] at h
    rw [if_pos hmoreAny]
    rintro ⟨w, hw, hinside⟩
    exact h ⟨w, List.mem_of_mem_filter hw, hinside⟩
  · rw [if_neg hany, typedText_plain] at h
    have hnone : words.filter (· ≠ "") = [] := by simpa [List.filter_eq_nil_iff, Blank] using h.1
    rw [hnone]
    split
    · simp [Sounds]
    · simp [typedText_plain, Blank]

end PadScribe
