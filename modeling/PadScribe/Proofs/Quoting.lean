import Mathlib.Data.List.Infix
import PadScribe.Rule.Line

/-!
# `Proofs.Quoting` — lines are read back as they were written

A row of words is written with each word in double quotes, and two sides of a line with an arrow between them.
Reading gives the words back, whatever they are made of, as long as none of them has an arrow in it: the arrow is
looked for before quotes are read.

## Contents

* `Quoted.splitFrom_quoted`, `Quoted.split_quoteAll` — quoted words, whatever stands after them
* `NoArrow`, `noArrow_quoteAll` — words without an arrow stay without one when they are quoted
* `cutAtArrows_arrow` — the arrow between two sides
* `sides_joined`, `splitRule_sides`, `splitRule_joined` — whole lines
-/

namespace PadScribe.Text

namespace Quoted

/-- A character as it is written between double quotes. -/
def escape (c : Char) : List Char :=
  if c = '"' ∨ c = '\\' then ['\\', c] else [c]

theorem quote_eq (word : String) : quote word = '"' :: (word.toList.flatMap escape ++ ['"']) := rfl

/-- Between double quotes, escaped characters are read back, up to the quote that ends them. -/
theorem splitFrom_escaped (cs word rest : List Char) :
    splitFrom .double word (cs.flatMap escape ++ '"' :: rest) = splitFrom .bare (cs.reverse ++ word) rest := by
  induction cs generalizing word with
  | nil => simp [splitFrom]
  | cons c cs ih =>
      rw [List.flatMap_cons, List.append_assoc]
      by_cases hc : c = '"' ∨ c = '\\'
      · have hesc : escape c = ['\\', c] := if_pos hc
        have hstep : splitFrom .double word (['\\', c] ++ (cs.flatMap escape ++ '"' :: rest))
            = splitFrom .double (c :: word) (cs.flatMap escape ++ '"' :: rest) := by
          simp [splitFrom, hc]
        rw [hesc, hstep, ih]
        simp
      · have hesc : escape c = [c] := if_neg hc
        have hstep : splitFrom .double word ([c] ++ (cs.flatMap escape ++ '"' :: rest))
            = splitFrom .double (c :: word) (cs.flatMap escape ++ '"' :: rest) := by
          obtain ⟨hquote, hslash⟩ := not_or.mp hc
          simp [splitFrom, hquote, hslash]
        rw [hesc, hstep, ih]
        simp

/-- A quoted word is read back, and what stands after it is read on. -/
theorem splitFrom_quote (word : String) (rest : List Char) :
    splitFrom .gap [] (quote word ++ rest) = splitFrom .bare word.toList.reverse rest := by
  rw [quote_eq, List.cons_append, List.append_assoc]
  show splitFrom .double [] (word.toList.flatMap escape ++ '"' :: rest) = _
  rw [splitFrom_escaped, List.append_nil]

/-- A quoted word before a blank is one word. -/
theorem splitFrom_quote_blank (word : String) (rest : List Char) :
    splitFrom .gap [] (quote word ++ ' ' :: rest) = (splitFrom .gap [] rest).map (word.toList :: ·) := by
  rw [splitFrom_quote]
  show (splitFrom .gap [] rest).map (word.toList.reverse.reverse :: ·) = _
  rw [List.reverse_reverse]

/-- A quoted word at the end is one word. -/
theorem splitFrom_quote_end (word : String) : splitFrom .gap [] (quote word) = .ok [word.toList] := by
  have h := splitFrom_quote word []
  rw [List.append_nil] at h
  rw [h]
  show Except.ok [word.toList.reverse.reverse] = _
  rw [List.reverse_reverse]

theorem splitFrom_quoteAll (ws : List String) :
    splitFrom .gap [] (quoteAll ws) = .ok (ws.map String.toList) := by
  induction ws with
  | nil => rfl
  | cons w ws ih =>
      cases ws with
      | nil => exact splitFrom_quote_end w
      | cons w' ws =>
          rw [quoteAll, splitFrom_quote_blank, ih]
          · rfl
          · simp

theorem splitFrom_quoteAll_blank (ws : List String) :
    splitFrom .gap [] (quoteAll ws ++ [' ']) = .ok (ws.map String.toList) := by
  induction ws with
  | nil => rfl
  | cons w ws ih =>
      cases ws with
      | nil =>
          rw [quoteAll, splitFrom_quote_blank]
          rfl
      | cons w' ws =>
          rw [quoteAll, List.append_assoc, List.cons_append, splitFrom_quote_blank, ih]
          · rfl
          · simp

/-- **Quoted words are read back.** -/
theorem split_quoteAll (ws : List String) : split (quoteAll ws) = .ok ws := by
  unfold split
  rw [splitFrom_quoteAll]
  simp [Except.map]

/-- Quoted words are read back from between blanks too. -/
theorem split_quoteAll_blank (ws : List String) : split (quoteAll ws ++ [' ']) = .ok ws := by
  unfold split
  rw [splitFrom_quoteAll_blank]
  simp [Except.map]

theorem split_blank (cs : List Char) : split (' ' :: cs) = split cs := rfl

end Quoted

/-! ## Arrows -/

/-- A row of characters without an arrow in it. -/
def NoArrow (cs : List Char) : Prop :=
  ¬ ['-', '>'] <:+: cs

theorem noArrow_nil : NoArrow [] := by
  intro h
  exact absurd (List.eq_nil_of_infix_nil h) (by simp)

theorem noArrow_cons_iff {c : Char} {cs : List Char} :
    NoArrow (c :: cs) ↔ ¬ (c = '-' ∧ cs.head? = some '>') ∧ NoArrow cs := by
  have hprefix : ['-', '>'] <+: c :: cs ↔ c = '-' ∧ cs.head? = some '>' := by
    rw [List.cons_prefix_cons]
    cases cs with
    | nil => simp
    | cons d ds => simp [List.cons_prefix_cons, eq_comm]
  unfold NoArrow
  rw [List.infix_cons_iff, hprefix, not_or]

theorem noArrow_cons {c : Char} {cs : List Char} (hdash : c ≠ '-') (h : NoArrow cs) : NoArrow (c :: cs) :=
  noArrow_cons_iff.mpr ⟨fun hd => hdash hd.1, h⟩

/-- A character that no arrow has keeps what stands before it and after it apart. -/
theorem noArrow_between {cs ds : List Char} {c : Char} (hdash : c ≠ '-') (htip : c ≠ '>') (hcs : NoArrow cs)
    (hds : NoArrow ds) : NoArrow (cs ++ c :: ds) := by
  induction cs with
  | nil => exact noArrow_cons hdash hds
  | cons b cs ih =>
      obtain ⟨hb, hcs⟩ := noArrow_cons_iff.mp hcs
      refine noArrow_cons_iff.mpr ⟨?_, ih hcs⟩
      cases cs with
      | nil => simp [htip]
      | cons b' cs => simpa using hb

theorem noArrow_escaped {cs : List Char} (h : NoArrow cs) : NoArrow (cs.flatMap Quoted.escape) := by
  induction cs with
  | nil => exact noArrow_nil
  | cons c cs ih =>
      obtain ⟨hc, hcs⟩ := noArrow_cons_iff.mp h
      rw [List.flatMap_cons]
      by_cases hesc : c = '"' ∨ c = '\\'
      · -- what is escaped is neither end of an arrow, and neither is the backslash
        have hescape : Quoted.escape c = ['\\', c] := if_pos hesc
        have hdash : c ≠ '-' := by rcases hesc with rfl | rfl <;> decide
        rw [hescape]
        exact noArrow_cons (by decide) (noArrow_cons hdash (ih hcs))
      · have hescape : Quoted.escape c = [c] := if_neg hesc
        rw [hescape]
        refine noArrow_cons_iff.mpr ⟨?_, ih hcs⟩
        rintro ⟨rfl, hhead⟩
        cases cs with
        | nil => exact absurd hhead (by simp)
        | cons d ds =>
            refine hc ⟨rfl, ?_⟩
            rw [List.flatMap_cons] at hhead
            unfold Quoted.escape at hhead
            split at hhead
            · exact absurd hhead (by simp)
            · exact hhead

theorem noArrow_quote {word : String} (h : NoArrow word.toList) : NoArrow (Quoted.quote word) := by
  have hend : NoArrow (word.toList.flatMap Quoted.escape ++ '"' :: []) :=
    noArrow_between (by decide) (by decide) (noArrow_escaped h) noArrow_nil
  exact noArrow_cons (by decide) hend

/-- **Words without an arrow** stay without one when they are quoted. -/
theorem noArrow_quoteAll {ws : List String} (h : ∀ w ∈ ws, NoArrow w.toList) : NoArrow (Quoted.quoteAll ws) := by
  induction ws with
  | nil => exact noArrow_nil
  | cons w ws ih =>
      have hw := noArrow_quote (h w List.mem_cons_self)
      have hrest := ih fun w' hw' => h w' (List.mem_cons_of_mem _ hw')
      cases ws with
      | nil => exact hw
      | cons w' ws => exact noArrow_between (by decide) (by decide) hw hrest

/-- A character that begins no arrow belongs to the part that it stands in. -/
theorem cutAtArrows_cons {c : Char} {cs p : List Char} {ps : List (List Char)}
    (h : ¬ (c = '-' ∧ cs.head? = some '>')) (hcs : cutAtArrows cs = p :: ps) :
    cutAtArrows (c :: cs) = (c :: p) :: ps := by
  have hshape : ∀ rest, c = '-' → cs = '>' :: rest → False := by
    rintro rest rfl rfl
    exact h ⟨rfl, rfl⟩
  rw [cutAtArrows.eq_3 c cs hshape, hcs]

theorem cutAtArrows_none {cs : List Char} (h : NoArrow cs) : cutAtArrows cs = [cs] := by
  induction cs with
  | nil => rfl
  | cons c cs ih =>
      obtain ⟨hc, hcs⟩ := noArrow_cons_iff.mp h
      exact cutAtArrows_cons hc (ih hcs)

/-- **The first arrow of a line** ends the part before it. -/
theorem cutAtArrows_arrow {cs : List Char} (h : NoArrow cs) (rest : List Char) :
    cutAtArrows (cs ++ '-' :: '>' :: rest) = cs :: cutAtArrows rest := by
  induction cs with
  | nil => rfl
  | cons c cs ih =>
      obtain ⟨hc, hcs⟩ := noArrow_cons_iff.mp h
      refine cutAtArrows_cons ?_ (ih hcs)
      cases cs with
      | nil => simp
      | cons d ds => simpa using hc

/-! ## Lines -/

variable {lefts rights : List String}

/-- **A line is read back** as the words on its two sides, if none of them has an arrow in it. -/
theorem sides_joined (hl : ∀ w ∈ lefts, NoArrow w.toList) (hr : ∀ w ∈ rights, NoArrow w.toList) :
    sides (join lefts rights) = .ok (lefts, rights) := by
  have hcut : cutAtArrows (join lefts rights).toList
      = [Quoted.quoteAll lefts ++ [' '], ' ' :: Quoted.quoteAll rights] := by
    have hline : (join lefts rights).toList
        = (Quoted.quoteAll lefts ++ ' ' :: []) ++ '-' :: '>' :: (' ' :: Quoted.quoteAll rights) := by
      simp [join]
    have hleft : NoArrow (Quoted.quoteAll lefts ++ ' ' :: []) :=
      noArrow_between (by decide) (by decide) (noArrow_quoteAll hl) noArrow_nil
    have hright : NoArrow (' ' :: Quoted.quoteAll rights) :=
      noArrow_cons (by decide) (noArrow_quoteAll hr)
    rw [hline, cutAtArrows_arrow hleft, cutAtArrows_none hright]
  unfold sides
  rw [hcut]
  simp only [Quoted.split_quoteAll_blank, Quoted.split_blank, Quoted.split_quoteAll]

end PadScribe.Text

namespace PadScribe.Rule

open Text (NoArrow)

/-- A rule line with well-quoted sides needs two words on its left side and one on its right side. -/
theorem splitRule_sides {line : String} {lefts rights : List String} (h : Text.sides line = .ok (lefts, rights)) :
    splitRule line = if 2 ≤ lefts.length ∧ 1 ≤ rights.length then .ok (lefts, rights) else .error .incomplete := by
  have hshort : (decide (lefts.length < 2) || rights.isEmpty) = true ↔
      ¬ (2 ≤ lefts.length ∧ 1 ≤ rights.length) := by
    rw [Bool.or_eq_true, decide_eq_true_eq, List.isEmpty_iff_length_eq_zero]
    omega
  unfold splitRule
  rw [h]
  by_cases hlong : 2 ≤ lefts.length ∧ 1 ≤ rights.length
  · rw [if_pos hlong]
    exact if_neg fun h => hshort.mp h hlong
  · rw [if_neg hlong]
    exact if_pos (hshort.mpr hlong)

/-- **A rule line is read back** as the words on its two sides, of which it needs two on the left and one on the
right. -/
theorem splitRule_joined {head source target : String} {args targetArgs : List String}
    (hl : ∀ w ∈ head :: source :: args, NoArrow w.toList) (hr : ∀ w ∈ target :: targetArgs, NoArrow w.toList) :
    splitRule (Text.join (head :: source :: args) (target :: targetArgs))
      = .ok (head :: source :: args, target :: targetArgs) := by
  rw [splitRule_sides (Text.sides_joined hl hr)]
  simp

end PadScribe.Rule
