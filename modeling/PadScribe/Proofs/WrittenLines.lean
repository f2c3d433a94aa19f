import PadScribe.Proofs.MappingLines

/-!
# `Proofs.WrittenLines` — words that can be written on a line

Two rows of words are written as one line: each word in double quotes, single spaces between the words, and an arrow
between the rows. A line is cut at its arrows before quotes are read, so that quoting protects whatever a word is made
of, blanks, quotes, backslashes and nothing at all, but not an arrow in it. This file says that both kinds of lines give
the words back, and that words with an arrow in them are the only ones that are not read back.

## Contents

* `cutAtArrows_joined` — a text is cut wherever it is put together at an arrow
* `noArrow_quoteAll_iff` — quoting neither makes arrows nor hides them
* `sides_join_iff` — the rows that are read back
* `join_read_back` — word-mapping lines and rule lines
-/

namespace PadScribe

namespace Text

variable {cs ds : List Char} {w : String} {ws lefts rights : List String}

/-! ## Arrows in quoted words -/

theorem NoArrow.within (h : NoArrow cs) (hds : ds <:+: cs) : NoArrow ds :=
  fun harrow => h (harrow.trans hds)

/-- What is escaped keeps its arrows. -/
theorem noArrow_of_escaped (h : NoArrow (cs.flatMap Quoted.escape)) : NoArrow cs := by
  rintro ⟨before, after, rfl⟩
  refine h ⟨before.flatMap Quoted.escape, after.flatMap Quoted.escape, ?_⟩
  have harrow : ['-', '>'].flatMap Quoted.escape = ['-', '>'] := by decide
  rw [List.flatMap_append, List.flatMap_append, harrow]

theorem escaped_infix_quote (w : String) : w.toList.flatMap Quoted.escape <:+: Quoted.quote w := by
  rw [Quoted.quote_eq]
  exact ⟨['"'], ['"'], rfl⟩

theorem quote_infix_quoteAll (h : w ∈ ws) : Quoted.quote w <:+: Quoted.quoteAll ws := by
  induction ws with
  | nil => cases h
  | cons v ws ih =>
      cases ws with
      | nil =>
          obtain rfl := List.mem_singleton.mp h
          exact List.infix_rfl
      | cons v' ws =>
          rw [Quoted.quoteAll]
          · rcases List.mem_cons.mp h with rfl | h
            · exact (List.prefix_append _ _).isInfix
            · exact (ih h).trans (List.suffix_cons _ _ |>.trans (List.suffix_append _ _)).isInfix
          · simp

/-- **Quoting neither makes arrows nor hides them.** -/
theorem noArrow_quoteAll_iff : NoArrow (Quoted.quoteAll ws) ↔ ∀ w ∈ ws, NoArrow w.toList := by
  constructor
  · intro h w hw
    exact noArrow_of_escaped (h.within ((escaped_infix_quote w).trans (quote_infix_quoteAll hw)))
  · exact noArrow_quoteAll

/-! ## Lines -/

/-- **A text is cut wherever it is put together at an arrow**: no arrow overlaps another one. -/
theorem cutAtArrows_joined (cs ds : List Char) :
    cutAtArrows (cs ++ '-' :: '>' :: ds) = cutAtArrows cs ++ cutAtArrows ds := by
  -- the first arrow of the first part leaves less of it to cut
  induction hlen : cs.length using Nat.strong_induction_on generalizing cs with
  | _ len ih =>
      rcases first_arrow cs with hnone | ⟨before, after, rfl, hbefore⟩
      · rw [cutAtArrows_arrow hnone, cutAtArrows_none hnone]
        rfl
      · have hshort : after.length < len := by
          simp only [← hlen, List.length_append, List.length_cons]
          omega
        rw [List.append_assoc, List.cons_append, List.cons_append, cutAtArrows_arrow hbefore,
          cutAtArrows_arrow hbefore, ih _ hshort after rfl]
        rfl

theorem join_eq (lefts rights : List String) :
    (join lefts rights).toList
      = (Quoted.quoteAll lefts ++ [' ']) ++ '-' :: '>' :: (' ' :: Quoted.quoteAll rights) := by
  simp [join]

/-- **The rows of words that are read back** are those without an arrow in any word. -/
theorem sides_join_iff :
    sides (join lefts rights) = .ok (lefts, rights) ↔ ∀ w ∈ lefts ++ rights, NoArrow w.toList := by
  constructor
  · intro h
    obtain ⟨left, right, hone, -⟩ := sides_ok_iff.mp h
    have hcut := cutAtArrows_two_iff.mpr hone
    rw [join_eq, cutAtArrows_joined] at hcut
    -- both sides of the arrow have at least one part, so each has exactly one
    obtain ⟨p, ps, hleft⟩ := List.exists_cons_of_ne_nil (cutAtArrows_ne_nil (Quoted.quoteAll lefts ++ [' ']))
    obtain ⟨q, qs, hright⟩ := List.exists_cons_of_ne_nil (cutAtArrows_ne_nil (' ' :: Quoted.quoteAll rights))
    rw [hleft, hright, List.cons_append] at hcut
    obtain ⟨-, hrest⟩ := List.cons.inj hcut
    obtain ⟨rfl, hrest⟩ : ps = [] ∧ q :: qs = [right] := by
      cases ps with
      | nil => exact ⟨rfl, hrest⟩
      | cons p' ps => exact absurd (List.cons.inj hrest).2 (by simp)
    obtain ⟨-, rfl⟩ := List.cons.inj hrest
    have hlefts := (cutAtArrows_one hleft).2.within (List.prefix_append _ _).isInfix
    have hrights := (cutAtArrows_one hright).2.within (List.suffix_cons _ _).isInfix
    rw [List.forall_mem_append]
    exact ⟨noArrow_quoteAll_iff.mp hlefts, noArrow_quoteAll_iff.mp hrights⟩
  · intro h
    rw [List.forall_mem_append] at h
    exact sides_joined h.1 h.2

/-- **Quoted words are read back from both kinds of lines.** Whatever the words on the two sides are made of, blanks,
quotes and backslashes among them, if none has an arrow in it: a word-mapping line gives both rows back, and so does a
rule line that has at least two words on its left side and one on its right side. Any other rule line is refused. -/
theorem join_read_back (h : ∀ w ∈ lefts ++ rights, NoArrow w.toList) :
    Vocabulary.splitLine (join lefts rights) = .ok (lefts, rights) ∧
      Rule.splitRule (join lefts rights) =
        if 2 ≤ lefts.length ∧ 1 ≤ rights.length then .ok (lefts, rights) else .error .incomplete := by
  have hsides := sides_join_iff.mpr h
  constructor
  · unfold Vocabulary.splitLine
    rw [hsides]
  · exact Rule.splitRule_sides hsides

theorem join_read_back_strange :
    (∀ w ∈ ["say \"hi\"", "\\"] ++ ["", "-", "> \n\t"], NoArrow w.toList) ∧
      Vocabulary.splitLine (join ["say \"hi\"", "\\"] ["", "-", "> \n\t"])
        = .ok (["say \"hi\"", "\\"], ["", "-", "> \n\t"]) ∧
      Rule.splitRule (join ["say \"hi\"", "\\"] ["", "-", "> \n\t"])
        = .ok (["say \"hi\"", "\\"], ["", "-", "> \n\t"]) := by
  have hnone : ∀ w ∈ ["say \"hi\"", "\\"] ++ ["", "-", "> \n\t"], NoArrow w.toList := by
    unfold NoArrow
    decide
  obtain ⟨hline, hrule⟩ := join_read_back hnone
  exact ⟨hnone, hline, hrule⟩

end Text

end PadScribe
