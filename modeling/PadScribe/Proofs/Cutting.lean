import PadScribe.Text.CharClass

/-!
# `Proofs.Cutting` — texts cut at separators

A text is cut at every separator, and the chunks that are not empty are kept. What is kept holds no separator, and
texts that were joined by a separator come out as they went in.

## Contents

* `pieces_eq_splitOnP`, `pieces_lead`, `mem_pieces`, `exists_piece` — the pieces between separators
* `mem_chunks`, `exists_chunk` — what chunks hold
* `mem_intercalate`, `mem_intercalate_of_mem`, `intercalate_eq_nil` — joined texts
* `chunks_intercalate`, `chunks_joined` — joined texts cut again
-/

namespace PadScribe.Text

variable {sep : Char → Bool}

/-- Cutting a text at separators is the library's. -/
theorem pieces_eq_splitOnP (sep : Char → Bool) (s : List Char) : pieces sep s = s.splitOnP sep := by
  induction s with
  | nil => rfl
  | cons c rest ih =>
      rw [pieces, ih, List.splitOnP_cons_eq_if_modifyHead]
      split
      · rfl
      · split
        next hnone => exact absurd hnone (List.splitOnP_ne_nil sep rest)
        next hsome => rw [hsome]; rfl

/-- A piece ends at the first separator. -/
theorem pieces_lead {c : Char} (hc : sep c = true) (lead rest : List Char)
    (hlead : ∀ d ∈ lead, sep d = false) : pieces sep (lead ++ c :: rest) = lead :: pieces sep rest := by
  rw [pieces_eq_splitOnP, pieces_eq_splitOnP, List.splitOnP_append_cons_of_forall_mem hlead c hc]

/-- The pieces between separators hold none, and hold characters of the text only. -/
theorem mem_pieces {s p : List Char} (hp : p ∈ pieces sep s) {c : Char} (hc : c ∈ p) :
    sep c = false ∧ c ∈ s := by
  fun_induction pieces sep s generalizing p with
  | case1 =>
      obtain rfl := List.mem_singleton.mp hp
      exact absurd hc List.not_mem_nil
  | case2 d rest hsep ih =>
      rcases List.mem_cons.mp hp with rfl | hp
      · exact absurd hc List.not_mem_nil
      · exact (ih hp hc).imp id (List.mem_cons_of_mem d)
  | case3 d rest hsep hnone ih =>
      obtain rfl := List.mem_singleton.mp hp
      obtain rfl := List.mem_singleton.mp hc
      exact ⟨by simpa using hsep, List.mem_cons_self⟩
  | case4 d rest hsep q qs hsome ih =>
      rw [hsome] at ih
      rcases List.mem_cons.mp hp with rfl | hp
      · rcases List.mem_cons.mp hc with rfl | hc
        · exact ⟨by simpa using hsep, List.mem_cons_self⟩
        · exact (ih List.mem_cons_self hc).imp id (List.mem_cons_of_mem d)
      · exact (ih (List.mem_cons_of_mem q hp) hc).imp id (List.mem_cons_of_mem d)

/-- What is no separator is in a piece. -/
theorem exists_piece {s : List Char} {c : Char} (hc : c ∈ s) (hsep : sep c = false) : ∃ p ∈ pieces sep s, c ∈ p := by
  fun_induction pieces sep s with
  | case1 => exact absurd hc List.not_mem_nil
  | case2 d rest hd ih =>
      rcases List.mem_cons.mp hc with rfl | hc
      · rw [hd] at hsep
        cases hsep
      · obtain ⟨p, hp, hmem⟩ := ih hc
        exact ⟨p, List.mem_cons_of_mem _ hp, hmem⟩
  | case3 d rest hd hnone ih =>
      rw [pieces_eq_splitOnP] at hnone
      exact absurd hnone (List.splitOnP_ne_nil sep rest)
  | case4 d rest hd q qs hsome ih =>
      rcases List.mem_cons.mp hc with rfl | hc
      · exact ⟨_, List.mem_cons_self, List.mem_cons_self⟩
      · obtain ⟨p, hp, hmem⟩ := ih hc
        rw [hsome] at hp
        -- the first piece has grown by a character in front
        rcases List.mem_cons.mp hp with rfl | hp
        · exact ⟨_, List.mem_cons_self, List.mem_cons_of_mem d hmem⟩
        · exact ⟨p, List.mem_cons_of_mem _ hp, hmem⟩

/-- The chunks of a text hold what the text holds apart from separators, and none is empty. -/
theorem mem_chunks {s p : List Char} (hp : p ∈ chunks sep s) :
    p ≠ [] ∧ ∀ c ∈ p, sep c = false ∧ c ∈ s := by
  obtain ⟨hpiece, hkept⟩ := List.mem_filter.mp hp
  exact ⟨by simpa using hkept, fun c hc => mem_pieces hpiece hc⟩

/-- What is no separator is in a chunk. -/
theorem exists_chunk {s : List Char} {c : Char} (hc : c ∈ s) (hsep : sep c = false) : ∃ p ∈ chunks sep s, c ∈ p := by
  obtain ⟨p, hp, hmem⟩ := exists_piece hc hsep
  have hne : p ≠ [] := List.ne_nil_of_mem hmem
  exact ⟨p, List.mem_filter.mpr ⟨hp, by simpa using hne⟩, hmem⟩

/-! ## Joined texts -/

/-- What joined texts hold is the separator or comes from one of them. -/
theorem mem_intercalate {x c : Char} {qs : List (List Char)} (hc : c ∈ [x].intercalate qs) :
    c = x ∨ ∃ q ∈ qs, c ∈ q := by
  induction qs with
  | nil => exact absurd hc List.not_mem_nil
  | cons q qs ih =>
      cases qs with
      | nil =>
          rw [List.intercalate_singleton] at hc
          exact .inr ⟨q, List.mem_cons_self, hc⟩
      | cons r rs =>
          rw [List.intercalate_cons_cons, List.append_assoc, List.mem_append, List.mem_append,
            List.mem_singleton] at hc
          rcases hc with hc | hc | hc
          · exact .inr ⟨q, List.mem_cons_self, hc⟩
          · exact .inl hc
          · exact (ih hc).imp id fun ⟨p, hp, hmem⟩ => ⟨p, List.mem_cons_of_mem q hp, hmem⟩

/-- Joined texts hold what each of them holds. -/
theorem mem_intercalate_of_mem {x : List Char} {q : List Char} {qs : List (List Char)} (hq : q ∈ qs) {c : Char}
    (hc : c ∈ q) : c ∈ x.intercalate qs := by
  induction qs with
  | nil => exact absurd hq List.not_mem_nil
  | cons r rs ih =>
      cases rs with
      | nil =>
          obtain rfl := List.mem_singleton.mp hq
          rwa [List.intercalate_singleton]
      | cons s ss =>
          rw [List.intercalate_cons_cons, List.append_assoc, List.mem_append, List.mem_append]
          rcases List.mem_cons.mp hq with rfl | hq
          · exact .inl hc
          · exact .inr (.inr (ih hq))

theorem intercalate_nil (qs : List (List Char)) : ([] : List Char).intercalate qs = qs.flatten := by
  induction qs with
  | nil => rfl
  | cons q qs ih =>
      cases qs with
      | nil => simp
      | cons r rs =>
          rw [List.intercalate_cons_cons, List.append_nil, ih]
          rfl

/-- Joined texts are empty when each of them is, and nothing comes between two of them. -/
theorem intercalate_eq_nil {x : List Char} {qs : List (List Char)} :
    x.intercalate qs = [] ↔ (∀ q ∈ qs, q = []) ∧ (x = [] ∨ qs.length ≤ 1) := by
  induction qs with
  | nil => simp
  | cons q qs ih =>
      cases qs with
      | nil => simp
      | cons r rs =>
          rw [List.intercalate_cons_cons, List.append_eq_nil_iff, List.append_eq_nil_iff, ih]
          simp only [List.forall_mem_cons, List.length_cons]
          constructor
          · rintro ⟨⟨hq, hx⟩, hrest, -⟩
            exact ⟨⟨hq, hrest⟩, .inl hx⟩
          · rintro ⟨⟨hq, hrest⟩, hx⟩
            obtain rfl : x = [] := hx.resolve_right (by omega)
            exact ⟨⟨hq, rfl⟩, hrest, .inl rfl⟩

/-- **Texts joined by a separator are cut one by one.** -/
theorem chunks_joined {x : Char} (hx : sep x = true) (qs : List (List Char)) :
    chunks sep ([x].intercalate qs) = qs.flatMap (chunks sep) := by
  unfold chunks
  induction qs with
  | nil => rfl
  | cons q qs ih =>
      cases qs with
      | nil => simp
      | cons r rs =>
          rw [List.intercalate_cons_cons, List.append_assoc, List.singleton_append, pieces_eq_splitOnP,
            List.splitOnP_append_cons _ _ hx, List.filter_append, List.flatMap_cons, ← ih]
          simp only [pieces_eq_splitOnP]

/-- **Texts joined by a separator are cut into those texts**, if none is empty or holds a separator. -/
theorem chunks_intercalate {x : Char} (hx : sep x = true) {qs : List (List Char)}
    (hne : [] ∉ qs) (hq : ∀ q ∈ qs, ∀ c ∈ q, sep c = false) : chunks sep ([x].intercalate qs) = qs := by
  unfold chunks
  induction qs with
  | nil => rfl
  | cons q qs ih =>
      rw [List.mem_cons, not_or] at hne
      have hkept : q.isEmpty = false := by simpa [List.isEmpty_eq_false_iff] using Ne.symm hne.1
      have hrest := ih hne.2 fun p hp => hq p (List.mem_cons_of_mem q hp)
      cases qs with
      | nil =>
          rw [List.intercalate_singleton, pieces_eq_splitOnP, List.splitOnP_eq_singleton (hq q List.mem_cons_self)]
          simp [hkept]
      | cons r rs =>
          rw [List.intercalate_cons_cons, List.append_assoc, List.singleton_append,
            pieces_lead hx _ _ (hq q List.mem_cons_self), List.filter_cons_of_pos (by simp [hkept]), hrest]

end PadScribe.Text
