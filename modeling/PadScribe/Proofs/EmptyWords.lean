import PadScribe.Proofs.Reading
import PadScribe.Proofs.SpokenDelays

/-!
# `Proofs.EmptyWords` — empty words between the others

A phrase may be mapped to an empty word, and the words of an utterance are then compiled with empty words among them.
This file says what these do to the reading. Where every empty word stands between two pieces of the others, it makes
a piece of its own and leaves the pieces around it as they were: a phrase that holds no empty word ends before the next
one, and what a recipe makes is settled by the words that it uses, none of which is empty, and does not change with
what follows them. So the commands are the same, but that the typed ones have empty words among their words; and where
only empty words are typed, there is a command where there would be none.

## Contents

* `SettledBy` — a reading that the first words settle
* `numberAt_stop`, `makeDelay_settled`, `makeHotkey_settled`, `make_settled` — what recipes make is settled
* `scan_full`, `scan_empty` — phrases without empty words
* `Command.withoutEmpty`, `merge_withoutEmpty` — typed words joined without the empty ones
* `Spaced` — empty words between the pieces of the others
* `Reread`, `read_piece`, `pieces_spaced` — every piece is read again
* `compileWords_spaced` — the commands and the failure of words with empty ones among them
-/

namespace PadScribe

/-! ## Readings that are settled -/

/-- **Some words settle a reading**: the row starts with them, none of them is empty, and what is read is the same
whatever follows them. -/
structure SettledBy {α : Type} (read : List String → α) (used words : List String) : Prop where
  leads : used <+: words
  full : "" ∉ used
  same : ∀ more, read (used ++ more) = read words

/-- A row of words that starts with the same ones is read alike. -/
theorem SettledBy.read_eq {α : Type} {read : List String → α} {used words others : List String}
    (h : SettledBy read used words) (hleads : used <+: others) : read others = read words := by
  obtain ⟨more, rfl⟩ := hleads
  exact h.same more

/-- Words among which none is empty. -/
theorem filter_full {words : List String} (hfull : "" ∉ words) : words.filter (· ≠ "") = words :=
  List.filter_eq_self.mpr fun w hw => by simpa using fun he : w = "" => hfull (he ▸ hw)

/-- Words without empty ones that a row starts with are also at the start of the row without its empty words. -/
theorem prefix_filter {lead words : List String} (hfull : "" ∉ lead) (h : lead <+: words) :
    lead <+: words.filter (· ≠ "") := by
  rw [← filter_full hfull]
  exact h.filter _

namespace SpokenNumber

variable {u : String} {words : List String}

/-- What looks at the first of some words does not look at what follows them, unless that starts with a numeral. -/
theorem head_stop (hu : isNumeral u = false) (value : Nat) (words more : List String) :
    unitAfter value (words ++ u :: more) = unitAfter value words ∧
    multiplierAt (words ++ u :: more) = multiplierAt words ∧
    conjunctionCost (words ++ u :: more) = conjunctionCost words := by
  cases words with
  | cons w words => exact ⟨rfl, rfl, rfl⟩
  | nil =>
      simp only [isNumeral, Bool.or_eq_false_iff, Option.isSome_eq_false_iff, Option.isNone_iff_eq_none] at hu
      obtain ⟨⟨hword, hmultiplier⟩, hjoin⟩ := hu
      simp [unitAfter, multiplierAt, conjunctionCost, hword, hmultiplier, hjoin]

/-- What a value goes on to stops before a word that is no numeral, if the numbers further on do. -/
theorem goOn_stop (hu : isNumeral u = false) (value : Nat) (more : List String)
    (h : ∀ k, numberAt? (words.drop k ++ u :: more) = numberAt? (words.drop k)) :
    goOn value (words ++ u :: more) = goOn value words := by
  cases hfirst : multiplierAt words with
  | none => rw [goOn_alone hfirst, goOn_alone ((head_stop hu 0 words more).2.1.trans hfirst)]
  | some first =>
      -- the number after the multipliers starts among the words
      have hone : Spoken words 1 := by simpa [hfirst] using spoken_multiplier words
      have hsecond := hone.append (spoken_multiplier (words.drop 1))
      have hstart := (hsecond.append (spoken_conjunction _)).within
      have hdrop : ∀ k, k ≤ words.length → (words ++ u :: more).drop k = words.drop k ++ u :: more :=
        fun k hk => List.drop_append_of_le_length hk
      simp only [goOn, (head_stop hu 0 words more).2.1, hfirst, hdrop _ hone.within,
        (head_stop hu 0 (words.drop 1) more).2.1, hdrop _ hsecond.within, (head_stop hu 0 _ more).2.2,
        hdrop _ hstart, h]

/-- **A number stops before a word that is no numeral**, whatever comes after that. -/
theorem numberAt_stop (hu : isNumeral u = false) (words more : List String) :
    numberAt? (words ++ u :: more) = numberAt? words := by
  -- the number after a multiplier starts further on, so the length goes down
  induction hlen : words.length using Nat.strong_induction_on generalizing words with
  | _ len ih =>
      cases words with
      | nil =>
          have hword : numberWord? u = none := by
            simpa [isNumeral] using (Bool.or_eq_false_iff.mp (Bool.or_eq_false_iff.mp hu).1).1
          rw [List.nil_append, numberAt_none hword, numberAt?]
      | cons w rest =>
          rw [List.cons_append]
          cases hword : numberWord? w with
          | none => rw [numberAt_none hword, numberAt_none hword]
          | some base =>
              have hunit := (spoken_unit base rest).within
              have hrest : ∀ k, numberAt? (rest.drop k ++ u :: more) = numberAt? (rest.drop k) := by
                intro k
                refine ih _ ?_ (rest.drop k) rfl
                simp only [List.length_drop, ← hlen, List.length_cons]
                omega
              rw [numberAt_eq hword, numberAt_eq hword, (head_stop hu base rest more).1,
                List.drop_append_of_le_length hunit, goOn_stop hu]
              intro k
              rw [List.drop_drop]
              exact hrest _

end SpokenNumber

namespace Recipe

open SpokenNumber

variable {first u last : String} {lead more words : List String} {n : Nat} {r : Recipe}

/-- A unit is no numeral. -/
theorem unit_not_numeral (hu : (delayUnits.lookup (Text.lower u)).isSome) : isNumeral u = false := by
  have hall : ∀ p ∈ delayUnits, (numberWords.lookup p.1).isNone ∧ (multipliers.lookup p.1).isNone ∧
      conjunctions.contains p.1 = false := by decide
  obtain ⟨unit, hunit⟩ := Option.isSome_iff_exists.mp hu
  obtain ⟨before, after, hunits, -⟩ := List.lookup_eq_some_iff.mp hunit
  obtain ⟨hword, hmultiplier, hjoin⟩ :=
    hall (Text.lower u, unit) (hunits ▸ List.mem_append_right _ List.mem_cons_self)
  simp only [isNumeral, numberWord?, multiplier?, isConjunction, Option.isNone_iff_eq_none.mp hword,
    Option.isNone_iff_eq_none.mp hmultiplier, hjoin]
  rfl

theorem decimal_ne_empty {value : Nat} (h : Text.decimalValue? first.toList = some value) : first ≠ "" := by
  have hnone : Text.decimalValue? "".toList = none := by decide
  rintro rfl
  rw [hnone] at h
  cases h

/-- The number of a delay uses a word. -/
theorem delayNumber_pos {rest : List String} {cost : Nat} (h : delayNumber first rest = .ok (n, cost)) :
    1 ≤ cost := by
  unfold delayNumber at h
  split at h
  · split at h
    · cases h
    · exact (Prod.mk.inj (Except.ok.inj h)).2.le
  · split at h
    · next hread => exact (numberAt_lead (hread.trans (congrArg some (Except.ok.inj h)))).1
    · cases h

/-- The number of a delay is settled by its words and a word after them that is no numeral. -/
theorem delayNumber_settled (hu : isNumeral u = false)
    (h : delayNumber first (lead ++ u :: more) = .ok (n, lead.length + 1)) :
    "" ∉ first :: lead ∧ ∀ more', delayNumber first (lead ++ u :: more') = .ok (n, lead.length + 1) := by
  unfold delayNumber at h ⊢
  cases hdecimal : Text.decimalValue? first.toList with
  | some value =>
      rw [hdecimal] at h
      simp only [] at h ⊢
      have hlead : lead = [] := by
        split at h
        · cases h
        · simpa using (Prod.mk.inj (Except.ok.inj h)).2.symm
      refine ⟨?_, fun _ => h⟩
      rw [hlead, List.mem_singleton]
      exact (decimal_ne_empty hdecimal).symm
  | none =>
      rw [hdecimal] at h
      simp only [← List.cons_append, numberAt_stop hu] at h ⊢
      refine ⟨fun hempty => ?_, fun _ => h⟩
      cases hread : numberAt? (first :: lead) with
      | none =>
          rw [hread] at h
          cases h
      | some r =>
          rw [hread] at h
          obtain rfl : r = (n, lead.length + 1) := Except.ok.inj h
          have hvocabulary := (spoken_numberAt _ _ _ hread).2.vocabulary "" (by simpa using hempty)
          exact absurd hvocabulary (by decide)

/-- A number that is not read for its digits alone fails alike whatever follows. -/
theorem delayNumber_fails {rest : List String} {fault : Fault} (h : delayNumber first rest = .error fault)
    (hf : ∀ e, fault ≠ .spoken e) : first ≠ "" ∧ ∀ more, delayNumber first more = .error fault := by
  unfold delayNumber at h ⊢
  cases hdecimal : Text.decimalValue? first.toList with
  | some value =>
      rw [hdecimal] at h
      exact ⟨decimal_ne_empty hdecimal, fun _ => h⟩
  | none =>
      rw [hdecimal] at h
      simp only [] at h
      split at h
      · cases h
      · exact absurd (Except.error.inj h).symm (hf _)

/-- A delay whose number and unit are there is settled. -/
theorem makeDelay_unit (hunit : (delayUnits.lookup (Text.lower u)).isSome)
    (hn : delayNumber first (lead ++ u :: more) = .ok (n, lead.length + 1)) :
    SettledBy makeDelay (first :: (lead ++ [u])) (first :: (lead ++ u :: more)) ∧
      ∀ k c, makeDelay (first :: (lead ++ u :: more)) = .ok (k, c) → k = lead.length + 2 := by
  obtain ⟨hfull, hsame⟩ := delayNumber_settled (unit_not_numeral hunit) hn
  have hmade : ∀ others, makeDelay (first :: (lead ++ u :: others))
      = (delayOf n [u]).map (lead.length + 1 + 1, ·) := by
    intro others
    rw [makeDelay_number (hsame others), List.drop_succ_cons, List.drop_left]
    rfl
  have hempty : u ≠ "" := by
    have hnone : delayUnits.lookup (Text.lower "") = none := by decide
    rintro rfl
    rw [hnone] at hunit
    cases hunit
  refine ⟨⟨by simp, by simpa [hempty.symm] using hfull, fun others => ?_⟩, fun k c hok => ?_⟩
  · rw [hmade, List.cons_append, List.append_assoc]
    exact hmade others
  · rw [hmade] at hok
    cases hof : delayOf n [u] with
    | error fault =>
        rw [hof] at hok
        cases hok
    | ok made =>
        rw [hof] at hok
        exact (Prod.mk.inj (Except.ok.inj hok)).1.symm

/-- **A spoken delay is settled** by its number and its unit, or by digits that are too many. -/
theorem makeDelay_settled (h : ∀ e, makeDelay words ≠ .error (.spoken e)) :
    ∃ used, SettledBy makeDelay used words ∧ ∀ k c, makeDelay words = .ok (k, c) → k = used.length := by
  cases words with
  | nil => exact absurd rfl (h _)
  | cons first rest =>
      cases hn : delayNumber first rest with
      | error fault =>
          have hmade := makeDelay_fault hn
          obtain ⟨hne, hsame⟩ := delayNumber_fails hn fun e he => h e (he ▸ hmade)
          refine ⟨[first], ⟨by simp, by simpa using hne.symm, fun more => ?_⟩, fun k c hok => ?_⟩
          · rw [hmade]
            exact makeDelay_fault (hsame more)
          · rw [hmade] at hok
            cases hok
      | ok r =>
          obtain ⟨n, cost⟩ := r
          have hmade := makeDelay_number hn
          cases hdrop : (first :: rest).drop cost with
          | nil =>
              rw [hdrop] at hmade
              exact absurd hmade (h _)
          | cons u more =>
              cases hunit : delayUnits.lookup (Text.lower u) with
              | none =>
                  simp only [hdrop, delayOf, hunit] at hmade
                  exact absurd hmade (h _)
              | some unit =>
                  -- the number ends before the unit
                  obtain ⟨lead, rfl, rfl⟩ : ∃ lead, rest = lead ++ u :: more ∧ cost = lead.length + 1 := by
                    obtain ⟨k, rfl⟩ := Nat.exists_eq_add_of_le' (delayNumber_pos hn)
                    rw [List.drop_succ_cons] at hdrop
                    have hk : k < rest.length := by
                      rw [← Nat.not_le, ← List.drop_eq_nil_iff, hdrop]
                      simp
                    exact ⟨rest.take k, by rw [← hdrop, List.take_append_drop], by simp [hk.le]⟩
                  obtain ⟨hsettled, hcost⟩ := makeDelay_unit (by simp [hunit]) hn
                  exact ⟨_, hsettled, fun k c hok => by simpa using hcost k c hok⟩

/-- A spoken hotkey of some held keys and a tapped one. -/
theorem makeHotkey_held {held : List String} {key : String} (hheld : ∀ w ∈ held, Key.isModifier w = true)
    (hkey : Key.isModifier key = false) (more : List String) : makeHotkey (held ++ key :: more)
      = if Key.isKey key then .ok (held.length + 1, .hotkey (key :: held)) else .error (.unknownHotkey key) := by
  have htap : ¬ Key.isModifier key = true := by simp [hkey]
  simp only [makeHotkey, List.takeWhile_append_of_pos hheld, List.dropWhile_append_of_pos hheld,
    List.takeWhile_cons_of_neg htap, List.dropWhile_cons_of_neg htap, List.append_nil]

/-- **A spoken hotkey is settled** by the keys that are held and the one that is tapped. -/
theorem makeHotkey_settled {made : Nat × Command} (h : makeHotkey words = .ok made) :
    ∃ used, SettledBy makeHotkey used words ∧ made.1 = used.length := by
  have hheld : ∀ w ∈ words.takeWhile Key.isModifier, Key.isModifier w = true := fun w hw => List.mem_takeWhile_imp hw
  cases hrest : words.dropWhile Key.isModifier with
  | nil =>
      simp only [makeHotkey, hrest] at h
      cases h
  | cons key more =>
      have hkey : Key.isModifier key = false := by
        have hhead := List.head?_dropWhile_not Key.isModifier words
        simpa [hrest] using hhead
      have hwords : words = words.takeWhile Key.isModifier ++ key :: more := by
        rw [← hrest, List.takeWhile_append_dropWhile]
      generalize words.takeWhile Key.isModifier = held at hheld hwords
      subst hwords
      rw [makeHotkey_held hheld hkey] at h
      split at h
      · next hproper =>
        refine ⟨held ++ [key], ⟨by simp, fun hempty => ?_, fun others => ?_⟩, ?_⟩
        · -- an empty word is no key of either kind
          rcases List.mem_append.mp hempty with hw | hw
          · exact absurd (hheld "" hw) (by decide +kernel)
          · rw [← List.mem_singleton.mp hw] at hproper
            exact absurd hproper (by decide +kernel)
        · rw [List.append_assoc, List.singleton_append, makeHotkey_held hheld hkey, makeHotkey_held hheld hkey]
        · rw [← Except.ok.inj h]
          simp
      · cases h

/-- **What a recipe makes is settled** by the words that it uses. -/
theorem make_settled (hr : ∀ joined, r ≠ .typing joined) (h : ∀ e, r.make last words ≠ .error (.spoken e)) :
    ∃ used, SettledBy (r.make last) used words ∧ ∀ k c, r.make last words = .ok (k, c) → k = used.length := by
  have hfixed : ∀ c, (∀ ws, r.make last ws = .ok (0, c)) →
      ∃ used, SettledBy (r.make last) used words ∧ ∀ k c, r.make last words = .ok (k, c) → k = used.length := by
    intro c hc
    refine ⟨[], ⟨List.nil_prefix, by simp, fun more => by rw [hc, hc]⟩, fun k d hok => ?_⟩
    rw [hc] at hok
    exact (Prod.mk.inj (Except.ok.inj hok)).1.symm
  cases r with
  | typing joined => exact absurd rfl (hr joined)
  | spokenDelay => exact makeDelay_settled h
  | spokenHotkey =>
      cases hmade : makeHotkey words with
      | error e => exact absurd (by simp [make, hmade]) (h e)
      | ok made =>
          obtain ⟨used, hsettled, hcost⟩ := makeHotkey_settled hmade
          refine ⟨used, ⟨hsettled.leads, hsettled.full, fun more => ?_⟩, fun k c hok => ?_⟩
          · simp only [make, hsettled.same]
          · simp only [make, hmade] at hok
            rw [← hcost, Except.ok.inj hok]
  | _ => exact hfixed _ fun _ => rfl

end Recipe

/-! ## Phrases without empty words -/

/-- **No phrase of a tree holds an empty word.** -/
def PhraseTree.Full {α : Type} (t : PhraseTree α) : Prop :=
  ∀ phrase value, t.get? phrase = some value → "" ∉ phrase

namespace PhraseTree

variable {α : Type} {t : PhraseTree α} {words : List String} {n : Nat} {value : α}

/-- A tree of phrases of one word each holds no empty word if none is empty. -/
theorem full_of_single (h : t.children.all fun c => c.1 != "" && c.2.children.isEmpty) : t.Full := by
  intro phrase value hget hmem
  cases phrase with
  | nil => cases hmem
  | cons w rest =>
      obtain ⟨child, hchild, hrest⟩ := Option.bind_eq_some_iff.mp ((get?_cons w rest t).symm.trans hget)
      obtain ⟨before, after, hsplit, -⟩ := List.lookup_eq_some_iff.mp hchild
      have hentry := List.all_eq_true.mp h (w, child) (hsplit ▸ List.mem_append_right _ List.mem_cons_self)
      simp only [Bool.and_eq_true, bne_iff_ne, ne_eq, List.isEmpty_iff] at hentry
      obtain rfl : rest = [] := by
        by_contra hne
        rw [get?_childless hentry.2 hne] at hrest
        cases hrest
      exact hentry.1 (List.mem_singleton.mp hmem).symm

/-- No phrase starts with an empty word. -/
theorem scan_empty (ht : t.Full) (words : List String) : t.scan ("" :: words) = none := by
  rw [scan_none_iff]
  intro phrase hne hleads
  cases phrase with
  | nil => exact absurd rfl hne
  | cons w rest =>
      obtain ⟨rfl, -⟩ := List.cons_prefix_cons.mp hleads
      rw [Option.eq_none_iff_forall_ne_some]
      exact fun value hget => ht _ value hget List.mem_cons_self

/-- Where no phrase starts once the empty words are gone, none starts with them. -/
theorem scan_full_none (ht : t.Full) (h : t.scan (words.filter (· ≠ "")) = none) : t.scan words = none := by
  rw [scan_none_iff] at h ⊢
  intro phrase hne hleads
  rw [Option.eq_none_iff_forall_ne_some]
  intro value hget
  rw [h phrase hne (prefix_filter (ht _ value hget) hleads)] at hget
  cases hget

/-- **The longest phrase once the empty words are gone** is the longest one with them, if it is there. -/
theorem scan_full (ht : t.Full) (h : t.scan (words.filter (· ≠ "")) = some (n, value))
    (hleads : (words.filter (· ≠ "")).take n <+: words) : t.scan words = some (n, value) := by
  rw [scan_some_iff] at h ⊢
  obtain ⟨phrase, hlongest, rfl⟩ := h
  rw [← List.prefix_iff_eq_take.mp hlongest.leads] at hleads
  refine ⟨phrase, ⟨hlongest.nonempty, hleads, hlongest.holds, fun other hne hother hsome => ?_⟩, rfl⟩
  obtain ⟨found, hget⟩ := Option.isSome_iff_exists.mp hsome
  exact hlongest.longest other hne (prefix_filter (ht _ found hget) hother) hsome

end PhraseTree

/-! ## Typed words without the empty ones -/

namespace Command

/-- Whether a command types a lone empty word. -/
def isHollow : Command → Bool
  | typing ws _ => ws == [""]
  | _ => false

/-- The command without the empty words among those it types, if it types others. -/
def withoutEmpty : Command → Option Command
  | typing ws joined => if ws.filter (· ≠ "") = [] then none else some (.typing (ws.filter (· ≠ "")) joined)
  | c => some c

end Command

/-- What is no plain typing of words has no empty words, if words are typed one by one. -/
theorem other_whole {c : Command} (hc : ¬ c.isPlain) : c.isHollow = false ∧ c.withoutEmpty = some c := by
  cases c with
  | typing ws joined =>
      obtain rfl : ws = [" "] := by simpa [Command.isPlain, Vocabulary.isSpace] using hc
      exact ⟨rfl, rfl⟩
  | _ => exact ⟨rfl, rfl⟩

/-- A run of plain commands before one that is not plain is joined. -/
theorem merge_run {c : Command} {run rest : List Command} (hc : c.isPlain) (hrun : ∀ d ∈ run, d.isPlain)
    (hrest : ∀ d ∈ rest.head?, ¬ d.isPlain) :
    merge (c :: run ++ rest) = c.extend (run.flatMap Command.typedWords) :: merge rest := by
  rw [List.cons_append, merge_cons_plain _ hc, List.takeWhile_append_of_pos hrun, List.dropWhile_append_of_pos hrun]
  cases rest with
  | nil => simp
  | cons d ds =>
      have hd : ¬ d.isPlain = true := hrest d rfl
      rw [List.takeWhile_cons_of_neg hd, List.dropWhile_cons_of_neg hd, List.append_nil]

/-- The words of commands that type one each, without the empty ones. -/
theorem typedWords_solid {joined : Bool} {run : List Command} (h : ∀ d ∈ run, ∃ w, d = .typing [w] joined) :
    (run.filter (!·.isHollow)).flatMap Command.typedWords
      = (run.flatMap Command.typedWords).filter (· ≠ "") := by
  induction run with
  | nil => rfl
  | cons d run ih =>
      obtain ⟨w, rfl⟩ := h d List.mem_cons_self
      have hrun := ih fun e he => h e (List.mem_cons_of_mem _ he)
      by_cases hw : w = ""
      · simpa [Command.isHollow, Command.typedWords, hw] using hrun
      · simpa [Command.isHollow, Command.typedWords, hw] using hrun

/-- A run of words that are typed one by one, without the empty ones, is joined to the row of its words without the
empty ones, or to nothing where there are no others. -/
theorem merge_solid {joined : Bool} {run rest : List Command}
    (hrun : ∀ d ∈ run, d.isPlain ∧ ∃ w, d = .typing [w] joined) (hrest : ∀ d ∈ rest.head?, ¬ d.isPlain) :
    merge (run.filter (!·.isHollow) ++ rest)
      = (Command.typing (run.flatMap Command.typedWords) joined).withoutEmpty.toList ++ merge rest := by
  have hwords := typedWords_solid fun d hd => (hrun d hd).2
  cases hkept : run.filter (!·.isHollow) with
  | nil =>
      rw [hkept, List.flatMap_nil] at hwords
      rw [Command.withoutEmpty, if_pos hwords.symm, Option.toList_none]
      rfl
  | cons d ds =>
      have hin : ∀ e ∈ d :: ds, e.isPlain ∧ ∃ w, e = .typing [w] joined := fun e he =>
        hrun e (List.mem_of_mem_filter (hkept ▸ he))
      obtain ⟨hd, w, rfl⟩ := hin d List.mem_cons_self
      rw [merge_run hd (fun e he => (hin e (List.mem_cons_of_mem _ he)).1) hrest]
      rw [hkept, List.flatMap_cons] at hwords
      have hsome : (run.flatMap Command.typedWords).filter (· ≠ "") ≠ [] := hwords ▸ by simp [Command.typedWords]
      rw [Command.withoutEmpty, if_neg hsome, ← hwords, Option.toList_some]
      rfl

/-- **Joining typed words and leaving out the empty ones** may be done in either order. -/
theorem merge_withoutEmpty {joined : Bool} {cs : List Command}
    (h : ∀ ws joined', .typing ws joined' ∈ cs → ∃ w, ws = [w] ∧ joined' = joined) :
    merge (cs.filter (!·.isHollow)) = (merge cs).filterMap Command.withoutEmpty := by
  fun_induction merge cs with
  | case1 => simp [merge_nil]
  | case2 c cs hc ih =>
      have hrun : ∀ d ∈ c :: cs.takeWhile Command.isPlain, d.isPlain ∧ ∃ w, d = .typing [w] joined := by
        intro d hd
        have hin : d ∈ c :: cs := ((List.takeWhile_sublist _).cons_cons c).subset hd
        have hplain : d.isPlain := (List.mem_cons.mp hd).elim (fun he => he ▸ hc) List.mem_takeWhile_imp
        obtain ⟨ws, joined', rfl, -⟩ := isPlain_typing hplain
        obtain ⟨w, rfl, rfl⟩ := h ws joined' hin
        exact ⟨hplain, w, rfl⟩
      have hlater := ih fun ws joined' hmem =>
        h ws joined' (List.mem_cons_of_mem c ((List.dropWhile_sublist _).subset hmem))
      -- the run ends before a command that is not plain, with the hollow ones or without
      have hrest : ∀ d ∈ ((cs.dropWhile Command.isPlain).filter (!·.isHollow)).head?, ¬ d.isPlain := by
        have hhead := List.head?_dropWhile_not Command.isPlain cs
        cases hcut : cs.dropWhile Command.isPlain with
        | nil => simp
        | cons d ds =>
            have hd : ¬ d.isPlain = true := by simpa [hcut] using hhead
            simpa [List.filter_cons, (other_whole hd).1] using hd
      have hsplit : (c :: cs).filter (!·.isHollow) = (c :: cs.takeWhile Command.isPlain).filter (!·.isHollow)
          ++ (cs.dropWhile Command.isPlain).filter (!·.isHollow) := by
        rw [← List.filter_append, List.cons_append, List.takeWhile_append_dropWhile]
      obtain ⟨-, w, rfl⟩ := hrun c List.mem_cons_self
      rw [hsplit, merge_solid hrun hrest, hlater, List.filterMap_cons]
      cases hrow : (Command.extend ((cs.takeWhile Command.isPlain).flatMap Command.typedWords)
          (.typing [w] joined)).withoutEmpty with
      | none => exact congrArg (·.toList ++ _) hrow
      | some d => exact congrArg (·.toList ++ _) hrow
  | case3 c cs hc ih =>
      obtain ⟨hsolid, hwhole⟩ := other_whole hc
      rw [List.filter_cons_of_pos (by simp [hsolid]), merge_cons_other _ hc, List.filterMap_cons_some hwhole,
        ih fun ws joined' hmem => h ws joined' (List.mem_cons_of_mem c hmem)]

/-! ## Empty words between pieces -/

/-- **Empty words between pieces**: the words of the pieces one after another, with any number of empty words before
and after each piece and none inside. -/
inductive Spaced : List Piece → List String → Prop where
  | nil : Spaced [] []
  | empty {ps : List Piece} {words : List String} (later : Spaced ps words) : Spaced ps ("" :: words)
  | piece (p : Piece) {ps : List Piece} {words : List String} (later : Spaced ps words) :
      Spaced (p :: ps) (p.words ++ words)

theorem Spaced.next {p : Piece} {ps : List Piece} {lead words : List String} (h : p.words = lead)
    (later : Spaced ps words) : Spaced (p :: ps) (lead ++ words) :=
  h ▸ .piece p later

namespace Vocabulary

variable {v : Vocabulary} {last : String} {joined typing : Bool} {words : List String}

/-- A recipe that stands at a phrase is not that of typed words. -/
theorem recipe_not_typing (hv : v.Built joined typing) {phrase : List String} {r : Recipe}
    (h : v.commands.tree.get? phrase = some r) (joined' : Bool) : r ≠ .typing joined' := by
  rintro rfl
  rcases hv.recipes phrase _ h with hline | ⟨style, he⟩ | ⟨he, -⟩
  · exact absurd hline (by simp [Recipe.isOfLine])
  · cases he
  · cases he

/-- **An empty word is read alone.** -/
theorem pieces_empty (ht : v.commands.tree.Full) (last : String) (words : List String) :
    v.pieces last ("" :: words) = (if v.typing then Piece.typed "" else .dropped "") :: v.pieces last words :=
  pieces_alone (longest_of_scan (PhraseTree.scan_empty ht words))

section
variable {phrase after : List String} {r : Recipe}

/-- A phrase is read with what its recipe makes of the words after it. -/
theorem phrase_made (hne : phrase ≠ []) (hscan : v.commands.tree.scan (phrase ++ after) = some (phrase.length, r))
    {used : Nat} {c : Command} (hm : r.make last after = .ok (used, c)) :
    v.pieces last (phrase ++ after) = .made phrase (after.take used) c :: v.pieces last (after.drop used) := by
  obtain ⟨w, more, rfl⟩ := List.exists_cons_of_ne_nil hne
  rw [List.cons_append] at hscan ⊢
  rw [pieces_made (longest_of_scan hscan) (by simpa using hm)]
  simp

/-- A phrase is read alone where the words after it do not fit. -/
theorem phrase_rejected (hne : phrase ≠ []) (hscan : v.commands.tree.scan (phrase ++ after) = some (phrase.length, r))
    {e : SpokenError} (hm : r.make last after = .error (.spoken e)) :
    v.pieces last (phrase ++ after) = .rejected phrase e :: v.pieces last after := by
  obtain ⟨w, more, rfl⟩ := List.exists_cons_of_ne_nil hne
  rw [List.cons_append] at hscan ⊢
  rw [pieces_rejected (longest_of_scan hscan) (by simpa using hm)]
  simp

/-- A phrase is the last one that is read where its recipe fails. -/
theorem phrase_failed (hne : phrase ≠ []) (hscan : v.commands.tree.scan (phrase ++ after) = some (phrase.length, r))
    {fault : Fault} (hm : r.make last after = .error fault) (hf : ∀ e, fault ≠ .spoken e) :
    v.pieces last (phrase ++ after) = [.failed (phrase ++ after) fault] := by
  obtain ⟨w, more, rfl⟩ := List.exists_cons_of_ne_nil hne
  rw [List.cons_append] at hscan ⊢
  exact pieces_failed (longest_of_scan hscan) (by simpa using hm) hf

end

/-- A phrase that is found once the empty words are gone is found with them, if it is there. -/
theorem scan_spaced (ht : v.commands.tree.Full) {phrase after words : List String} {r : Recipe}
    (h : v.commands.tree.scan (phrase ++ after) = some (phrase.length, r))
    (hwords : (phrase ++ words).filter (· ≠ "") = phrase ++ after) :
    v.commands.tree.scan (phrase ++ words) = some (phrase.length, r) := by
  rw [← hwords] at h
  refine PhraseTree.scan_full ht h ?_
  rw [hwords, List.take_left]
  exact List.prefix_append phrase words

/-- **A piece is read again** before words that are the same as those after it once the empty ones are gone: it makes
the same commands and fails alike, and what is read after it is what is left, or nothing after a failure. -/
def Reread (v : Vocabulary) (last : String) (joined : Bool) (p : Piece) (ps : List Piece) (words : List String) :
    Prop :=
  ∃ q later, v.pieces last (p.words ++ words) = q :: later ∧
    (q.commands joined).filter (!·.isHollow) = p.commands joined ∧ q.fault? = p.fault? ∧
    (ps = v.pieces last (words.filter (· ≠ "")) ∧ later = v.pieces last words ∨ ps = [] ∧ later = [])

/-- A word that starts no phrase starts none with empty words after it. -/
theorem reread_alone (ht : v.commands.tree.Full) {w : String} (hne : w ≠ "")
    (hscan : v.commands.tree.scan (w :: words.filter (· ≠ "")) = none) :
    v.Reread last joined (if v.typing then .typed w else .dropped w) (v.pieces last (words.filter (· ≠ ""))) words := by
  have hword : (if v.typing then Piece.typed w else .dropped w).words = [w] := by split <;> rfl
  have hnone : v.commands.tree.scan (w :: words) = none :=
    PhraseTree.scan_full_none ht (by rwa [List.filter_cons_of_pos (by simpa using hne)])
  refine ⟨_, _, ?_, ?_, rfl, .inl ⟨rfl, rfl⟩⟩
  · rw [hword]
    exact pieces_alone (longest_of_scan hnone)
  · cases v.typing with
    | true => simp [Piece.commands, Command.isHollow, hne]
    | false => rfl

variable {phrase used after : List String} {r : Recipe}

/-- What does not fit once the empty words are gone does not fit with them. -/
theorem reread_rejected (ht : v.commands.tree.Full) (hr : ∀ joined, r ≠ .typing joined) (hne : phrase ≠ [])
    (hfull : "" ∉ phrase) (hscan : v.commands.tree.scan (phrase ++ words.filter (· ≠ "")) = some (phrase.length, r))
    {e : SpokenError} (hm : r.make last (words.filter (· ≠ "")) = .error (.spoken e)) :
    v.Reread last joined (.rejected phrase e) (v.pieces last (words.filter (· ≠ ""))) words := by
  obtain ⟨e', hm'⟩ : ∃ e', r.make last words = .error (.spoken e') := by
    by_contra hfits
    obtain ⟨used, hsettled, -⟩ := Recipe.make_settled hr fun e' he => hfits ⟨e', he⟩
    have hsame := hsettled.read_eq (prefix_filter hsettled.full hsettled.leads)
    exact hfits ⟨e, hsame.symm.trans hm⟩
  refine ⟨.rejected phrase e', v.pieces last words, ?_, rfl, rfl, .inl ⟨rfl, rfl⟩⟩
  show v.pieces last (phrase ++ words) = _
  exact phrase_rejected hne (scan_spaced ht hscan (by rw [List.filter_append, filter_full hfull])) hm'

/-- What a recipe makes of its words it makes whatever follows them. -/
theorem reread_made (ht : v.commands.tree.Full) (hr : ∀ joined, r ≠ .typing joined) (hne : phrase ≠ [])
    (hfull : "" ∉ phrase)
    (hscan : v.commands.tree.scan (phrase ++ (used ++ words.filter (· ≠ ""))) = some (phrase.length, r))
    (hsettled : SettledBy (r.make last) used (used ++ words.filter (· ≠ ""))) {c : Command}
    (hm : r.make last (used ++ words.filter (· ≠ "")) = .ok (used.length, c)) :
    v.Reread last joined (.made phrase used c) (v.pieces last (words.filter (· ≠ ""))) words := by
  have hm' : r.make last (used ++ words) = .ok (used.length, c) := (hsettled.same words).trans hm
  refine ⟨.made phrase used c, v.pieces last words, ?_, ?_, rfl, .inl ⟨rfl, rfl⟩⟩
  · have hkept : (phrase ++ (used ++ words)).filter (· ≠ "") = phrase ++ (used ++ words.filter (· ≠ "")) := by
      rw [List.filter_append, List.filter_append, filter_full hfull, filter_full hsettled.full]
    show v.pieces last (phrase ++ used ++ words) = _
    rw [List.append_assoc, phrase_made hne (scan_spaced ht hscan hkept) hm', List.take_left, List.drop_left]
  · have hsilent : c.isHollow = false := by
      rcases Recipe.make_cases hm with ⟨joined', rfl, -⟩ | ⟨-, -, rfl⟩ | ⟨hsilent, -⟩
      · exact absurd rfl (hr joined')
      · rfl
      · cases c with
        | typing ws joined' => exact absurd rfl (hsilent ws joined')
        | _ => rfl
    simp [Piece.commands, hsilent]

/-- What a recipe fails on it fails on whatever follows. -/
theorem reread_failed (ht : v.commands.tree.Full) (hne : phrase ≠ []) (hfull : "" ∉ phrase ++ after)
    (hscan : v.commands.tree.scan (phrase ++ after) = some (phrase.length, r)) (hnone : words.filter (· ≠ "") = [])
    (hsettled : SettledBy (r.make last) used after) {fault : Fault} (hm : r.make last after = .error fault)
    (hf : ∀ e, fault ≠ .spoken e) : v.Reread last joined (.failed (phrase ++ after) fault) [] words := by
  have hkept : (phrase ++ (after ++ words)).filter (· ≠ "") = phrase ++ after := by
    rw [← List.append_assoc, List.filter_append, filter_full hfull, hnone, List.append_nil]
  have hm' : r.make last (after ++ words) = .error fault :=
    (hsettled.read_eq (hsettled.leads.trans (List.prefix_append after words))).trans hm
  refine ⟨.failed (phrase ++ (after ++ words)) fault, [], ?_, rfl, rfl, .inr ⟨rfl, rfl⟩⟩
  show v.pieces last (phrase ++ after ++ words) = _
  rw [List.append_assoc, phrase_failed hne (scan_spaced ht hscan hkept) hm' hf]

/-- **Every piece is read again** where only empty words come in after it. -/
theorem read_piece (hv : v.Built joined typing) (ht : v.commands.tree.Full) {p : Piece} {ps : List Piece}
    (hfull : "" ∉ p.words) (hps : v.pieces last (p.words ++ words.filter (· ≠ "")) = p :: ps) :
    v.Reread last joined p ps words := by
  generalize hspoken : p.words ++ words.filter (· ≠ "") = spoken at hps
  cases hscan : v.commands.tree.scan spoken with
  | none =>
      cases spoken with
      | nil => simp [pieces] at hps
      | cons w rest =>
          rw [pieces_alone (longest_of_scan hscan)] at hps
          obtain ⟨rfl, rfl⟩ := List.cons.inj hps
          have hword : (if v.typing then Piece.typed w else .dropped w).words = [w] := by split <;> rfl
          rw [hword] at hspoken hfull
          obtain rfl := (List.cons.inj hspoken).2
          exact reread_alone ht (by simpa [eq_comm] using hfull) hscan
  | some found =>
      obtain ⟨n, r⟩ := found
      obtain ⟨phrase, hlongest, rfl⟩ := (PhraseTree.scan_some_iff _ _ _ _).mp hscan
      obtain ⟨after, rfl⟩ := hlongest.leads
      have hne := hlongest.nonempty
      have hphrase := ht phrase r hlongest.holds
      have hr := recipe_not_typing hv hlongest.holds
      by_cases hrejected : ∃ e, r.make last after = .error (.spoken e)
      · obtain ⟨e, hm⟩ := hrejected
        rw [phrase_rejected hne hscan hm] at hps
        obtain ⟨rfl, rfl⟩ := List.cons.inj hps
        obtain rfl : words.filter (· ≠ "") = after := List.append_cancel_left hspoken
        exact reread_rejected ht hr hne hphrase hscan hm
      · obtain ⟨used, hsettled, hcost⟩ := Recipe.make_settled hr fun e he => hrejected ⟨e, he⟩
        cases hm : r.make last after with
        | ok made =>
            obtain ⟨rest, rfl⟩ := hsettled.leads
            obtain ⟨cost, c⟩ := made
            obtain rfl := hcost _ _ hm
            rw [phrase_made hne hscan hm, List.take_left, List.drop_left] at hps
            obtain ⟨rfl, rfl⟩ := List.cons.inj hps
            simp only [Piece.words, List.append_assoc] at hspoken
            obtain rfl : words.filter (· ≠ "") = rest :=
              List.append_cancel_left (List.append_cancel_left hspoken)
            exact reread_made ht hr hne hphrase hscan hsettled hm
        | error fault =>
            have hf : ∀ e, fault ≠ .spoken e := fun e he => hrejected ⟨e, he ▸ hm⟩
            rw [phrase_failed hne hscan hm hf] at hps
            obtain ⟨rfl, rfl⟩ := List.cons.inj hps
            exact reread_failed ht hne hfull hscan (by simpa [Piece.words] using hspoken) hsettled hm hf

/-- **Empty words between pieces leave the pieces as they are**: what is read with them makes the same commands, but for
those that type a lone empty word, and fails alike. -/
theorem pieces_spaced (hv : v.Built joined typing) (ht : v.commands.tree.Full) {ps : List Piece}
    (h : Spaced ps words) (hps : v.pieces last (words.filter (· ≠ "")) = ps) :
    ((v.pieces last words).flatMap (Piece.commands joined)).filter (!·.isHollow)
        = ps.flatMap (Piece.commands joined) ∧
      (v.pieces last words).findSome? Piece.fault? = ps.findSome? Piece.fault? := by
  induction h with
  | nil => simp [pieces]
  | @empty ps words _ ih =>
      obtain ⟨hcommands, hfault⟩ := ih (by simpa using hps)
      rw [pieces_empty ht]
      cases v.typing with
      | true => simpa [Piece.commands, Command.isHollow] using ⟨hcommands, hfault⟩
      | false => simpa [Piece.commands] using ⟨hcommands, hfault⟩
  | @piece p ps words _ ih =>
      have hread := pieces_words v last ((p.words ++ words).filter (· ≠ ""))
      rw [hps, List.flatMap_cons, List.filter_append] at hread
      have hfull : "" ∉ p.words := by
        intro hmem
        have hkept : "" ∈ (p.words ++ words).filter (· ≠ "") := by
          rw [List.filter_append, ← hread]
          exact List.mem_append_left _ hmem
        simp at hkept
      rw [List.filter_append, filter_full hfull] at hps
      obtain ⟨q, later, hq, hcommands, hfault, ⟨rfl, rfl⟩ | ⟨rfl, rfl⟩⟩ := read_piece hv ht hfull hps
      · obtain ⟨hlater, hlaterFault⟩ := ih rfl
        simp only [hq, List.flatMap_cons, List.filter_append, hcommands, hlater, List.findSome?_cons, hfault,
          hlaterFault, and_self]
      · simp only [hq, List.flatMap_cons, List.filter_append, hcommands, List.findSome?_cons, hfault,
          List.flatMap_nil, List.filter_nil, and_self]

/-- Words are typed one by one before they are joined, as the vocabulary says. -/
theorem pieces_typed (hv : v.Built joined typing) {ws : List String} {joined' : Bool}
    (h : .typing ws joined' ∈ (v.pieces last words).flatMap (Piece.commands joined)) :
    ∃ w, ws = [w] ∧ joined' = joined := by
  obtain ⟨p, hp, hc⟩ := List.mem_flatMap.mp h
  cases p with
  | made phrase used c =>
      obtain rfl := List.mem_singleton.mp hc
      obtain ⟨r, after, n, hget, hmake, -⟩ := made_of_mem hp
      rcases Recipe.make_cases hmake with ⟨joined'', rfl, -⟩ | ⟨-, -, he⟩ | ⟨hne, -⟩
      · exact absurd rfl (recipe_not_typing hv hget joined'')
      · cases he
      · exact absurd rfl (hne ws joined')
  | typed w =>
      obtain ⟨rfl, rfl⟩ := Command.typing.inj (List.mem_singleton.mp hc)
      exact ⟨w, rfl, rfl⟩
  | _ => exact absurd hc (by simp [Piece.commands])

/-- **The commands of words with empty ones between the pieces** are those of the other words, once the empty words are
taken out of the typed ones, and compiling them fails alike. -/
theorem compileWords_spaced (hv : v.Built joined typing) (ht : v.commands.tree.Full)
    (h : Spaced (v.pieces last (words.filter (· ≠ ""))) words) :
    (v.compileWords last (words.filter (· ≠ ""))).commands
        = (v.compileWords last words).commands.filterMap Command.withoutEmpty ∧
      (v.compileWords last (words.filter (· ≠ ""))).fault = (v.compileWords last words).fault := by
  obtain ⟨hcommands, hfault⟩ := pieces_spaced hv ht h rfl
  obtain ⟨hfull, hfullFault⟩ := compileFrom_eq hv last [] [] words
  obtain ⟨hsolid, hsolidFault⟩ := compileFrom_eq hv last [] [] (words.filter (· ≠ ""))
  rw [foldl_push_nil] at hfull hsolid
  refine ⟨?_, hsolidFault.trans (hfault.symm.trans hfullFault.symm)⟩
  unfold compileWords
  rw [hsolid, hfull, ← hcommands]
  exact merge_withoutEmpty fun ws joined' hmem => pieces_typed hv hmem

end Vocabulary

end PadScribe
