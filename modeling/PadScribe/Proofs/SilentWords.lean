import PadScribe.Proofs.EmptyTexts
import PadScribe.Proofs.EmptyWords
import PadScribe.Proofs.Styling

/-!
# `Proofs.SilentWords` — whether empty words are silent

A phrase may be mapped to an empty word so that it is dropped. What is compiled with empty words between the pieces
of the others is what is compiled without them, but that typed words have empty ones among them. Whether both run
alike is decided where words are typed: they have to make the same text in each of these places. No place can make up
for another, because none makes a text without its empty words where it makes none with them.

Where words are joined without spaces, empty words are silent unless one of them opens a row of words for which a style
waits: then the style may go to the empty word instead of the next one. Where spaces come between words, an empty word
in a row of others leaves a space behind, so that without styles the only silent empty words are those that are typed
alone.

## Contents

* `parts_filter`, `split_filter`, `filter_apply` — empty words in a style
* `typedText_joined`, `typedText_spaced_iff` — texts with empty words and without
* `Deaf`, `stylesSince_withoutEmpty` — places that make the same text
* `perform_withoutEmpty`, `deaf_of_effects`, `perform_withoutEmpty_iff` — commands that run alike
* `deaf_joined`, `deaf_rows`, `deaf_spaced_iff` — places in rows with and without spaces
* `compileWords_rows`, `empty_words_silent_iff` — vocabularies as they are built
-/

namespace PadScribe

open CaseStyle

variable {words : List String} {styles : List CaseStyle} {joined : Bool}

/-! ## Texts with empty words and without -/

namespace CaseStyle

/-- Empty words have no parts. -/
theorem parts_filter (words : List String) : parts (words.filter (· ≠ "")) = parts words := by
  rw [parts_eq, parts_eq]
  congr 1
  induction words with
  | nil => rfl
  | cons w words ih =>
      by_cases hw : w = ""
      · rw [hw, List.filter_cons_of_neg (by simp), ih]
        rfl
      · rw [List.filter_cons_of_pos (by simpa using hw), List.flatMap_cons, List.flatMap_cons, ih]

/-- **A style that cuts words does not see empty ones.** -/
theorem split_filter {style : CaseStyle} (hs : style.splits = true) (words : List String) :
    style.apply (words.filter (· ≠ "")) = style.apply words := by
  cases style with
  | camel => simp only [apply, toCamel, parts_filter]
  | snake => simp only [apply, toSnake, parts_filter]
  | _ => cases hs

/-- A style that does not cut words leaves out empty words before or after, if none opens the row. -/
theorem filter_apply {style : CaseStyle} (hs : style.splits = false) (hopen : words.head? ≠ some "") :
    style.apply (words.filter (· ≠ "")) = (style.apply words).filter (· ≠ "") ∧
      (style.apply words).head? ≠ some "" := by
  cases style with
  | upper =>
      refine ⟨?_, fun hempty => ?_⟩
      · simp only [apply, toUpper, List.filter_map, Function.comp_def, upper_eq_empty, ne_eq]
      · obtain ⟨w, hw, hnone⟩ := Option.map_eq_some_iff.mp (List.head?_map ▸ hempty)
        rw [upper_eq_empty.mp hnone] at hw
        exact hopen hw
  | title =>
      cases words with
      | nil => exact ⟨rfl, by simp [apply, toTitle]⟩
      | cons w rest =>
          have hw : w ≠ "" := by simpa using hopen
          have htitled := titled_eq_empty.not.mpr hw
          rw [List.filter_cons_of_pos (by simpa using hw)]
          exact ⟨(List.filter_cons_of_pos (by simpa using htitled)).symm, by simpa [apply, toTitle] using htitled⟩
  | _ => cases hs

end CaseStyle

/-- Words joined without spaces make the same text without the empty ones. -/
theorem typedText_joined_plain (words : List String) :
    typedText [] (words.filter (· ≠ "")) true = typedText [] words true := by
  unfold typedText
  rw [List.foldl_nil, List.foldl_nil, ← String.toList_inj, String.toList_intercalate, String.toList_intercalate]
  show ([] : List Char).intercalate _ = ([] : List Char).intercalate _
  rw [Text.intercalate_nil, Text.intercalate_nil]
  induction words with
  | nil => rfl
  | cons w words ih =>
      by_cases hw : w = ""
      · simpa [hw] using ih
      · simpa [hw] using ih

/-- **Where words are joined without spaces**, a row that no empty word opens makes the same text without the empty
words, in any styles. -/
theorem typedText_joined (styles : List CaseStyle) (hopen : words.head? ≠ some "") :
    typedText styles (words.filter (· ≠ "")) true = typedText styles words true := by
  induction styles generalizing words with
  | nil => exact typedText_joined_plain words
  | cons style styles ih =>
      have happly : ∀ ws, typedText (style :: styles) ws true = typedText styles (style.apply ws) true := fun _ => rfl
      rw [happly, happly]
      cases hs : style.splits with
      | true => rw [split_filter hs]
      | false =>
          obtain ⟨hfilter, hlater⟩ := filter_apply hs hopen
          rw [hfilter, ih hlater]

/-- A joined text is as long as its texts with a separator after each, but for the last separator. -/
theorem Text.length_intercalate (x : Char) {qs : List (List Char)} (hne : qs ≠ []) :
    ([x].intercalate qs).length + 1 = (qs.map fun q => q.length + 1).sum := by
  induction qs with
  | nil => exact absurd rfl hne
  | cons q qs ih =>
      cases qs with
      | nil => simp
      | cons r rs =>
          have hrest := ih (by simp)
          rw [List.intercalate_cons_cons, List.map_cons, List.sum_cons, ← hrest]
          simp only [List.length_append, List.length_singleton]
          omega

/-- Words with spaces between them are as long as the words with a space after each, but for the last space. -/
theorem length_spaced (hne : words ≠ []) :
    (typedText [] words false).toList.length + 1 = (words.map fun w => w.toList.length + 1).sum := by
  unfold typedText
  rw [List.foldl_nil, String.toList_intercalate]
  show ([' '].intercalate _).length + 1 = _
  rw [Text.length_intercalate ' ' (by simpa using hne), List.map_map]
  rfl

/-- Every empty word takes one space. -/
theorem sum_filter (words : List String) : (words.map fun w => w.toList.length + 1).sum
    = ((words.filter (· ≠ "")).map fun w => w.toList.length + 1).sum + words.count "" := by
  induction words with
  | nil => rfl
  | cons w words ih =>
      rw [List.map_cons, List.sum_cons, ih]
      by_cases hw : w = ""
      · simp [hw]
        omega
      · simp [hw]
        omega

/-- **Where spaces come between words**, a row makes the same text without its empty words when it has none, or is a
lone one. -/
theorem typedText_spaced_iff :
    typedText [] (words.filter (· ≠ "")) false = typedText [] words false ↔ "" ∉ words ∨ words = [""] := by
  constructor
  · intro hsame
    by_contra! hempty
    obtain ⟨hmem, hmore⟩ := hempty
    by_cases hnone : words.filter (· ≠ "") = []
    · -- a row that has only empty words puts spaces between them
      rw [hnone, typedText_plain.mpr ⟨by simp [Blank], .inr (Nat.zero_le _)⟩] at hsame
      obtain ⟨hblank, hone⟩ := typedText_plain.mp hsame.symm
      obtain ⟨w, rfl⟩ : ∃ w, words = [w] := by
        rw [← List.length_eq_one_iff]
        have hpos := List.length_pos_of_mem hmem
        have hle := hone.resolve_left (by simp)
        omega
      exact hmore (by rw [hblank w List.mem_cons_self])
    · have hlength : (typedText [] (words.filter (· ≠ "")) false).toList.length + 1
          = (typedText [] words false).toList.length + 1 := by rw [hsame]
      rw [length_spaced hnone, length_spaced (List.ne_nil_of_mem hmem), sum_filter words] at hlength
      have hcount := List.count_pos_iff.mpr hmem
      omega
  · rintro (hfull | rfl)
    · rw [filter_full hfull]
    · rfl

/-! ## Places -/

/-- **A place is deaf to empty words**: what is typed there makes the same text with its empty words and without, in the
styles that wait there with the empty words before it and without. -/
def Deaf (before : List Command) (words : List String) (joined : Bool) : Prop :=
  typedText (stylesSince before) words joined
    = typedText (stylesSince (before.filterMap Command.withoutEmpty)) (words.filter (· ≠ "")) joined

namespace Command

theorem withoutEmpty_silent {c : Command} (h : c.types = false) : c.withoutEmpty = some c := by
  cases c with
  | typing => cases h
  | _ => rfl

theorem withoutEmpty_typing (words : List String) (joined : Bool) : (typing words joined).withoutEmpty
    = if words.filter (· ≠ "") = [] then none else some (.typing (words.filter (· ≠ "")) joined) := rfl

end Command

/-- **A row of empty words alone passes its styles on** to the next row: without empty words a place may have more
styles in front of its own, and no others. -/
theorem stylesSince_withoutEmpty (before : List Command) :
    stylesSince before <:+ stylesSince (before.filterMap Command.withoutEmpty) := by
  induction before using List.reverseRecOn with
  | nil => exact List.suffix_rfl
  | append_singleton before c ih =>
      rw [stylesSince_concat, List.filterMap_append]
      cases hc : c.types with
      | true =>
          cases c with
          | typing => exact List.nil_suffix
          | _ => cases hc
      | false =>
          rw [List.filterMap_cons_some (Command.withoutEmpty_silent hc), List.filterMap_nil, stylesSince_concat,
            Command.waiting_silent hc, Command.waiting_silent hc]
          obtain ⟨more, hmore⟩ := ih
          exact ⟨more, by rw [← hmore, List.append_assoc]⟩

/-! ## Commands that run alike -/

theorem typedText_nil (styles : List CaseStyle) (joined : Bool) : typedText styles [] joined = "" := by
  have hplain : typedText [] [] joined = "" := typedText_plain.mpr ⟨by simp [Blank], .inr (Nat.zero_le _)⟩
  exact typedText_stays_empty List.nil_suffix hplain

variable {desk : Desk}

/-- Typed words do what their text does, also where there are none. -/
theorem Command.run_typing (styles : List CaseStyle) (words : List String) (joined : Bool) :
    (typing words joined).run desk styles = typeText desk (typedText styles words joined) := by
  cases words with
  | nil => rw [typedText_nil]; rfl
  | cons w words => rfl

/-- **Commands run alike without their empty words** where every place is deaf to them. -/
theorem perform_withoutEmpty {commands : List Command} (before : List Command)
    (h : ∀ between ws joined after, commands = between ++ .typing ws joined :: after →
      Deaf (before ++ between) ws joined) :
    perform desk (stylesSince before) commands
      = perform desk (stylesSince (before.filterMap Command.withoutEmpty))
          (commands.filterMap Command.withoutEmpty) := by
  induction commands generalizing before with
  | nil => rfl
  | cons c rest ih =>
      have hrest := ih (before ++ [c]) fun between ws joined after he => by
        have hplace := h (c :: between) ws joined after (by rw [he, List.cons_append])
        rwa [List.append_assoc]
      rw [stylesSince_concat, List.filterMap_append] at hrest
      rw [perform_cons_run, hrest]
      cases hc : c.types with
      | false =>
          have hwhole := Command.withoutEmpty_silent hc
          rw [List.filterMap_cons_some hwhole, List.filterMap_cons_some hwhole, List.filterMap_nil,
            stylesSince_concat, perform_cons_run, Command.run_silent hc, Command.run_silent hc (stylesSince _)]
      | true =>
          cases c with
          | typing ws joined =>
              have hdeaf : Deaf before ws joined := by simpa using h [] ws joined rest rfl
              have hwithout := Command.withoutEmpty_typing ws joined
              rw [Command.run_typing, hdeaf]
              by_cases hnone : ws.filter (· ≠ "") = []
              · rw [if_pos hnone] at hwithout
                rw [List.filterMap_cons_none hwithout, List.filterMap_cons_none hwithout, List.filterMap_nil,
                  List.append_nil, hnone, typedText_nil]
                rfl
              · rw [if_neg hnone] at hwithout
                rw [List.filterMap_cons_some hwithout, List.filterMap_cons_some hwithout, List.filterMap_nil,
                  stylesSince_concat, perform_cons_run, Command.run_typing]
          | _ => cases hc

/-- What a command without its empty words makes reach the outside. -/
def Command.effectsWithout (desk : Desk) (styles : List CaseStyle) (c : Command) : List Effect :=
  (c.withoutEmpty.map (·.effects desk styles)).getD []

/-- Typed words reach the quiet desk as their text, if they make one. -/
theorem effects_typing (styles : List CaseStyle) (words : List String) (joined : Bool) :
    (Command.typing words joined).effects .quiet styles
      = if typedText styles words joined = "" then [] else [.typeText (typedText styles words joined)] := by
  simp only [Command.effects]
  by_cases hnone : words = []
  · rw [hnone, typedText_nil]
    simp
  · simp only [hnone, false_or]
    rfl

theorem effectsWithout_typing (styles : List CaseStyle) (words : List String) (joined : Bool) :
    (Command.typing words joined).effectsWithout .quiet styles
      = if typedText styles (words.filter (· ≠ "")) joined = "" then []
        else [.typeText (typedText styles (words.filter (· ≠ "")) joined)] := by
  rw [Command.effectsWithout, Command.withoutEmpty_typing, ← effects_typing]
  by_cases hnone : words.filter (· ≠ "") = []
  · rw [if_pos hnone, hnone]
    rfl
  · rw [if_neg hnone]
    rfl

/-- What commands without their empty words make reach the outside, from the first of them on. -/
theorem effectsOf_withoutEmpty (desk : Desk) (before : List Command) (c : Command) (rest : List Command) :
    effectsOf desk (stylesSince (before.filterMap Command.withoutEmpty))
        ((c :: rest).filterMap Command.withoutEmpty)
      = c.effectsWithout desk (stylesSince (before.filterMap Command.withoutEmpty))
        ++ effectsOf desk (stylesSince ((before ++ [c]).filterMap Command.withoutEmpty))
          (rest.filterMap Command.withoutEmpty) := by
  cases hc : c.withoutEmpty with
  | none => simp [Command.effectsWithout, hc]
  | some d => simp [Command.effectsWithout, hc, effectsOf, stylesSince_concat]

theorem effectsOf_cons_place (desk : Desk) (before : List Command) (c : Command) (rest : List Command) :
    effectsOf desk (stylesSince before) (c :: rest)
      = c.effects desk (stylesSince before) ++ effectsOf desk (stylesSince (before ++ [c])) rest := by
  rw [effectsOf, stylesSince_concat]

/-- A command makes no less reach the outside with its empty words than without. -/
theorem effectsWithout_le (before : List Command) (c : Command) :
    (c.effectsWithout .quiet (stylesSince (before.filterMap Command.withoutEmpty))).length
      ≤ (c.effects .quiet (stylesSince before)).length := by
  cases hc : c.types with
  | false =>
      rw [Command.effectsWithout, Command.withoutEmpty_silent hc, Option.map_some, Option.getD_some,
        Command.effects_silent hc, Command.effects_silent hc (stylesSince before)]
  | true =>
      cases c with
      | typing ws joined =>
          rw [effectsWithout_typing, effects_typing]
          by_cases hempty : typedText (stylesSince before) ws joined = ""
          · rw [if_pos (typedText_stays_empty (stylesSince_withoutEmpty before) hempty), if_pos hempty]
          · rw [if_neg hempty]
            split
            · exact Nat.zero_le _
            · exact Nat.le_refl _
      | _ => cases hc

theorem effectsOf_le (commands before : List Command) :
    (effectsOf .quiet (stylesSince (before.filterMap Command.withoutEmpty))
      (commands.filterMap Command.withoutEmpty)).length
      ≤ (effectsOf .quiet (stylesSince before) commands).length := by
  induction commands generalizing before with
  | nil => exact Nat.le_refl _
  | cons c rest ih =>
      have hfirst := effectsWithout_le before c
      have hrest := ih (before ++ [c])
      rw [effectsOf_withoutEmpty, effectsOf_cons_place, List.length_append, List.length_append]
      omega

/-- Where commands reach the outside alike without their empty words, so do the first of them and the others. No command
makes more reach the outside without its empty words, so that none makes up for another. -/
theorem effects_apart {before rest : List Command} {c : Command}
    (h : effectsOf .quiet (stylesSince before) (c :: rest)
      = effectsOf .quiet (stylesSince (before.filterMap Command.withoutEmpty))
          ((c :: rest).filterMap Command.withoutEmpty)) :
    c.effects .quiet (stylesSince before)
        = c.effectsWithout .quiet (stylesSince (before.filterMap Command.withoutEmpty)) ∧
      effectsOf .quiet (stylesSince (before ++ [c])) rest
        = effectsOf .quiet (stylesSince ((before ++ [c]).filterMap Command.withoutEmpty))
            (rest.filterMap Command.withoutEmpty) := by
  rw [effectsOf_withoutEmpty, effectsOf_cons_place] at h
  refine List.append_inj h ?_
  have hlength := congrArg List.length h
  have hfirst := effectsWithout_le before c
  have hrest := effectsOf_le rest (before ++ [c])
  rw [List.length_append, List.length_append] at hlength
  omega

/-- A place whose words reach the outside alike is deaf to the empty ones. -/
theorem deaf_here {before : List Command} {ws : List String} {joined : Bool}
    (h : (Command.typing ws joined).effects .quiet (stylesSince before)
      = (Command.typing ws joined).effectsWithout .quiet
          (stylesSince (before.filterMap Command.withoutEmpty))) : Deaf before ws joined := by
  rw [effects_typing, effectsWithout_typing] at h
  unfold Deaf
  split at h
  · next hempty =>
    split at h
    · next hwithout => rw [hempty, hwithout]
    · cases h
  · split at h
    · cases h
    · simpa using h

/-- **Commands that reach the outside alike without their empty words** are deaf to them in every place. -/
theorem deaf_of_effects {commands between later : List Command} {ws : List String} {joined : Bool}
    (before : List Command) (h : effectsOf .quiet (stylesSince before) commands
      = effectsOf .quiet (stylesSince (before.filterMap Command.withoutEmpty))
          (commands.filterMap Command.withoutEmpty))
    (hplace : commands = between ++ .typing ws joined :: later) : Deaf (before ++ between) ws joined := by
  subst hplace
  induction between generalizing before with
  | nil =>
      rw [List.append_nil]
      exact deaf_here (effects_apart h).1
  | cons c between ih =>
      have hlater := ih (before ++ [c]) (effects_apart h).2
      rwa [List.append_assoc] at hlater

/-- **Commands run alike without their empty words** at every desk exactly when every place is deaf to them. -/
theorem perform_withoutEmpty_iff (commands : List Command) :
    (∀ desk, perform desk [] commands = perform desk [] (commands.filterMap Command.withoutEmpty)) ↔
      ∀ before ws joined after, commands = before ++ .typing ws joined :: after → Deaf before ws joined := by
  constructor
  · intro h before ws joined after hplace
    have hd : Desk.quiet.Works := plain_works _
    have hsame := congrFun (h .quiet) {}
    rw [perform_works hd, perform_works hd] at hsame
    have hrecord : effectsOf .quiet [] commands
        = effectsOf .quiet [] (commands.filterMap Command.withoutEmpty) := by
      simpa using congrArg Studio.record (EStateM.Result.ok.inj hsame).2
    exact deaf_of_effects [] hrecord hplace
  · intro h desk
    exact perform_withoutEmpty [] h

/-! ## Places without styles, and rows that other words open -/

/-- No row of empty words alone passes styles on where none wait for one. -/
theorem stylesSince_kept {before : List Command} (h : ∀ earlier ws joined later,
    before = earlier ++ .typing ws joined :: later → stylesSince earlier = [] ∨ ws.filter (· ≠ "") ≠ []) :
    stylesSince (before.filterMap Command.withoutEmpty) = stylesSince before := by
  induction before using List.reverseRecOn with
  | nil => rfl
  | append_singleton before c ih =>
      have hbefore := ih fun earlier ws joined later he => h earlier ws joined (later ++ [c]) (by simp [he])
      rw [stylesSince_concat, List.filterMap_append]
      cases hc : c.types with
      | false =>
          rw [List.filterMap_cons_some (Command.withoutEmpty_silent hc), List.filterMap_nil, stylesSince_concat,
            hbefore]
      | true =>
          cases c with
          | typing ws joined =>
              have hwithout := Command.withoutEmpty_typing ws joined
              by_cases hnone : ws.filter (· ≠ "") = []
              · rw [if_pos hnone] at hwithout
                have hstyles := (h before ws joined [] rfl).resolve_right (not_not_intro hnone)
                rw [List.filterMap_cons_none hwithout, List.filterMap_nil, List.append_nil, hbefore, hstyles]
                rfl
              · rw [if_neg hnone] at hwithout
                rw [List.filterMap_cons_some hwithout, List.filterMap_nil, stylesSince_concat]
                rfl
          | _ => cases hc

/-- Joining typed words leaves no row without words, and types it as its words are typed. -/
theorem merge_rows {joined : Bool} {cs : List Command}
    (h : ∀ ws joined', .typing ws joined' ∈ cs → ws ≠ [] ∧ joined' = joined) {ws : List String} {joined' : Bool}
    (hm : .typing ws joined' ∈ merge cs) : ws ≠ [] ∧ joined' = joined := by
  fun_induction merge cs with
  | case1 => cases hm
  | case2 c cs hc ih =>
      rcases List.mem_cons.mp hm with he | hm
      · obtain ⟨ws', joined'', rfl, -⟩ := isPlain_typing hc
        obtain ⟨rfl, rfl⟩ := Command.typing.inj he
        obtain ⟨hne, hjoined⟩ := h ws' _ List.mem_cons_self
        exact ⟨by simp [hne], hjoined⟩
      · exact ih (fun ws' joined'' hmem =>
          h ws' joined'' (List.mem_cons_of_mem c ((List.dropWhile_sublist _).subset hmem))) hm
  | case3 c cs hc ih =>
      rcases List.mem_cons.mp hm with rfl | hm
      · exact h ws joined' List.mem_cons_self
      · exact ih (fun ws' joined'' hmem => h ws' joined'' (List.mem_cons_of_mem c hmem)) hm

/-- A place of words joined without spaces is deaf to empty words if no style waits where one opens a row. -/
theorem deaf_joined {before : List Command} {ws : List String} (hkept :
    stylesSince (before.filterMap Command.withoutEmpty) = stylesSince before)
    (hopen : stylesSince before = [] ∨ ws.head? ≠ some "") : Deaf before ws true := by
  unfold Deaf
  rw [hkept]
  rcases hopen with hnone | hopen
  · rw [hnone, typedText_joined_plain]
  · rw [typedText_joined _ hopen]

/-- **Every place of words joined without spaces is deaf** to empty words, if no style waits where one opens a row. -/
theorem deaf_rows {commands before after : List Command} {ws : List String}
    (hrows : ∀ ws joined, .typing ws joined ∈ commands → ws ≠ [] ∧ joined = true)
    (hopen : ∀ before ws after, commands = before ++ .typing ("" :: ws) true :: after → stylesSince before = [])
    (hplace : commands = before ++ .typing ws joined :: after) : Deaf before ws joined := by
  -- a row has a first word, which is empty only where no style waits
  have hrow : ∀ before ws joined after, commands = before ++ .typing ws joined :: after →
      ws ≠ [] ∧ joined = true ∧ (stylesSince before = [] ∨ ws.head? ≠ some "") := by
    intro before ws joined after hplace
    obtain ⟨hne, rfl⟩ := hrows ws joined (by simp [hplace])
    refine ⟨hne, rfl, ?_⟩
    cases ws with
    | nil => exact absurd rfl hne
    | cons w ws =>
        by_cases hw : w = ""
        · exact .inl (hopen before ws after (hw ▸ hplace))
        · exact .inr (by simpa using hw)
  obtain ⟨-, rfl, hhere⟩ := hrow before ws joined after hplace
  refine deaf_joined (stylesSince_kept fun earlier ws' joined' later he => ?_) hhere
  obtain ⟨hne, -, hfirst⟩ := hrow earlier ws' joined' (later ++ .typing ws true :: after) (by simp [hplace, he])
  refine hfirst.imp_right fun hhead => ?_
  obtain ⟨w, rest, rfl⟩ := List.exists_cons_of_ne_nil hne
  have hw : w ≠ "" := by simpa using hhead
  simp [hw]

/-- No style waits where none is asked for. -/
theorem stylesSince_none {before : List Command} (h : ∀ style, .style style ∉ before) : stylesSince before = [] := by
  unfold stylesSince
  rw [List.filterMap_eq_nil_iff]
  intro c hc
  cases c with
  | style s => exact absurd ((List.rtakeWhile_suffix _ before).subset hc) (h s)
  | _ => rfl

/-- A place of words with spaces between them, where no style was asked for, is deaf to empty words if there are none or
a lone one. -/
theorem deaf_spaced_iff {before : List Command} {ws : List String} (h : ∀ style, .style style ∉ before) :
    Deaf before ws false ↔ "" ∉ ws ∨ ws = [""] := by
  have hwithout : ∀ style, .style style ∉ before.filterMap Command.withoutEmpty := by
    intro style hmem
    obtain ⟨c, hc, he⟩ := List.mem_filterMap.mp hmem
    cases c with
    | typing ws' joined' =>
        rw [Command.withoutEmpty_typing] at he
        split at he
        · cases he
        · cases he
    | style s =>
        cases he
        exact h _ hc
    | _ => cases he
  unfold Deaf
  rw [stylesSince_none h, stylesSince_none hwithout, eq_comm, typedText_spaced_iff]

/-! ## Vocabularies -/

namespace Vocabulary

variable {v : Vocabulary} {typing : Bool}

/-- No row of typed words is without words, and all of them are joined as the vocabulary joins words. -/
theorem compileWords_rows (hb : v.Built joined typing) {last : String} {ws : List String} {joined' : Bool}
    (h : .typing ws joined' ∈ (v.compileWords last words).commands) : ws ≠ [] ∧ joined' = joined := by
  have hmerge : (v.compileWords last words).commands = _ :=
    (compileFrom_eq hb last [] [] words).1.trans (foldl_push_nil _)
  rw [hmerge] at h
  refine merge_rows (fun ws joined' hin => ?_) h
  obtain ⟨w, rfl, hjoined⟩ := pieces_typed hb hin
  exact ⟨by simp, hjoined⟩

/-- **When words mapped to nothing are silent.** No command phrase holds an empty word, and every empty word stands
between two pieces of what is read without them. Then the commands are those of the other words, with empty words among
the typed ones, and compiling them fails alike. They run as without the empty words, at every desk and from every state,
exactly when every place where words are typed makes the same text with its empty words and without. Where words are
joined without spaces, this is so if no style waits where an empty word opens a row. Where spaces come between words and
no style is asked for, it is so exactly when no row of typed words has an empty word, but for a lone one. -/
theorem empty_words_silent_iff {mappings : List (String × List Json)} {ids : List String} {castNumbers : Bool}
    (hv : build mappings ids castNumbers joined typing = .ok v) (ht : v.commands.tree.Full) (last : String)
    (h : Spaced (v.pieces last (words.filter (· ≠ ""))) words) :
    let full := v.compileWords last words
    let solid := v.compileWords last (words.filter (· ≠ ""))
    solid.commands = full.commands.filterMap Command.withoutEmpty ∧ solid.fault = full.fault ∧
    ((∀ desk, perform desk [] full.commands = perform desk [] solid.commands) ↔
      ∀ before ws joined after, full.commands = before ++ .typing ws joined :: after → Deaf before ws joined) ∧
    (joined = true → (∀ before ws after, full.commands = before ++ .typing ("" :: ws) true :: after →
        stylesSince before = []) →
      ∀ desk, perform desk [] full.commands = perform desk [] solid.commands) ∧
    (joined = false → (∀ style, .style style ∉ full.commands) →
      ((∀ desk, perform desk [] full.commands = perform desk [] solid.commands) ↔
        ∀ ws, .typing ws false ∈ full.commands → "" ∉ ws ∨ ws = [""])) := by
  intro full solid
  have hb := build_built hv
  obtain ⟨hcommands, hfault⟩ := compileWords_spaced hb ht h
  have hiff := perform_withoutEmpty_iff full.commands
  rw [← show solid.commands = _ from hcommands] at hiff
  have hrows : ∀ ws joined', .typing ws joined' ∈ full.commands → ws ≠ [] ∧ joined' = joined :=
    fun _ _ => compileWords_rows hb
  refine ⟨hcommands, hfault, hiff, fun hjoined hopen => hiff.mpr ?_, fun hjoined hplain => hiff.trans ?_⟩
  · subst hjoined
    exact fun before ws joined after => deaf_rows hrows hopen
  · subst hjoined
    constructor
    · intro hdeaf ws hmem
      obtain ⟨before, after, hplace⟩ := List.append_of_mem hmem
      exact (deaf_spaced_iff fun style hin => hplain style (by simp [hplace, hin])).mp
        (hdeaf before ws false after hplace)
    · intro hall before ws joined after hplace
      have hmem : .typing ws joined ∈ full.commands := by simp [hplace]
      obtain ⟨-, rfl⟩ := hrows ws joined hmem
      exact (deaf_spaced_iff fun style hin => hplain style (by simp [hplace, hin])).mpr (hall ws hmem)

/-- A word that is dropped, and a hotkey that is spoken. -/
def droppingLines : List (String × List Json) :=
  [("m", [.str "the -> \"\"", .str "press -> [hotkey]"])]

/-- Empty words before a hotkey and among typed words. -/
def droppingWords : List String :=
  ["", "press", "control", "a", "open", "", "window"]

theorem empty_words_silent_joined : ∃ v, build droppingLines ["m"] true true true = .ok v ∧ v.commands.tree.Full ∧
    v.mapped "the press control a open the window" = droppingWords ∧
    Spaced (v.pieces "" (droppingWords.filter (· ≠ ""))) droppingWords ∧
    ∀ desk, perform desk [] (v.compileWords "" droppingWords).commands
      = perform desk [] (v.compileWords "" (droppingWords.filter (· ≠ ""))).commands := by
  have h : (match build droppingLines ["m"] true true true with
      | .ok v =>
        v.commands.tree.children.all (fun c => c.1 != "" && c.2.children.isEmpty) &&
        v.mapped "the press control a open the window" == droppingWords &&
        (v.pieces "" (droppingWords.filter (· ≠ ""))).map Piece.words
          == [["press", "control", "a"], ["open"], ["window"]] &&
        (v.compileWords "" droppingWords).commands.all (·.style?.isNone)
      | .error _ => false) = true := by decide +kernel
  split at h
  · next v hv =>
    simp only [Bool.and_eq_true, beq_iff_eq] at h
    obtain ⟨⟨⟨htree, hmapped⟩, hpieces⟩, hplain⟩ := h
    have hfull := PhraseTree.full_of_single htree
    have hspaced : Spaced (v.pieces "" (droppingWords.filter (· ≠ ""))) droppingWords := by
      obtain ⟨p, ps, hps, hp, hrest⟩ := List.map_eq_cons_iff.mp hpieces
      obtain ⟨q, qs, rfl, hq, hrest⟩ := List.map_eq_cons_iff.mp hrest
      obtain ⟨r, rs, rfl, hr, hrest⟩ := List.map_eq_cons_iff.mp hrest
      obtain rfl := List.map_eq_nil_iff.mp hrest
      rw [hps]
      exact .empty (.next hp (.next hq (.empty (.next hr .nil))))
    refine ⟨v, hv, hfull, hmapped, hspaced, ?_⟩
    refine (empty_words_silent_iff hv hfull "" hspaced).2.2.2.1 rfl fun before ws after hplace => ?_
    refine stylesSince_none fun style hmem => ?_
    have hnone := List.all_eq_true.mp hplain (.style style) (by simp [hplace, hmem])
    cases hnone
  · cases h

/-- With spaces between words, a word that is dropped leaves its space behind. -/
theorem empty_word_leaves_space : ∃ v, build droppingLines ["m"] true false true = .ok v ∧ v.commands.tree.Full ∧
    v.mapped "close the window" = ["close", "", "window"] ∧
    ¬ ∀ desk, perform desk [] (v.compileWords "" ["close", "", "window"]).commands
      = perform desk [] (v.compileWords "" (["close", "", "window"].filter (· ≠ ""))).commands := by
  have h : (match build droppingLines ["m"] true false true with
      | .ok v =>
        v.commands.tree.children.all (fun c => c.1 != "" && c.2.children.isEmpty) &&
        v.mapped "close the window" == ["close", "", "window"] &&
        (effectsOf .quiet [] (v.compileWords "" ["close", "", "window"]).commands).map Effect.typed?
          == [some "close  window"] &&
        (effectsOf .quiet [] (v.compileWords "" (["close", "", "window"].filter (· ≠ ""))).commands).map
          Effect.typed? == [some "close window"]
      | .error _ => false) = true := by decide +kernel
  split at h
  · next v hv =>
    simp only [Bool.and_eq_true, beq_iff_eq] at h
    obtain ⟨⟨⟨htree, hmapped⟩, hwith⟩, hwithout⟩ := h
    refine ⟨v, hv, PhraseTree.full_of_single htree, hmapped, fun hall => ?_⟩
    have hd : Desk.quiet.Works := plain_works _
    have hsame := congrFun (hall .quiet) {}
    rw [perform_works hd, perform_works hd] at hsame
    have hrecord : effectsOf .quiet [] (v.compileWords "" ["close", "", "window"]).commands
        = effectsOf .quiet [] (v.compileWords "" (["close", "", "window"].filter (· ≠ ""))).commands :=
      congrArg Studio.record (EStateM.Result.ok.inj hsame).2
    rw [hrecord, hwithout] at hwith
    exact absurd hwith (by decide)
  · cases h

end Vocabulary

end PadScribe
