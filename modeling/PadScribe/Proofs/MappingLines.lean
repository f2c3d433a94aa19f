import Mathlib.Data.Set.List
import PadScribe.Proofs.PhraseSets
import PadScribe.Proofs.Quoting
import PadScribe.Proofs.Stalling

/-!
# `Proofs.MappingLines` — what word-mapping lines say

A word-mapping line gives a phrase: words that replace it, or a command that it makes, depending on the first word of
its right side. This file says what each line gives, and which lines give nothing, without the order in which a line
is checked. A vocabulary is then a history of phrases, one for each line of its mappings, which a phrase is looked up
in from the end: the last line that has it wins. Replacements and commands are two histories, so that a line of one
kind never hides one of the other. The commands that every vocabulary has come last and hide what lines say about
their tags.

## Contents

* `Text.OneArrow`, `Text.Sides`, `Text.sides_ok_iff` — the two sides of a line
* `Entry`, `Right`, `Says` — what a line gives
* `BadRight`, `Malformed`, `Says.not_malformed` — the lines that give nothing
* `addLine_ok`, `addLine_error` — a line is added, or it is malformed
* `ReadAs`, `addLines_ok`, `addLines_error_iff` — a row of lines
* `linesOf`, `addMappings_lines` — the lines of some mappings in a row
* `replacement?`, `command?`, `foldl_enter`, `builtIns` — the two histories
* `built_from_lines` — what a vocabulary is built from, and when it is not built
-/

namespace PadScribe

/-! ## The sides of a line -/

namespace Text

/-- A line with exactly one arrow, and what stands before and after it. -/
structure OneArrow (line : String) (left right : List Char) : Prop where
  joined : line.toList = left ++ '-' :: '>' :: right
  left : NoArrow left
  right : NoArrow right

/-- The words on the two sides of a line with one arrow. -/
def Sides (line : String) (lefts rights : List String) : Prop :=
  ∃ left right, OneArrow line left right ∧ Quoted.split left = .ok lefts ∧ Quoted.split right = .ok rights

/-- A row of characters has no arrow in it, or a first one. -/
theorem first_arrow (cs : List Char) :
    NoArrow cs ∨ ∃ before after, cs = before ++ '-' :: '>' :: after ∧ NoArrow before := by
  induction cs with
  | nil => exact .inl noArrow_nil
  | cons c cs ih =>
      by_cases harrow : c = '-' ∧ cs.head? = some '>'
      · obtain ⟨rfl, hhead⟩ := harrow
        obtain ⟨after, rfl⟩ := List.head?_eq_some_iff.mp hhead
        exact .inr ⟨[], after, rfl, noArrow_nil⟩
      · rcases ih with hnone | ⟨before, after, rfl, hbefore⟩
        · exact .inl (noArrow_cons_iff.mpr ⟨harrow, hnone⟩)
        · refine .inr ⟨c :: before, after, rfl, noArrow_cons_iff.mpr ⟨?_, hbefore⟩⟩
          -- what stands behind the character is the start of `before`, or the dash of the arrow
          cases before with
          | nil => simp
          | cons d before => simpa using harrow

theorem cutAtArrows_ne_nil (cs : List Char) : cutAtArrows cs ≠ [] := by
  rcases first_arrow cs with hnone | ⟨before, after, rfl, hbefore⟩
  · rw [cutAtArrows_none hnone]
    exact List.cons_ne_nil _ _
  · rw [cutAtArrows_arrow hbefore]
    exact List.cons_ne_nil _ _

theorem cutAtArrows_one {cs part : List Char} (h : cutAtArrows cs = [part]) : cs = part ∧ NoArrow cs := by
  rcases first_arrow cs with hnone | ⟨before, after, rfl, hbefore⟩
  · rw [cutAtArrows_none hnone] at h
    exact ⟨(List.cons.inj h).1, hnone⟩
  · rw [cutAtArrows_arrow hbefore] at h
    exact absurd (List.cons.inj h).2 (cutAtArrows_ne_nil after)

/-- **A line is cut into two parts** exactly where it has one arrow. -/
theorem cutAtArrows_two_iff {line : String} {left right : List Char} :
    cutAtArrows line.toList = [left, right] ↔ OneArrow line left right := by
  constructor
  · intro h
    rcases first_arrow line.toList with hnone | ⟨before, after, hline, hbefore⟩
    · rw [cutAtArrows_none hnone] at h
      exact absurd (List.cons.inj h).2.symm (List.cons_ne_nil _ _)
    · rw [hline, cutAtArrows_arrow hbefore] at h
      obtain ⟨rfl, hafter⟩ := List.cons.inj h
      obtain ⟨rfl, hright⟩ := cutAtArrows_one hafter
      exact ⟨hline, hbefore, hright⟩
  · intro h
    rw [h.joined, cutAtArrows_arrow h.left, cutAtArrows_none h.right]

theorem sides_eq {line : String} {left right : List Char} (h : OneArrow line left right) :
    sides line = match Quoted.split left with
      | .error e => .error (.quoting e)
      | .ok lefts => match Quoted.split right with
        | .error e => .error (.quoting e)
        | .ok rights => .ok (lefts, rights) := by
  unfold sides
  rewrite [cutAtArrows_two_iff.mpr h]
  rfl

/-- **The words on the sides of a line** are found exactly where there is one arrow and both sides are quoted well. -/
theorem sides_ok_iff {line : String} {lefts rights : List String} :
    sides line = .ok (lefts, rights) ↔ Sides line lefts rights := by
  constructor
  · intro h
    unfold sides at h
    split at h
    · rename_i left right hcut
      split at h
      · cases h
      · rename_i lefts' hleft
        split at h
        · cases h
        · rename_i rights' hright
          obtain ⟨rfl, rfl⟩ := Prod.mk.inj (Except.ok.inj h)
          exact ⟨left, right, cutAtArrows_two_iff.mp hcut, hleft, hright⟩
    · cases h
  · rintro ⟨left, right, harrow, hleft, hright⟩
    rw [sides_eq harrow, hleft]
    show (match Quoted.split right with
      | .error e => Except.error (SideError.quoting e)
      | .ok rights => .ok (lefts, rights)) = _
    rw [hright]

/-- A line has one pair of sides. -/
theorem sides_unique {line : String} {lefts rights lefts' rights' : List String} (h : Sides line lefts rights)
    (h' : Sides line lefts' rights') : lefts = lefts' ∧ rights = rights' := by
  have hsame := (sides_ok_iff.mpr h).symm.trans (sides_ok_iff.mpr h')
  exact Prod.mk.inj (Except.ok.inj hsame)

/-- A line without such words has another number of arrows, or a side that is quoted wrongly. -/
theorem sides_error {line : String} {e : SideError} (h : sides line = .error e) :
    (¬ ∃ left right, OneArrow line left right) ∨
      ∃ left right, OneArrow line left right ∧
        ((∃ e, Quoted.split left = .error e) ∨ ∃ e, Quoted.split right = .error e) := by
  by_cases harrow : ∃ left right, OneArrow line left right
  · obtain ⟨left, right, harrow⟩ := harrow
    refine .inr ⟨left, right, harrow, ?_⟩
    cases hleft : Quoted.split left with
    | error e => exact .inl ⟨e, rfl⟩
    | ok lefts =>
        cases hright : Quoted.split right with
        | error e => exact .inr ⟨e, rfl⟩
        | ok rights =>
            rw [sides_ok_iff.mpr ⟨left, right, harrow, hleft, hright⟩] at h
            cases h
  · exact .inl harrow

end Text

namespace Vocabulary

open Text (OneArrow Sides)
open PhraseTree (lastSet ofSets)

/-! ## What a line says -/

/-- What a line gives its phrase. -/
inductive Entry where
  /-- Words that replace the phrase. -/
  | replacement (words : List String)
  /-- A command that the phrase makes. -/
  | command (recipe : Recipe)

/-- **What the words on a right side give**, by the first of them. -/
inductive Right : String → List String → Entry → Prop where
  | shell {tag : String} {args : List String} (tagged : tag = "[shell]") (command : args ≠ []) :
      Right tag args (.command (.shell args))
  | hotkey {tag : String} {keys : List String} (tagged : tag = "[hotkey]") (fixed : keys ≠ []) :
      Right tag keys (.command (.hotkey keys))
  | spokenHotkey {tag : String} (tagged : tag = "[hotkey]") : Right tag [] (.command .spokenHotkey)
  | delay {tag span : String} {seconds : Float} (tagged : tag = "[delay]")
      (duration : Duration.parse? span = some seconds) : Right tag [span] (.command (.delay seconds))
  | spokenDelay {tag : String} (tagged : tag = "[delay]") : Right tag [] (.command .spokenDelay)
  | words {tag : String} {args : List String} (plain : tag ∉ ["[shell]", "[hotkey]", "[delay]"]) :
      Right tag args (.replacement (tag :: args))

/-- Words on a right side that give nothing. -/
inductive BadRight : String → List String → Prop where
  | shell {tag : String} (tagged : tag = "[shell]") : BadRight tag []
  | delays {tag a b : String} {more : List String} (tagged : tag = "[delay]") : BadRight tag (a :: b :: more)
  | duration {tag span : String} (tagged : tag = "[delay]") (bad : Duration.parse? span = none) : BadRight tag [span]

/-- **What a line says**: what its right side gives, about the words on its left side. -/
def Says (line : String) (phrase : List String) (entry : Entry) : Prop :=
  ∃ tag args, Sides line phrase (tag :: args) ∧ phrase ≠ [] ∧ Right tag args entry

/-- **The malformed lines.** -/
inductive Malformed (line : String) : Prop where
  | arrows (other : ¬ ∃ left right, OneArrow line left right)
  | quoting {left right : List Char} (cut : OneArrow line left right)
      (bad : (∃ e, Text.Quoted.split left = .error e) ∨ ∃ e, Text.Quoted.split right = .error e)
  | emptySide {lefts rights : List String} (sides : Sides line lefts rights) (empty : lefts = [] ∨ rights = [])
  | right {lefts args : List String} {tag : String} (sides : Sides line lefts (tag :: args)) (bad : BadRight tag args)

variable {v v' : Vocabulary} {line tag : String} {phrase args : List String} {entry : Entry}

/-- The vocabulary after a phrase was given an entry. -/
def enter (v : Vocabulary) : List String × Entry → Vocabulary
  | (phrase, .replacement words) => v.replace phrase words
  | (phrase, .command recipe) => v.command phrase recipe

theorem right_unique {entry' : Entry} (h : Right tag args entry) (h' : Right tag args entry') : entry = entry' := by
  -- every case has its own tag, and the cases with one tag have other words after it
  cases h with
  | shell tagged _ =>
      subst tagged
      cases h' with
      | shell _ _ => rfl
      | words plain => exact absurd plain (by decide)
      | hotkey tagged _ | spokenHotkey tagged | delay tagged _ | spokenDelay tagged =>
          exact absurd tagged (by decide)
  | hotkey tagged fixed =>
      subst tagged
      cases h' with
      | hotkey _ _ => rfl
      | spokenHotkey _ => exact absurd rfl fixed
      | words plain => exact absurd plain (by decide)
      | shell tagged _ | delay tagged _ | spokenDelay tagged => exact absurd tagged (by decide)
  | spokenHotkey tagged =>
      subst tagged
      cases h' with
      | spokenHotkey _ => rfl
      | hotkey _ fixed => exact absurd rfl fixed
      | words plain => exact absurd plain (by decide)
      | shell tagged _ | spokenDelay tagged => exact absurd tagged (by decide)
  | delay tagged duration =>
      subst tagged
      cases h' with
      | delay _ duration' => rw [Option.some.inj (duration.symm.trans duration')]
      | words plain => exact absurd plain (by decide)
      | shell tagged _ | hotkey tagged _ => exact absurd tagged (by decide)
  | spokenDelay tagged =>
      subst tagged
      cases h' with
      | spokenDelay _ => rfl
      | words plain => exact absurd plain (by decide)
      | shell tagged _ | hotkey tagged _ | spokenHotkey tagged => exact absurd tagged (by decide)
  | words plain =>
      cases h' with
      | words _ => rfl
      | shell tagged _ | hotkey tagged _ | spokenHotkey tagged | delay tagged _ | spokenDelay tagged =>
          subst tagged
          exact absurd plain (by decide)

/-- What gives something is not among the words that give nothing. -/
theorem Right.not_bad (h : Right tag args entry) : ¬ BadRight tag args := by
  intro hbad
  cases hbad with
  | shell tagged =>
      subst tagged
      cases h with
      | shell _ command => exact command rfl
      | words plain => exact absurd plain (by decide)
      | hotkey tagged _ | spokenHotkey tagged | spokenDelay tagged => exact absurd tagged (by decide)
  | delays tagged =>
      subst tagged
      cases h with
      | words plain => exact absurd plain (by decide)
      | shell tagged _ | hotkey tagged _ => exact absurd tagged (by decide)
  | duration tagged bad =>
      subst tagged
      cases h with
      | delay _ duration => exact absurd (bad.symm.trans duration) (by simp)
      | words plain => exact absurd plain (by decide)
      | shell tagged _ | hotkey tagged _ => exact absurd tagged (by decide)

theorem says_unique {phrase' : List String} {entry' : Entry} (h : Says line phrase entry)
    (h' : Says line phrase' entry') : phrase = phrase' ∧ entry = entry' := by
  obtain ⟨tag, args, hsides, -, hright⟩ := h
  obtain ⟨tag', args', hsides', -, hright'⟩ := h'
  obtain ⟨hphrase, hrights⟩ := Text.sides_unique hsides hsides'
  obtain ⟨rfl, rfl⟩ := List.cons.inj hrights
  exact ⟨hphrase, right_unique hright hright'⟩

/-- **A line that says something** is not malformed. -/
theorem Says.not_malformed (h : Says line phrase entry) : ¬ Malformed line := by
  obtain ⟨tag, args, hsides, hphrase, hright⟩ := h
  intro hbad
  cases hbad with
  | arrows other =>
      obtain ⟨left, right, harrow, -⟩ := hsides
      exact other ⟨left, right, harrow⟩
  | quoting cut bad =>
      have hok := Text.sides_ok_iff.mpr hsides
      rw [Text.sides_eq cut] at hok
      rcases bad with ⟨e, he⟩ | ⟨e, he⟩
      · rw [he] at hok
        cases hok
      · rw [he] at hok
        split at hok
        · cases hok
        · cases hok
  | emptySide sides empty =>
      obtain ⟨hlefts, hrights⟩ := Text.sides_unique hsides sides
      rcases empty with rfl | rfl
      · exact hphrase hlefts
      · cases hrights
  | right sides bad =>
      obtain ⟨-, hrights⟩ := Text.sides_unique hsides sides
      obtain ⟨rfl, rfl⟩ := List.cons.inj hrights
      exact hright.not_bad bad

/-! ## Adding a line -/

theorem addRight_ok (h : v.addRight line phrase tag args = .ok v') :
    ∃ entry, Right tag args entry ∧ v' = v.enter (phrase, entry) := by
  unfold addRight at h
  split at h
  · next tagged =>
      cases args with
      | nil => cases h
      | cons a args => exact ⟨_, .shell tagged (List.cons_ne_nil a args), (Except.ok.inj h).symm⟩
  · next hshell =>
      split at h
      · next tagged =>
          cases args with
          | nil => exact ⟨_, .spokenHotkey tagged, (Except.ok.inj h).symm⟩
          | cons a args => exact ⟨_, .hotkey tagged (List.cons_ne_nil a args), (Except.ok.inj h).symm⟩
      · next hhotkey =>
          split at h
          · next tagged =>
              split at h
              · exact ⟨_, .spokenDelay tagged, (Except.ok.inj h).symm⟩
              · split at h
                · next hduration => exact ⟨_, .delay tagged hduration, (Except.ok.inj h).symm⟩
                · cases h
              · cases h
          · next hdelay => exact ⟨_, .words (by simp [hshell, hhotkey, hdelay]), (Except.ok.inj h).symm⟩

theorem addRight_error {e : MappingError} (h : v.addRight line phrase tag args = .error e) : BadRight tag args := by
  unfold addRight at h
  split at h
  · next tagged =>
      cases args with
      | nil => exact .shell tagged
      | cons a args => cases h
  · split at h
    · cases h
    · split at h
      · next tagged =>
          split at h
          · cases h
          · split at h
            · cases h
            · next hduration => exact .duration tagged hduration
          · next hnil hone =>
              match args, hnil, hone with
              | [], hnil, _ => exact absurd rfl hnil
              | [a], _, hone => exact absurd rfl (hone a)
              | a :: b :: more, _, _ => exact .delays tagged
      · cases h

/-- **A line that is added** gives its phrase what it says. -/
theorem addLine_ok (h : v.addLine line = .ok v') : ∃ said, Says line said.1 said.2 ∧ v' = v.enter said := by
  unfold addLine splitLine at h
  cases hsides : Text.sides line with
  | error e =>
      rw [hsides] at h
      cases e <;> cases h
  | ok sides =>
      obtain ⟨lefts, rights⟩ := sides
      rw [hsides] at h
      cases lefts with
      | nil => cases h
      | cons w lefts =>
          cases rights with
          | nil => cases h
          | cons tag args =>
              obtain ⟨entry, hright, hv⟩ := addRight_ok h
              have hwords := Text.sides_ok_iff.mp hsides
              exact ⟨(w :: lefts, entry), ⟨tag, args, hwords, List.cons_ne_nil w lefts, hright⟩, hv⟩

/-- **A line that is not added** is malformed. -/
theorem addLine_error {e : MappingError} (h : v.addLine line = .error e) : Malformed line := by
  unfold addLine splitLine at h
  cases hsides : Text.sides line with
  | error e =>
      rcases Text.sides_error hsides with hother | ⟨left, right, hcut, hbad⟩
      · exact .arrows hother
      · exact .quoting hcut hbad
  | ok sides =>
      obtain ⟨lefts, rights⟩ := sides
      have hwords := Text.sides_ok_iff.mp hsides
      rw [hsides] at h
      cases lefts with
      | nil => exact .emptySide hwords (.inl rfl)
      | cons w lefts =>
          cases rights with
          | nil => exact .emptySide hwords (.inr rfl)
          | cons tag args => exact .right hwords (addRight_error h)

/-! ## Adding a row of lines -/

/-- What each of some lines says, in order. -/
def ReadAs (lines : List String) (said : List (List String × Entry)) : Prop :=
  List.Forall₂ (fun line s => Says line s.1 s.2) lines said

theorem readAs_unique {lines : List String} {said said' : List (List String × Entry)} (h : ReadAs lines said)
    (h' : ReadAs lines said') : said = said' := by
  induction h generalizing said' with
  | nil =>
      cases h' with
      | nil => rfl
  | cons hline _ ih =>
      cases h' with
      | cons hline' hrest' =>
          obtain ⟨hphrase, hentry⟩ := says_unique hline hline'
          rw [Prod.ext hphrase hentry, ih hrest']

/-- **Lines that are added** give their phrases what they say, one after another. -/
theorem addLines_ok {lines : List Json} (h : addLines lines v = .ok v') :
    ∃ texts said, lines = texts.map .str ∧ ReadAs texts said ∧ v' = said.foldl enter v := by
  induction lines generalizing v with
  | nil =>
      rw [addLines] at h
      exact ⟨[], [], rfl, .nil, (Except.ok.inj h).symm⟩
  | cons line rest ih =>
      cases line with
      | str text =>
          simp only [addLines, Json.text] at h
          cases hadd : v.addLine text with
          | error e =>
              rw [hadd] at h
              cases h
          | ok v₁ =>
              rw [hadd] at h
              obtain ⟨s, hsays, rfl⟩ := addLine_ok hadd
              obtain ⟨texts, said, rfl, hread, rfl⟩ := ih h
              exact ⟨text :: texts, s :: said, rfl, .cons hsays hread, rfl⟩
      | _ => simp [addLines, Json.text] at h

/-- **Lines that are not added** have a malformed one among them, if all of them are texts. -/
theorem addLines_error_iff {texts : List String} :
    (∃ e, addLines (texts.map .str) v = .error e) ↔ ∃ text ∈ texts, Malformed text := by
  induction texts generalizing v with
  | nil => simp [addLines]
  | cons text texts ih =>
      rw [List.exists_mem_cons_iff, List.map_cons]
      simp only [addLines, Json.text]
      cases hadd : v.addLine text with
      | error e =>
          constructor
          · intro _
            exact .inl (addLine_error hadd)
          · intro _
            exact ⟨_, rfl⟩
      | ok v₁ =>
          obtain ⟨s, hsays, -⟩ := addLine_ok hadd
          constructor
          · intro h
            exact .inr (ih.mp h)
          · rintro (hbad | hbad)
            · exact absurd hbad hsays.not_malformed
            · exact ih.mpr hbad

theorem addLines_append (lines more : List Json) (v : Vocabulary) :
    addLines (lines ++ more) v = addLines lines v >>= addLines more := by
  induction lines generalizing v with
  | nil => rfl
  | cons line rest ih =>
      rw [List.cons_append, addLines, addLines]
      cases line.text with
      | error e => rfl
      | ok text =>
          dsimp only
          cases v.addLine text with
          | error e => rfl
          | ok v₁ => exact ih v₁

/-! ## The lines of some mappings -/

/-- The lines of some mappings in a row, where there is a mapping for every id. -/
def linesOf (mappings : List (String × List Json)) (ids : List String) : Option (List Json) :=
  (ids.mapM fun id => mappings.lookup id).map List.flatten

variable {mappings : List (String × List Json)} {ids : List String} {lines : List Json}

theorem linesOf_cons (mappings : List (String × List Json)) (id : String) (rest : List String) :
    linesOf mappings (id :: rest)
      = (mappings.lookup id).bind fun lines => (linesOf mappings rest).map (lines ++ ·) := by
  unfold linesOf
  rw [List.mapM_cons]
  cases mappings.lookup id with
  | none => rfl
  | some lines =>
      show ((rest.mapM fun id => mappings.lookup id).bind fun blocks => some (lines :: blocks)).map List.flatten = _
      cases rest.mapM fun id => mappings.lookup id with
      | none => rfl
      | some blocks => rfl

/-- An id is unknown exactly where the lines are not all there. -/
theorem linesOf_none_iff : linesOf mappings ids = none ↔ ∃ id ∈ ids, mappings.lookup id = none := by
  induction ids with
  | nil => simp [linesOf]
  | cons id rest ih =>
      rw [linesOf_cons, List.exists_mem_cons_iff, ← ih]
      cases mappings.lookup id with
      | none => simp
      | some lines => simp

theorem mem_linesOf (h : linesOf mappings ids = some lines) (line : Json) :
    line ∈ lines ↔ ∃ id ∈ ids, ∃ block, mappings.lookup id = some block ∧ line ∈ block := by
  induction ids generalizing lines with
  | nil =>
      obtain rfl : [] = lines := Option.some.inj h
      simp
  | cons id rest ih =>
      rw [linesOf_cons] at h
      obtain ⟨block, hblock, h⟩ := Option.bind_eq_some_iff.mp h
      obtain ⟨others, hothers, rfl⟩ := Option.map_eq_some_iff.mp h
      rw [List.mem_append, ih hothers, List.exists_mem_cons_iff]
      simp [hblock]

/-- **Mappings are added** by adding their lines in a row. -/
theorem addMappings_lines (h : linesOf mappings ids = some lines) (v : Vocabulary) :
    addMappings mappings ids v = addLines lines v := by
  induction ids generalizing lines v with
  | nil =>
      obtain rfl : [] = lines := Option.some.inj h
      rfl
  | cons id rest ih =>
      rw [linesOf_cons] at h
      obtain ⟨block, hblock, h⟩ := Option.bind_eq_some_iff.mp h
      obtain ⟨others, hothers, rfl⟩ := Option.map_eq_some_iff.mp h
      rw [addLines_append, addMappings, hblock]
      dsimp only
      cases addLines block v with
      | error e => rfl
      | ok v₁ => exact ih hothers v₁

/-- Mappings are not added where an id is unknown, whatever lines come before it. -/
theorem addMappings_unknown (h : linesOf mappings ids = none) (v : Vocabulary) :
    ∃ fault, addMappings mappings ids v = .error fault := by
  induction ids generalizing v with
  | nil => cases h
  | cons id rest ih =>
      rw [linesOf_cons] at h
      rw [addMappings]
      cases hblock : mappings.lookup id with
      | none => exact ⟨_, rfl⟩
      | some block =>
          rw [hblock] at h
          have hrest : linesOf mappings rest = none := by simpa using h
          dsimp only
          cases addLines block v with
          | error e => exact ⟨e, rfl⟩
          | ok v₁ => exact ih hrest v₁

/-! ## Two histories -/

/-- The words that a line replaces its phrase by. -/
def replacement? : List String × Entry → Option (List String × List String)
  | (phrase, .replacement words) => some (phrase, words)
  | (_, .command _) => none

/-- The command that a line makes of its phrase. -/
def command? : List String × Entry → Option (List String × Recipe)
  | (_, .replacement _) => none
  | (phrase, .command recipe) => some (phrase, recipe)

/-- **The commands of every vocabulary.** -/
def builtIns : List (List String × Recipe) :=
  [(["[camel]"], .style .camel), (["[upper]"], .style .upper), (["[snake]"], .style .snake),
    (["[title]"], .style .title), (["[repeat]"], .replay)]

/-- The commands of every vocabulary are set after everything else. -/
theorem addBuiltIn_tree (v : Vocabulary) :
    v.addBuiltIn.commands.tree = builtIns.foldl (fun t s => t.insert s.1 s.2) v.commands.tree := rfl

/-- **Replacements and commands are two histories**, each of them in the order of the lines. -/
theorem foldl_enter (said : List (List String × Entry)) (v : Vocabulary) :
    (said.foldl enter v).replacements
        = (said.filterMap replacement?).foldl (fun t s => t.insert s.1 s.2) v.replacements ∧
      (said.foldl enter v).commands.tree
        = (said.filterMap command?).foldl (fun t s => t.insert s.1 s.2) v.commands.tree := by
  induction said generalizing v with
  | nil => exact ⟨rfl, rfl⟩
  | cons s said ih =>
      obtain ⟨phrase, entry⟩ := s
      cases entry with
      | replacement words => exact ih (v.replace phrase words)
      | command recipe => exact ih (v.command phrase recipe)

/-- Of two histories, the later one decides. -/
theorem lastSet_append {α : Type} (sets later : List (List String × α)) (phrase : List String) :
    lastSet (sets ++ later) phrase = (lastSet later phrase).or (lastSet sets phrase) := by
  unfold lastSet
  rw [List.reverse_append, List.find?_append, Option.map_or]

/-- A vocabulary before any line is read. -/
def unread (ids : List String) (castNumbers joined typing : Bool) : Vocabulary :=
  { castNumbers, joined, typing, mappingIds := ids,
    commands := { fallback := if typing then some (.typing joined) else none } }

theorem build_eq (mappings : List (String × List Json)) (ids : List String) (castNumbers joined typing : Bool) :
    build mappings ids castNumbers joined typing
      = (addMappings mappings ids (unread ids castNumbers joined typing)).map addBuiltIn := rfl

/-- What the lines of a vocabulary leave in its two trees. -/
theorem trees_of_lines (said : List (List String × Entry)) (ids : List String) (castNumbers joined typing : Bool)
    (phrase : List String) :
    let v := (said.foldl enter (unread ids castNumbers joined typing)).addBuiltIn
    v.replacements.get? phrase = lastSet (said.filterMap replacement?) phrase ∧
      v.commands.tree.get? phrase = (lastSet builtIns phrase).or (lastSet (said.filterMap command?) phrase) := by
  obtain ⟨hreplacements, hcommands⟩ := foldl_enter said (unread ids castNumbers joined typing)
  constructor
  · rw [← PhraseTree.get?_ofSets]
    exact congrArg (PhraseTree.get? phrase) hreplacements
  · rw [addBuiltIn_tree, hcommands, ← lastSet_append, ← PhraseTree.get?_ofSets, ofSets, List.foldl_append]
    rfl

/-- **A vocabulary that is built** was told what each of its lines says, and then the commands that every vocabulary
has. -/
theorem build_ok {castNumbers joined typing : Bool} (h : build mappings ids castNumbers joined typing = .ok v) :
    ∃ texts said, linesOf mappings ids = some (texts.map Json.str) ∧ ReadAs texts said ∧
      v = (said.foldl enter (unread ids castNumbers joined typing)).addBuiltIn := by
  rw [build_eq] at h
  cases hlines : linesOf mappings ids with
  | none =>
      obtain ⟨fault, hfault⟩ := addMappings_unknown hlines (unread ids castNumbers joined typing)
      rw [hfault] at h
      cases h
  | some lines =>
      rw [addMappings_lines hlines] at h
      cases hadd : addLines lines (unread ids castNumbers joined typing) with
      | error fault =>
          rw [hadd] at h
          cases h
      | ok v₁ =>
          rw [hadd] at h
          obtain ⟨texts, said, rfl, hread, rfl⟩ := addLines_ok hadd
          exact ⟨texts, said, rfl, hread, (Except.ok.inj h).symm⟩

/-- The lines of mappings of texts are texts. -/
theorem exists_texts (ht : TextLines mappings) (h : linesOf mappings ids = some lines) :
    ∃ texts : List String, lines = texts.map Json.str := by
  have hrange : lines ∈ Set.range (List.map Json.str) := by
    rw [Set.range_list_map]
    intro line hline
    obtain ⟨id, -, block, hblock, hmem⟩ := (mem_linesOf h line).mp hline
    obtain ⟨before, after, hmappings, -⟩ := List.lookup_eq_some_iff.mp hblock
    have hmapping : (id, block) ∈ mappings := by
      rw [hmappings]
      exact List.mem_append_right _ List.mem_cons_self
    obtain ⟨text, rfl⟩ := ht _ hmapping line hmem
    exact ⟨text, rfl⟩
  obtain ⟨texts, rfl⟩ := hrange
  exact ⟨texts, rfl⟩

/-- **A vocabulary is not built** exactly where an id is unknown or a line is malformed. -/
theorem build_error_iff (ht : TextLines mappings) (castNumbers joined typing : Bool) :
    (∃ fault, build mappings ids castNumbers joined typing = .error fault) ↔
      (∃ id ∈ ids, mappings.lookup id = none) ∨
        ∃ id ∈ ids, ∃ lines, mappings.lookup id = some lines ∧ ∃ text, .str text ∈ lines ∧ Malformed text := by
  rw [build_eq, ← linesOf_none_iff]
  cases hlines : linesOf mappings ids with
  | none =>
      obtain ⟨fault, hfault⟩ := addMappings_unknown hlines (unread ids castNumbers joined typing)
      constructor
      · intro _
        exact .inl rfl
      · intro _
        exact ⟨fault, by rw [hfault]; rfl⟩
  | some lines =>
      obtain ⟨texts, rfl⟩ := exists_texts ht hlines
      have hmalformed : (∃ text ∈ texts, Malformed text) ↔
          ∃ id ∈ ids, ∃ lines, mappings.lookup id = some lines ∧ ∃ text, .str text ∈ lines ∧ Malformed text := by
        constructor
        · rintro ⟨text, htext, hbad⟩
          have hline : Json.str text ∈ texts.map Json.str := List.mem_map_of_mem htext
          obtain ⟨id, hid, block, hblock, hmem⟩ := (mem_linesOf hlines _).mp hline
          exact ⟨id, hid, block, hblock, text, hmem, hbad⟩
        · rintro ⟨id, hid, block, hblock, text, hmem, hbad⟩
          have hline := (mem_linesOf hlines _).mpr ⟨id, hid, block, hblock, hmem⟩
          obtain ⟨text', htext', hsame⟩ := List.mem_map.mp hline
          obtain rfl := Json.str.inj hsame
          exact ⟨text', htext', hbad⟩
      rw [addMappings_lines hlines, ← hmalformed,
        ← addLines_error_iff (v := unread ids castNumbers joined typing)]
      cases addLines (texts.map Json.str) (unread ids castNumbers joined typing) with
      | error fault => simp [Except.map]
      | ok v₁ => simp [Except.map]

/-- **A vocabulary is built from what its lines say.** The lines are those of its mappings, in order, and each of them
says one thing about one phrase. What replaces a phrase is what the last line says that gives it words; and the
command of a phrase is the one that the last line says that gives it a command, but for the tags of the commands of
every vocabulary, which keep them whatever the lines say. A vocabulary of texts is refused exactly where there is no
mapping for one of its ids, or one of its lines is malformed. -/
theorem built_from_lines {mappings : List (String × List Json)} (ht : TextLines mappings) (ids : List String)
    (castNumbers joined typing : Bool) :
    (∀ v, build mappings ids castNumbers joined typing = .ok v →
      ∃ texts said, linesOf mappings ids = some (texts.map Json.str) ∧
        (∀ others, ReadAs texts others ↔ others = said) ∧ ∀ phrase, phrase ≠ [] →
          v.replacements.get? phrase = lastSet (said.filterMap replacement?) phrase ∧
          v.commands.tree.get? phrase = (lastSet builtIns phrase).or (lastSet (said.filterMap command?) phrase)) ∧
    ((∃ e, build mappings ids castNumbers joined typing = .error (.mapping e)) ↔
      (∃ id ∈ ids, mappings.lookup id = none) ∨
        ∃ id ∈ ids, ∃ lines, mappings.lookup id = some lines ∧ ∃ text, .str text ∈ lines ∧ Malformed text) := by
  constructor
  · intro v hv
    obtain ⟨texts, said, hlines, hread, rfl⟩ := build_ok hv
    refine ⟨texts, said, hlines, fun others => ⟨fun h => readAs_unique h hread, fun h => h ▸ hread⟩, ?_⟩
    intro phrase _
    exact trees_of_lines said ids castNumbers joined typing phrase
  · rw [← build_error_iff ht castNumbers joined typing]
    constructor
    · rintro ⟨e, he⟩
      exact ⟨_, he⟩
    · rintro ⟨fault, hfault⟩
      -- where every line is a text, there is no other reason to stop
      obtain ⟨e, rfl⟩ := build_error ht hfault
      exact ⟨e, hfault⟩

/-- Two mappings that give one phrase different words, and one that claims a tag. -/
def greetings : List (String × List Json) :=
  [("a", [.str "hi -> hello", .str "open editor -> [shell] emacs"]),
    ("b", [.str "hi -> good day", .str "[camel] -> [hotkey] x"]), ("c", [.str "hi -> [shell]"])]

theorem built_from_lines_greetings : TextLines greetings ∧
    (∃ v, build greetings ["a", "b"] true true true = .ok v ∧
      v.commands.tree.get? ["[camel]"] = some (.style .camel) ∧
      ∃ texts said, linesOf greetings ["a", "b"] = some (texts.map Json.str) ∧
        (∀ others, ReadAs texts others ↔ others = said) ∧
        v.replacements.get? ["hi"] = lastSet (said.filterMap replacement?) ["hi"]) ∧
    ∃ e, build greetings ["a", "c"] true true true = .error (.mapping e) := by
  have ht : TextLines greetings := by
    simp [TextLines, greetings]
  have hok : (build greetings ["a", "b"] true true true).isOk = true := by decide +kernel
  have hsides : Text.sides "hi -> [shell]" = .ok (["hi"], ["[shell]"]) := by decide +kernel
  refine ⟨ht, ?_, ?_⟩
  · cases hv : build greetings ["a", "b"] true true true with
    | error fault =>
        rw [hv] at hok
        cases hok
    | ok v =>
        obtain ⟨texts, said, hlines, hread, hphrases⟩ := (built_from_lines ht ["a", "b"] true true true).1 v hv
        refine ⟨v, rfl, ?_, texts, said, hlines, hread, (hphrases ["hi"] (by simp)).1⟩
        rw [(hphrases ["[camel]"] (by simp)).2]
        rfl
  · have hmalformed : Malformed "hi -> [shell]" := .right (Text.sides_ok_iff.mp hsides) (.shell rfl)
    exact (built_from_lines ht ["a", "c"] true true true).2.mpr
      (.inr ⟨"c", by simp, [.str "hi -> [shell]"], rfl, "hi -> [shell]", by simp, hmalformed⟩)

end Vocabulary

end PadScribe
