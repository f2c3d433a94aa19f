import Mathlib.Data.List.TakeDrop
import PadScribe.Rule.Line

/-!
# `Proofs.Emptying` — options that are left empty

An option that takes one value is given a text, or is left empty by the value `--`, which options drop. Words are cut
off at a bare `--` before their options are read, so that the dropped value can only be one that is written into the
word of the option: `-id=--` and `--id=--` are the words that leave the option `id` empty.

## Contents

* `OptionSpec.Spelled`, `OptionSpec.classify_attached` — values that are written into the word of their option
* `OptionSpec.classifyAll_bare` — the values that follow an option
* `OptionSpec.Gives`, `OptionSpec.walk_gives` — what the options of a line were given
* `emptying`, `OptionSpec.parse_emptied` — the words that leave an option empty
* `OptionSpec.text_none_iff` — options without a text
-/

namespace PadScribe

/-- A result that is made from another one. -/
theorem except_map_ok {ε α β : Type} {x : Except ε α} {f : α → β} {b : β} (h : x.map f = .ok b) :
    ∃ a, x = .ok a ∧ f a = b := by
  cases x with
  | error e => exact absurd h (by simp [Except.map])
  | ok a => exact ⟨a, rfl, Except.ok.inj h⟩

/-- The words that leave an option empty. -/
def emptying (name : String) : List String :=
  ["-" ++ name ++ "=--", "--" ++ name ++ "=--"]

namespace Options

theorem last_mem {opts : Options} {name : String} {value : OptionValue} (h : opts.last? name = some value) :
    (name, value) ∈ opts := by
  unfold last? at h
  obtain ⟨⟨name', value'⟩, hfound, rfl⟩ := Option.map_eq_some_iff.mp h
  have hname : name' = name := by simpa using List.find?_some hfound
  exact hname ▸ List.mem_reverse.mp (List.mem_of_find?_eq_some hfound)

theorem exists_last {opts : Options} {name : String} (h : opts.has name = true) :
    ∃ value, opts.last? name = some value := by
  obtain ⟨g, hg, hname⟩ := List.any_eq_true.mp h
  have hfound : (opts.reverse.find? (·.1 == name)).isSome = true :=
    List.find?_isSome.mpr ⟨g, List.mem_reverse.mpr hg, hname⟩
  obtain ⟨found, hfound⟩ := Option.isSome_iff_exists.mp hfound
  exact ⟨found.2, by unfold last?; rw [hfound]; rfl⟩

end Options

namespace OptionSpec

variable {specs : List OptionSpec} {abbreviations : Bool}

/-! ## Telling words apart -/

/-- **Options as rules have them**: each takes values, and has the two spellings of a name of more than one letter. -/
def Spelled (specs : List OptionSpec) : Prop :=
  ∀ o ∈ specs, o.arity ≠ .zero ∧ 1 < o.name.length ∧ o.spellings = ["-" ++ o.name, "--" ++ o.name]

instance (specs : List OptionSpec) : Decidable (Spelled specs) :=
  inferInstanceAs (Decidable (∀ o ∈ specs,
    o.arity ≠ .zero ∧ 1 < o.name.length ∧ o.spellings = ["-" ++ o.name, "--" ++ o.name]))

/-- A word that is cut at its first `=` is put together again by it. -/
theorem cutAtEquals_join {word : List Char} {before after : String} (h : cutAtEquals? word = some (before, after)) :
    String.ofList word = before ++ "=" ++ after := by
  unfold cutAtEquals? at h
  rw [List.span_eq_takeWhile_dropWhile] at h
  split at h
  · rename_i lead rest hspan
    obtain ⟨hlead, hrest⟩ := Prod.mk.inj hspan
    obtain ⟨rfl, rfl⟩ := Prod.mk.inj (Option.some.inj h)
    have hword : word = lead ++ '=' :: rest := by
      rw [← hlead, ← hrest, List.takeWhile_append_dropWhile]
    rw [hword]
    apply String.toList_inj.mp
    simp
  · exact absurd h (by simp)

theorem find_spelled {spelling : String} {o : OptionSpec} (h : find? specs spelling = some o) :
    o ∈ specs ∧ spelling ∈ o.spellings :=
  ⟨List.mem_of_find?_eq_some h, List.contains_iff_mem.mp
    (List.find?_some (p := fun o : OptionSpec => o.spellings.contains spelling) h)⟩

/-- A word that may be short for a spelling has no value attached, where spellings are long. -/
theorem candidates_unattached (hs : Spelled specs) {word : String} {o : OptionSpec} {spelling : String}
    {attached : Option String} (h : (o, spelling, attached) ∈ candidates specs false word) :
    o ∈ specs ∧ attached = none := by
  unfold candidates at h
  split at h
  · exact absurd h (by simp)
  · rename_i d letter rest _ _
    obtain ⟨o', ho', h⟩ := List.mem_flatMap.mp h
    obtain ⟨s, hs', h⟩ := List.mem_filterMap.mp h
    obtain ⟨-, hlong, hspellings⟩ := hs o' ho'
    have hlen : s.toList ≠ [d, letter] := by
      intro he
      have hlength := congrArg List.length he
      rw [hspellings] at hs'
      have hdash : "-".length = 1 ∧ "--".length = 2 := ⟨rfl, rfl⟩
      rcases List.mem_cons.mp hs' with rfl | hs'
      · rw [String.length_toList, String.length_append] at hlength
        simp only [List.length_cons, List.length_nil] at hlength
        omega
      · obtain rfl := List.mem_singleton.mp hs'
        rw [String.length_toList, String.length_append] at hlength
        simp only [List.length_cons, List.length_nil] at hlength
        omega
    rw [if_neg hlen] at h
    split at h
    · obtain ⟨rfl, hrest⟩ := Prod.mk.inj (Option.some.inj h)
      exact ⟨ho', (Prod.mk.inj hrest).2.symm⟩
    · exact absurd h (by simp)
  · exact absurd h (by simp)

/-- **How one word is told apart**: it is a value or an unknown word as it stands, or one of the options, with the
value that is written into it. -/
theorem classify_cases (hs : Spelled specs) {word : String} {w : Word} (h : classify specs false word = .ok w) :
    w = .value word ∨ w = .unknown word ∨ ∃ o ∈ specs, ∃ spelling attached, w = .option o spelling attached ∧
      ∀ v, attached = some v → spelling ∈ o.spellings ∧ word = spelling ++ "=" ++ v := by
  unfold classify at h
  split at h
  · split at h
    · rename_i o ho
      obtain rfl := Except.ok.inj h
      exact .inr (.inr ⟨o, (find_spelled ho).1, word, none, rfl, by simp⟩)
    · simp only [] at h
      split at h
      · rename_i w' hattached
        obtain rfl := Except.ok.inj h
        obtain ⟨⟨before, after⟩, hcut, hfound⟩ := Option.bind_eq_some_iff.mp hattached
        obtain ⟨o, ho, rfl⟩ := Option.map_eq_some_iff.mp hfound
        obtain ⟨hmem, hspelling⟩ := find_spelled ho
        refine .inr (.inr ⟨o, hmem, before, some after, rfl, fun v hv => ?_⟩)
        obtain rfl := Option.some.inj hv
        exact ⟨hspelling, by rw [← cutAtEquals_join hcut, String.ofList_toList]⟩
      · split at h
        · rename_i o spelling attached hone
          obtain rfl := Except.ok.inj h
          have hmem : (o, spelling, attached) ∈ candidates specs false word := by
            rw [hone]
            exact List.mem_singleton_self _
          obtain ⟨ho, rfl⟩ := candidates_unattached hs hmem
          exact .inr (.inr ⟨o, ho, spelling, none, rfl, by simp⟩)
        · split at h
          · exact .inl (Except.ok.inj h).symm
          · exact .inr (.inl (Except.ok.inj h).symm)
        · exact absurd h (by simp)
  · exact .inl (Except.ok.inj h).symm

theorem classifyAll_ending (rest : List String) :
    classifyAll specs abbreviations ("--" :: rest) = .ok (.ending :: rest.map .value) := by
  simp [classifyAll]

/-- Words after one that does not end the options. -/
theorem classifyAll_cons {word : String} {rest : List String} (hw : word ≠ "--") {ws : List Word}
    (h : classifyAll specs abbreviations (word :: rest) = .ok ws) :
    ∃ w ws', classify specs abbreviations word = .ok w ∧ classifyAll specs abbreviations rest = .ok ws' ∧
      ws = w :: ws' := by
  simp only [classifyAll, if_neg hw] at h
  cases hword : classify specs abbreviations word with
  | error e => rw [hword] at h; exact absurd h (by simp)
  | ok w =>
      rw [hword] at h
      obtain ⟨ws', hrest, rfl⟩ := except_map_ok h
      exact ⟨w, ws', rfl, hrest, rfl⟩

/-- **Each option among the words of a line** is one of those known, and a value that is attached to it is written
into its word. -/
theorem classifyAll_option (hs : Spelled specs) {words : List String} {ws : List Word}
    (h : classifyAll specs false words = .ok ws) {o : OptionSpec} {spelling : String} {attached : Option String}
    (ho : .option o spelling attached ∈ ws) :
    o ∈ specs ∧ ∀ v, attached = some v → spelling ∈ o.spellings ∧ spelling ++ "=" ++ v ∈ words := by
  induction words generalizing ws with
  | nil =>
      obtain rfl := Except.ok.inj h
      exact absurd ho (by simp)
  | cons word rest ih =>
      by_cases hw : word = "--"
      · rw [hw, classifyAll_ending] at h
        obtain rfl := Except.ok.inj h
        exact absurd ho (by simp)
      · obtain ⟨w, ws', hword, hrest, rfl⟩ := classifyAll_cons hw h
        rcases List.mem_cons.mp ho with rfl | ho
        · rcases classify_cases hs hword with he | he | ⟨o', ho', spelling', attached', he, hwritten⟩
          · exact absurd he (by simp)
          · exact absurd he (by simp)
          · obtain ⟨rfl, rfl, rfl⟩ := Word.option.inj he
            refine ⟨ho', fun v hv => ?_⟩
            obtain ⟨hspelling, rfl⟩ := hwritten v hv
            exact ⟨hspelling, List.mem_cons_self⟩
        · obtain ⟨hmem, hwritten⟩ := ih hrest ho
          exact ⟨hmem, fun v hv => ⟨(hwritten v hv).1, List.mem_cons_of_mem _ (hwritten v hv).2⟩⟩

/-- No bare `--` is among the values that words start with. -/
theorem leadingValues_bare (hs : Spelled specs) {words : List String} {ws : List Word}
    (h : classifyAll specs false words = .ok ws) : "--" ∉ leadingValues ws := by
  induction words generalizing ws with
  | nil =>
      obtain rfl := Except.ok.inj h
      simp [leadingValues]
  | cons word rest ih =>
      by_cases hw : word = "--"
      · rw [hw, classifyAll_ending] at h
        obtain rfl := Except.ok.inj h
        simp [leadingValues]
      · obtain ⟨w, ws', hword, hrest, rfl⟩ := classifyAll_cons hw h
        rcases classify_cases hs hword with rfl | rfl | ⟨o, -, spelling, attached, rfl, -⟩
        · simp only [leadingValues, List.mem_cons, not_or]
          exact ⟨Ne.symm hw, ih hrest⟩
        · simp [leadingValues]
        · simp [leadingValues]

/-- Words in which no option is followed by a bare `--` as a value. -/
def BareValues (ws : List Word) : Prop :=
  ∀ o spelling attached rest, .option o spelling attached :: rest <:+ ws → "--" ∉ leadingValues rest

theorem BareValues.suffix {ws ws' : List Word} (h : BareValues ws) (hsuffix : ws' <:+ ws) : BareValues ws' :=
  fun o spelling attached rest hrest => h o spelling attached rest (hrest.trans hsuffix)

/-- **The words of a line are cut off at a bare `--`**, so that no option is followed by one. -/
theorem classifyAll_bare (hs : Spelled specs) {words : List String} {ws : List Word}
    (h : classifyAll specs false words = .ok ws) : BareValues ws := by
  intro o spelling attached rest hrest
  induction words generalizing ws with
  | nil =>
      obtain rfl := Except.ok.inj h
      exact absurd (List.eq_nil_of_suffix_nil hrest) (by simp)
  | cons word more ih =>
      by_cases hw : word = "--"
      · rw [hw, classifyAll_ending] at h
        obtain rfl := Except.ok.inj h
        exact absurd (hrest.subset List.mem_cons_self) (by simp)
      · obtain ⟨w, ws', -, hmore, rfl⟩ := classifyAll_cons hw h
        rcases List.suffix_cons_iff.mp hrest with he | hrest
        · obtain ⟨-, rfl⟩ := List.cons.inj he
          exact leadingValues_bare hs hmore
        · exact ih hmore hrest

/-! ## What options were given -/

/-- **What an option among some words was given**: what it takes from the value attached to it, or from values that
follow it. -/
inductive Gives (ws : List Word) : String × OptionValue → Prop where
  | attached {o : OptionSpec} {spelling v : String} {value : OptionValue}
    (used : .option o spelling (some v) ∈ ws) (taken : o.take [v] = .ok value) : Gives ws (o.name, value)
  | following {o : OptionSpec} {spelling : String} {values : List String} {value : OptionValue}
    (used : .option o spelling none ∈ ws) (bare : "--" ∉ values) (enough : o.arity = .one → values ≠ [])
    (taken : o.take values = .ok value) : Gives ws (o.name, value)

theorem Gives.mono {ws ws' : List Word} {given : String × OptionValue} (h : Gives ws given) (hsub : ws ⊆ ws') :
    Gives ws' given := by
  cases h with
  | attached used taken => exact .attached (hsub used) taken
  | following used bare enough taken => exact .following (hsub used) bare enough taken

/-- What one option is given. -/
theorem consume_gives {o : OptionSpec} {spelling : String} {attached : Option String} {rest : List Word}
    {given : Options} {n : Nat} (ho : o.arity ≠ .zero) (hbare : "--" ∉ leadingValues rest)
    (h : consume specs o spelling attached rest = .ok (given, n)) :
    ∀ g ∈ given, Gives (.option o spelling attached :: rest) g := by
  intro g hg
  unfold consume at h
  split at h
  · rw [if_neg ho] at h
    obtain ⟨value, htake, hout⟩ := except_map_ok h
    obtain ⟨rfl, -⟩ := Prod.mk.inj hout
    obtain rfl := List.mem_singleton.mp hg
    exact .attached List.mem_cons_self htake
  · simp only [] at h
    split at h
    · exact absurd h (by simp)
    · rename_i count hwants
      obtain ⟨value, htake, hout⟩ := except_map_ok h
      obtain ⟨rfl, -⟩ := Prod.mk.inj hout
      obtain rfl := List.mem_singleton.mp hg
      refine .following List.mem_cons_self (fun hmem => hbare (List.mem_of_mem_take hmem)) ?_ htake
      intro hone hnil
      -- an option that needs a value takes one where there are values, and fails where there are none
      simp only [wants, hone] at hwants
      split at hwants
      · exact absurd hwants (by simp)
      · rename_i hsome
        obtain rfl := Except.ok.inj hwants
        rcases List.take_eq_nil_iff.mp hnil with hzero | hnone
        · exact absurd hzero (by simp)
        · exact hsome (by rw [hnone]; rfl)

/-- **What the options of a line were given.** -/
theorem walk_gives {ws : List Word} {given : Options} {extra : List String}
    (ho : ∀ o spelling attached, .option o spelling attached ∈ ws → o.arity ≠ .zero) (hbare : BareValues ws)
    (h : walk specs ws = .ok (given, extra)) : ∀ g ∈ given, Gives ws g := by
  induction ws using walk.induct specs generalizing given extra with
  | case1 =>
      rw [walk] at h
      obtain ⟨rfl, -⟩ := Prod.mk.inj (Except.ok.inj h)
      simp
  | case2 _ rest ih | case3 _ rest ih | case4 rest ih =>
      rw [walk] at h
      obtain ⟨⟨given', extra'⟩, hrest, he⟩ := except_map_ok h
      obtain ⟨rfl, -⟩ := Prod.mk.inj he
      intro g hg
      exact (ih (fun o spelling attached hmem => ho o spelling attached (List.mem_cons_of_mem _ hmem))
        (hbare.suffix (List.suffix_cons _ _)) hrest g hg).mono (List.subset_cons_self _ _)
  | case5 o spelling attached rest e he =>
      rw [walk, he] at h
      exact absurd h (by simp)
  | case6 o spelling attached rest values n he ih =>
      rw [walk, he] at h
      obtain ⟨⟨given', extra'⟩, hrest, heq⟩ := except_map_ok h
      obtain ⟨rfl, -⟩ := Prod.mk.inj heq
      intro g hg
      rcases List.mem_append.mp hg with hg | hg
      · exact consume_gives (ho _ _ _ List.mem_cons_self)
          (hbare o spelling attached rest List.suffix_rfl) he g hg
      · have hdrop : rest.drop n <:+ .option o spelling attached :: rest :=
          (List.drop_suffix n rest).trans (List.suffix_cons _ _)
        exact (ih (fun o spelling attached hmem => ho o spelling attached (hdrop.subset hmem))
          (hbare.suffix hdrop) hrest g hg).mono hdrop.subset

/-! ## Emptied options -/

theorem check_ne_emptied {o : OptionSpec} {v : String} : o.check v ≠ .ok .emptied := by
  unfold check
  cases o.domain with
  | text => simp
  | choice allowed =>
      simp only []
      split <;> simp
  | number => cases Decimal.read? v <;> simp
  | flag => cases flag? v <;> simp

/-- **What leaves an option empty**: no value for an option that takes one, bare `--` apart. -/
theorem take_emptied {o : OptionSpec} {values : List String} (h : o.take values = .ok .emptied) :
    o.arity = .one ∧ values.erase "--" = [] := by
  unfold take at h
  simp only [] at h
  split at h
  · exact absurd h (by simp)
  · exact absurd h (by simp)
  · rename_i hone hnil
    exact ⟨hone, hnil⟩
  · exact absurd h check_ne_emptied
  · exact absurd h check_ne_emptied
  · exact absurd h (by simp)

/-- An option that takes one text is given a text or left empty. -/
theorem take_text {o : OptionSpec} {values : List String} {value : OptionValue} (hone : o.arity = .one)
    (htext : o.domain = .text) (h : o.take values = .ok value) : value = .emptied ∨ ∃ s, value = .text s := by
  unfold take at h
  rw [hone] at h
  cases hvalues : values.erase "--" with
  | nil =>
      rw [hvalues] at h
      exact .inl (Except.ok.inj h).symm
  | cons v rest =>
      simp only [hvalues, check, htext] at h
      exact .inr ⟨v, (Except.ok.inj h).symm⟩

/-- **An option is left empty** by a `--` that is attached to it. -/
theorem gives_emptied {ws : List Word} {name : String} (h : Gives ws (name, .emptied)) :
    ∃ o spelling, o.name = name ∧ .option o spelling (some "--") ∈ ws := by
  cases h with
  | @attached o spelling v _ used taken =>
      have hv : v = "--" := by
        by_contra hne
        have herase : [v].erase "--" = [v] := List.erase_of_not_mem (by simpa using Ne.symm hne)
        exact absurd (herase ▸ (take_emptied taken).2) (by simp)
      exact ⟨o, spelling, rfl, hv ▸ used⟩
  | following used bare enough taken =>
      obtain ⟨hone, hnil⟩ := take_emptied taken
      rw [List.erase_of_not_mem bare] at hnil
      exact absurd hnil (enough hone)

/-- What the words of a line say when their options are read. -/
theorem parse_ok {words : List String} {opts : Options} (h : parse specs abbreviations words = .ok opts) :
    ∃ ws extra, classifyAll specs abbreviations words = .ok ws ∧ walk specs ws = .ok (opts, extra) ∧
      ∀ o ∈ specs, o.required = true → opts.has o.name = true := by
  unfold parse at h
  cases hws : classifyAll specs abbreviations words with
  | error e => rw [hws] at h; exact absurd h (by simp [bind, Except.bind])
  | ok ws =>
      rw [hws] at h
      cases hwalk : walk specs ws with
      | error e => simp only [bind, Except.bind, hwalk] at h; exact absurd h (by simp)
      | ok out =>
          obtain ⟨given, extra⟩ := out
          simp only [bind, Except.bind, hwalk] at h
          split at h
          · exact absurd h (by simp)
          · rename_i hmissing
            split at h
            · exact absurd h (by simp)
            · obtain rfl := Except.ok.inj h
              refine ⟨ws, extra, rfl, hwalk, fun o ho hrequired => ?_⟩
              by_contra hnot
              refine hmissing ?_
              have hnone : given.any (·.1 == o.name) = false := Bool.eq_false_iff.mpr hnot
              have hmem : o ∈ specs.filter fun o => o.required && !given.any (·.1 == o.name) :=
                List.mem_filter.mpr ⟨ho, by rw [hrequired, hnone]; rfl⟩
              simpa using List.ne_nil_of_mem hmem

/-- The options of a line were given their values by its words. -/
theorem parse_gives (hs : Spelled specs) {words : List String} {opts : Options}
    (h : parse specs false words = .ok opts) :
    ∃ ws, classifyAll specs false words = .ok ws ∧ ∀ g ∈ opts, Gives ws g := by
  obtain ⟨ws, extra, hws, hwalk, -⟩ := parse_ok h
  refine ⟨ws, hws, walk_gives (fun o spelling attached hmem => ?_) (classifyAll_bare hs hws) hwalk⟩
  exact (hs o (classifyAll_option hs hws hmem).1).1

/-- **An option that is left empty** is so by one of two words. -/
theorem parse_emptied (hs : Spelled specs) {words : List String} {opts : Options}
    (h : parse specs false words = .ok opts) {name : String} (he : (name, .emptied) ∈ opts) :
    ∃ w ∈ emptying name, w ∈ words := by
  obtain ⟨ws, hws, hgives⟩ := parse_gives hs h
  obtain ⟨o, spelling, rfl, hmem⟩ := gives_emptied (hgives _ he)
  obtain ⟨ho, hwritten⟩ := classifyAll_option hs hws hmem
  obtain ⟨hspelling, hword⟩ := hwritten "--" rfl
  rw [(hs o ho).2.2] at hspelling
  have hjoin (dashes : String) : dashes ++ o.name ++ "=" ++ "--" = dashes ++ o.name ++ "=--" := by
    rw [String.append_assoc]
    rfl
  rcases List.mem_cons.mp hspelling with rfl | hspelling
  · exact ⟨_, List.mem_cons_self, hjoin "-" ▸ hword⟩
  · obtain rfl := List.mem_singleton.mp hspelling
    exact ⟨_, List.mem_cons_of_mem _ List.mem_cons_self, hjoin "--" ▸ hword⟩

/-- A name under which there is only an option that takes one text. -/
def TakesText (specs : List OptionSpec) (name : String) : Prop :=
  ∀ o ∈ specs, o.name = name → o.arity = .one ∧ o.domain = .text

instance (specs : List OptionSpec) (name : String) : Decidable (TakesText specs name) :=
  inferInstanceAs (Decidable (∀ o ∈ specs, o.name = name → o.arity = .one ∧ o.domain = .text))

/-- **An option was given without a text** exactly when its last use leaves it empty. -/
theorem text_none_iff (hs : Spelled specs) {name : String} (ht : TakesText specs name) {words : List String}
    {opts : Options} (h : parse specs false words = .ok opts) (hgiven : opts.has name = true) :
    opts.text name none = none ↔ opts.last? name = some .emptied := by
  obtain ⟨ws, hws, hgives⟩ := parse_gives hs h
  obtain ⟨value, hlast⟩ := Options.exists_last hgiven
  have hvalue : value = .emptied ∨ ∃ s, value = .text s := by
    have hgive := hgives _ (Options.last_mem hlast)
    obtain ⟨o, spelling, attached, values, hname, hmem, htake⟩ : ∃ o spelling attached values, o.name = name ∧
        .option o spelling attached ∈ ws ∧ o.take values = .ok value := by
      cases hgive with
      | attached used taken => exact ⟨_, _, _, _, rfl, used, taken⟩
      | following used bare enough taken => exact ⟨_, _, _, _, rfl, used, taken⟩
    obtain ⟨hone, htext⟩ := ht o (classifyAll_option hs hws hmem).1 hname
    exact take_text hone htext htake
  unfold Options.text
  rw [hlast]
  rcases hvalue with rfl | ⟨s, rfl⟩
  · simp
  · simp

end OptionSpec

end PadScribe
