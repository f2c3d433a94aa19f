import PadScribe.Launch
import PadScribe.Proofs.Compiling
import PadScribe.Proofs.Emptying

/-!
# `Proofs.Stalling` — configurations that stop the compiler

A configuration of texts compiles, or is refused with an explanation, except in one case: a button, a stick or a
direction that a rule line reacts to, or the id of a mode, is an option that its line left empty. Nothing stands for
such a name, and the compiler stops without an explanation. This file says exactly which configurations those are, and
that each of them has a word like `-id=--` in a line.

## Contents

* `StopsIn` — results that may be missing, and for which reasons
* `Rule.Nameless`, `Rule.NamelessLine`, `Rule.readLine_stops` — rule lines that leave a name empty
* `RulesStall`, `BlocksStall`, `Config.Stalls` — the first of them
* `nameless_emptying`, `ModeBlock.HasWord`, `stalls_emptying` — the words that stop the compiler
* `compileRules_stops` — a whole configuration
* `not_compiled_or_refused` — one that does neither
-/

namespace PadScribe

/-! ## Reasons to stop -/

/-- **A result that is missing for one of two reasons**: something does not compile, or, exactly in the given case,
a name was left empty. -/
structure StopsIn {α : Type} (p : Prop) (r : Except Fault α) : Prop where
  reasons : ∀ fault, r = .error fault → (∃ e, fault = .compile e) ∨ fault = .shape .wrongKind
  exactly : r = .error (.shape .wrongKind) ↔ p

namespace StopsIn

variable {α β : Type} {p q : Prop} {r : Except Fault α}

theorem ok (a : α) : StopsIn False (.ok a) :=
  ⟨fun _ h => absurd h (by simp), by simp⟩

theorem refused (e : CompileError) : StopsIn False (.error (.compile e) : Except Fault α) :=
  ⟨fun _ h => .inl ⟨e, (Except.error.inj h).symm⟩, by simp⟩

theorem congr (h : StopsIn p r) (hpq : p ↔ q) : StopsIn q r :=
  ⟨h.reasons, h.exactly.trans hpq⟩

/-- A result that is made from another one stops where that one does, and where it goes on to stop. -/
theorem bind {f : α → Except Fault β} {q : α → Prop} (h : StopsIn p r)
    (hf : ∀ a, r = .ok a → StopsIn (q a) (f a)) :
    StopsIn (p ∨ ∃ a, r = .ok a ∧ q a) (r >>= f) := by
  cases r with
  | error fault =>
      refine ⟨fun fault' he => h.reasons fault' (by simpa [Bind.bind, Except.bind] using he), ?_⟩
      simpa [Bind.bind, Except.bind] using h.exactly
  | ok a =>
      have hp : ¬ p := fun hp => absurd (h.exactly.mpr hp) (by simp)
      have ha := hf a rfl
      refine ⟨ha.reasons, ha.exactly.trans ?_⟩
      simp [hp]

/-- What follows a result without another reason to stop. -/
theorem andThen {f : α → Except Fault β} (h : StopsIn p r) (hf : ∀ a, r = .ok a → StopsIn False (f a)) :
    StopsIn p (r >>= f) :=
  (h.bind hf).congr (by simp)

theorem within (wrap : CompileError → CompileError) (h : StopsIn p r) : StopsIn p (Compile.within wrap r) := by
  cases r with
  | ok a => exact h
  | error fault =>
      rcases h.reasons fault rfl with ⟨e, rfl⟩ | rfl
      · have hp : ¬ p := fun hp => absurd (h.exactly.mpr hp) (by simp)
        exact (refused (wrap e)).congr (by simp [hp])
      · exact h

end StopsIn

/-! ## Rule lines -/

/-- Word mappings with lines that are texts. -/
def TextLines (mappings : List (String × List Json)) : Prop :=
  ∀ mapping ∈ mappings, ∀ line ∈ mapping.2, ∃ text, line = .str text

/-- Word mappings of texts fail only with an explanation. -/
theorem addLines_error {lines : List Json} (ht : ∀ line ∈ lines, ∃ text, line = .str text) {v : Vocabulary}
    {fault : Fault} (h : Vocabulary.addLines lines v = .error fault) : ∃ e, fault = .mapping e := by
  induction lines generalizing v with
  | nil => exact absurd h (by simp [Vocabulary.addLines])
  | cons line rest ih =>
      obtain ⟨text, rfl⟩ := ht line List.mem_cons_self
      simp only [Vocabulary.addLines, Json.text] at h
      split at h
      · exact ⟨_, (Except.error.inj h).symm⟩
      · exact ih (fun line hline => ht line (List.mem_cons_of_mem _ hline)) h

theorem addMappings_error {mappings : List (String × List Json)} (ht : TextLines mappings) {ids : List String}
    {v : Vocabulary} {fault : Fault} (h : Vocabulary.addMappings mappings ids v = .error fault) :
    ∃ e, fault = .mapping e := by
  induction ids generalizing v with
  | nil => exact absurd h (by simp [Vocabulary.addMappings])
  | cons id rest ih =>
      simp only [Vocabulary.addMappings] at h
      split at h
      · exact ⟨_, (Except.error.inj h).symm⟩
      · rename_i lines hlines
        split at h
        · rename_i e hadd
          obtain rfl := Except.error.inj h
          obtain ⟨before, after, hmappings, -⟩ := List.lookup_eq_some_iff.mp hlines
          have hmem : (id, lines) ∈ mappings := by
            rw [hmappings]
            simp
          exact addLines_error (ht _ hmem) hadd
        · exact ih h

theorem build_error {mappings : List (String × List Json)} (ht : TextLines mappings) {ids : List String}
    {castNumbers joined typing : Bool} {fault : Fault}
    (h : Vocabulary.build mappings ids castNumbers joined typing = .error fault) : ∃ e, fault = .mapping e := by
  unfold Vocabulary.build at h
  simp only [] at h
  cases hadd : Vocabulary.addMappings mappings ids _ with
  | error e =>
      rw [hadd] at h
      obtain rfl := Except.error.inj h
      exact addMappings_error ht hadd
  | ok v =>
      rw [hadd] at h
      exact absurd h (by simp [Except.map])

namespace Rule

theorem readOptions_stops (keyword : String) (specs : List OptionSpec) (args : List String) :
    StopsIn False (readOptions keyword specs args) := by
  unfold readOptions
  split
  · exact .ok _
  · exact .refused _

/-- What is made of the options of a keyword, whatever they were given. -/
theorem ofOptions_stops {α : Type} (keyword : String) (specs : List OptionSpec) (args : List String)
    (f : Options → α) : StopsIn False (do return f (← readOptions keyword specs args)) :=
  (readOptions_stops keyword specs args).andThen fun opts _ => .ok (f opts)

/-- Options that are read, whatever their keyword is. -/
theorem readOptions_ok {keyword : String} {specs : List OptionSpec} {args : List String} {opts : Options}
    (h : readOptions keyword specs args = .ok opts) : OptionSpec.parse specs false args = .ok opts := by
  unfold readOptions at h
  split at h
  · rename_i opts' hparse
    rw [hparse, Except.ok.inj h]
  · exact absurd h (by simp)

/-- A required option was given if the options are read. -/
theorem readOptions_has {keyword : String} {specs : List OptionSpec} {args : List String} {opts : Options}
    (h : readOptions keyword specs args = .ok opts) {o : OptionSpec} (ho : o ∈ specs) (hr : o.required = true) :
    opts.has o.name = true := by
  obtain ⟨ws, extra, -, -, hgiven⟩ := OptionSpec.parse_ok (readOptions_ok h)
  exact hgiven o ho hr

/-- **A name that an option gives** stops the compiler exactly when the option is left empty. -/
theorem named_stops {α : Type} {keyword : String} (specs : List OptionSpec) {args : List String} {opts : Options}
    (hs : OptionSpec.Spelled specs) {name : String} (ht : OptionSpec.TakesText specs name)
    (h : readOptions keyword specs args = .ok opts) (hgiven : opts.has name = true) (find? : String → Option α)
    (unknown : String → CompileError) :
    StopsIn (opts.last? name = some .emptied) (named find? unknown (opts.text name none)) := by
  rw [← OptionSpec.text_none_iff hs ht (readOptions_ok h) hgiven]
  cases opts.text name none with
  | none => exact ⟨fun _ he => .inr (Except.error.inj he).symm, by simp [named]⟩
  | some text =>
      unfold named
      simp only []
      cases find? text with
      | none => exact (StopsIn.refused _).congr (by simp)
      | some a => exact (StopsIn.ok _).congr (by simp)

/-- **What a rule line reacts to, with a name that was left empty**: the button, the stick, or the direction of a
stick that is known. -/
inductive Nameless (buttons sticks : List OptionSpec) (source : String) (args : List String) : Prop where
  | button {opts : Options} (kind : Text.lower source = "button") (read : readOptions "button" buttons args = .ok opts)
    (empty : opts.last? "id" = some .emptied)
  | side {opts : Options} (kind : Text.lower source = "stick") (read : readOptions "stick" sticks args = .ok opts)
    (empty : opts.last? "side" = some .emptied)
  | direction {opts : Options} {side : Side} (kind : Text.lower source = "stick")
    (read : readOptions "stick" sticks args = .ok opts) (known : readSide (opts.text "side" none) = .ok side)
    (empty : opts.last? "dir" = some .emptied)

section Sources

variable {α : Type} {source : String} {args : List String}

/-- Reading the button of a rule line. -/
theorem button_stops (buttons sticks : List OptionSpec) (hkind : Text.lower source = "button")
    (hs : OptionSpec.Spelled buttons) (hid : OptionSpec.TakesText buttons "id")
    (hmem : requiredOption "id" ∈ buttons) (f : Options → Button → α) :
    StopsIn (Nameless buttons sticks source args) (do
      let opts ← readOptions "button" buttons args
      return f opts (← readButton (opts.text "id" none))) := by
  refine ((readOptions_stops _ _ _).bind fun opts hopts =>
    (named_stops buttons hs hid hopts (readOptions_has hopts hmem rfl) _ _).andThen fun which _ => .ok _).congr ?_
  constructor
  · rintro (h | ⟨opts, hopts, hempty⟩)
    · exact h.elim
    · exact .button hkind hopts hempty
  · rintro (⟨_, hopts, hempty⟩ | ⟨hstick, -, -⟩ | ⟨hstick, -, -, -⟩)
    · exact .inr ⟨_, hopts, hempty⟩
    · exact absurd (hkind.symm.trans hstick) (by decide)
    · exact absurd (hkind.symm.trans hstick) (by decide)

/-- Reading the stick of a rule line, with what is read of its direction. -/
theorem stick_stops (buttons sticks : List OptionSpec) (hkind : Text.lower source = "stick")
    (hs : OptionSpec.Spelled sticks) (hside : OptionSpec.TakesText sticks "side")
    (hmem : requiredOption "side" ∈ sticks) {f : Options → Side → Except Fault α}
    (hf : ∀ opts side, readOptions "stick" sticks args = .ok opts →
      StopsIn (opts.last? "dir" = some .emptied) (f opts side)) :
    StopsIn (Nameless buttons sticks source args) (do
      let opts ← readOptions "stick" sticks args
      let side ← readSide (opts.text "side" none)
      f opts side) := by
  refine ((readOptions_stops _ _ _).bind fun opts hopts =>
    (named_stops sticks hs hside hopts (readOptions_has hopts hmem rfl) _ _).bind
      fun side _ => hf opts side hopts).congr ?_
  constructor
  · rintro (h | ⟨opts, hopts, hempty | ⟨side, hread, hempty⟩⟩)
    · exact h.elim
    · exact .side hkind hopts hempty
    · exact .direction hkind hopts hread hempty
  · rintro (⟨hbutton, -, -⟩ | ⟨_, hopts, hempty⟩ | ⟨_, hopts, hread, hempty⟩)
    · exact absurd (hkind.symm.trans hbutton) (by decide)
    · exact .inr ⟨_, hopts, .inl hempty⟩
    · exact .inr ⟨_, hopts, .inr ⟨_, hread, hempty⟩⟩

/-- A rule line that reacts to neither. -/
theorem nameless_neither {buttons sticks : List OptionSpec} (hbutton : Text.lower source ≠ "button")
    (hstick : Text.lower source ≠ "stick") : ¬ Nameless buttons sticks source args := by
  rintro (⟨h, -, -⟩ | ⟨h, -, -⟩ | ⟨h, -, -, -⟩)
  · exact hbutton h
  · exact hstick h
  · exact hstick h

end Sources

/-- The options of a trigger on a button. -/
def triggerButton : List OptionSpec :=
  [requiredOption "id", flagOption "whendown"]

/-- The options of a trigger on a stick. -/
def triggerStick : List OptionSpec :=
  [requiredOption "side", option "dir"]

/-- The options of a switch on a button. -/
def switchButton : List OptionSpec :=
  [requiredOption "id"]

/-- The options of a switch on a stick. -/
def switchStick : List OptionSpec :=
  [requiredOption "side", requiredOption "dir"]

/-- **The condition of a trigger.** -/
theorem readCondition_stops (source : String) (args : List String) :
    StopsIn (Nameless triggerButton triggerStick source args) (readCondition source args) := by
  unfold readCondition
  simp only []
  split
  · rename_i hkind
    exact button_stops triggerButton _ hkind (by decide) (by decide) (by decide)
      fun opts which => Condition.button which (opts.flag "whendown" true)
  split
  · rename_i hkind
    refine stick_stops _ triggerStick hkind (by decide) (by decide) (by decide) fun opts side hopts => ?_
    -- a direction may be left out
    split
    · rename_i hdir
      exact (named_stops triggerStick (by decide) (by decide) hopts hdir _ _).andThen fun _ _ => .ok _
    · rename_i hdir
      refine (StopsIn.ok _).congr ⟨False.elim, fun hempty => hdir ?_⟩
      exact List.any_eq_true.mpr ⟨_, Options.last_mem hempty, by simp⟩
  · rename_i hbutton hstick
    refine StopsIn.congr ?_ (iff_of_false not_false (nameless_neither hbutton hstick))
    split
    · exact ofOptions_stops ..
    split
    · exact ofOptions_stops ..
    · exact .refused _

/-- **The switch of a switch rule.** -/
theorem readSwitch_stops (source : String) (args : List String) :
    StopsIn (Nameless switchButton switchStick source args) (readSwitch source args) := by
  unfold readSwitch
  simp only []
  split
  · rename_i hkind
    exact button_stops switchButton _ hkind (by decide) (by decide) (by decide) fun _ which => Switch.ofButton which
  split
  · rename_i hkind
    refine stick_stops _ switchStick hkind (by decide) (by decide) (by decide) fun opts side hopts => ?_
    have hrequired : requiredOption "dir" ∈ switchStick := by decide
    have hdir : opts.has "dir" = true := readOptions_has hopts hrequired rfl
    exact (named_stops switchStick (by decide) (by decide) hopts hdir _ _).andThen fun _ _ => .ok _
  · rename_i hbutton hstick
    exact (StopsIn.refused _).congr (iff_of_false not_false (nameless_neither hbutton hstick))

/-- The modifier of a switch rule stops the compiler nowhere. -/
theorem readModifier_stops (name : String) (args : List String) : StopsIn False (readModifier? name args) := by
  unfold readModifier?
  simp only []
  split
  · exact ofOptions_stops ..
  split
  · exact ofOptions_stops ..
  split
  · exact ofOptions_stops ..
  · exact .ok _

/-- An action stops the compiler nowhere, whatever options of it are left empty. -/
theorem readAction_stops {mappings : List (String × List Json)} (ht : TextLines mappings) (name : String)
    (args : List String) : StopsIn False (readAction mappings name args) := by
  unfold readAction
  simp only []
  split
  · exact ofOptions_stops ..
  split
  · exact ofOptions_stops ..
  split
  · refine (readOptions_stops _ _ _).andThen fun opts _ => ?_
    split
    · exact .refused _
    · exact .ok _
  split
  · exact ofOptions_stops ..
  split
  · exact ofOptions_stops ..
  split
  · refine (readOptions_stops _ _ _).andThen fun opts _ => ?_
    split
    · exact .ok _
    · exact .refused _
    · rename_i fault hmapping hbuild
      obtain ⟨e, rfl⟩ := build_error ht hbuild
      exact absurd rfl (hmapping e)
  split
  · exact ofOptions_stops ..
  split
  · exact ofOptions_stops ..
  split
  · exact ofOptions_stops ..
  · exact .refused _

/-- **A switch rule** stops the compiler with its switch. -/
theorem readSwitchRule_stops (isDefault : Bool) (source : String) (args : List String) (target : String)
    (targetArgs : List String) :
    StopsIn (Nameless switchButton switchStick source args)
      (Compile.readSwitchRule isDefault source args target targetArgs) := by
  unfold Compile.readSwitchRule
  refine (readSwitch_stops source args).andThen fun switch _ => ?_
  refine (readModifier_stops target targetArgs).andThen fun modifier _ => ?_
  cases modifier with
  | some m => exact .ok _
  | none =>
      simp only []
      split
      · split
        · exact .refused _
        · exact ofOptions_stops ..
      split
      · exact ofOptions_stops ..
      split
      · exact ofOptions_stops ..
      · exact .refused _

/-- **A rule line that leaves a name empty**: what it reacts to is one. -/
inductive NamelessLine (line : String) : Prop where
  | trigger {head source target : String} {args targetArgs : List String}
    (split : splitRule line = .ok (head :: source :: args, target :: targetArgs))
    (kind : Text.lower head = "[trigger]") (nameless : Nameless triggerButton triggerStick source args)
  | switch {head source target : String} {args targetArgs : List String}
    (split : splitRule line = .ok (head :: source :: args, target :: targetArgs))
    (kind : Text.lower head = "[switch]") (nameless : Nameless switchButton switchStick source args)

/-- A line that is split says itself whether it leaves a name empty. -/
theorem namelessLine_iff {line head source target : String} {args targetArgs : List String}
    (hsplit : splitRule line = .ok (head :: source :: args, target :: targetArgs)) :
    NamelessLine line ↔ (Text.lower head = "[trigger]" ∧ Nameless triggerButton triggerStick source args) ∨
      (Text.lower head = "[switch]" ∧ Nameless switchButton switchStick source args) := by
  constructor
  · rintro (⟨hsplit', hkind, hnameless⟩ | ⟨hsplit', hkind, hnameless⟩)
    · cases hsplit.symm.trans hsplit'
      exact .inl ⟨hkind, hnameless⟩
    · cases hsplit.symm.trans hsplit'
      exact .inr ⟨hkind, hnameless⟩
  · rintro (⟨hkind, hnameless⟩ | ⟨hkind, hnameless⟩)
    · exact .trigger hsplit hkind hnameless
    · exact .switch hsplit hkind hnameless

/-- A line that is refused before anything is read of what it reacts to leaves no name empty. -/
theorem refused_early {line : String} {e : CompileError} {α : Type}
    (h : ∀ head source args target targetArgs, splitRule line ≠ .ok (head :: source :: args, target :: targetArgs)) :
    StopsIn (NamelessLine line) (.error (.compile e) : Except Fault α) := by
  refine (StopsIn.refused e).congr (iff_of_false not_false ?_)
  rintro (⟨hsplit, -, -⟩ | ⟨hsplit, -, -⟩)
  · exact h _ _ _ _ _ hsplit
  · exact h _ _ _ _ _ hsplit

/-- **A rule line** stops the compiler exactly when it leaves a name empty. -/
theorem readLine_stops {mappings : List (String × List Json)} (ht : TextLines mappings) (isDefault : Bool)
    (line : String) : StopsIn (NamelessLine line) (readLine mappings isDefault line) := by
  unfold readLine
  match hsplit : splitRule line with
  | .ok (head :: source :: args, target :: targetArgs) =>
      simp only []
      split
      · rename_i htrigger
        refine ((readCondition_stops source args).andThen fun condition _ =>
          (readAction_stops ht target targetArgs).andThen fun action _ => .ok _).congr ?_
        simp [namelessLine_iff hsplit, htrigger]
      split
      · rename_i hswitch
        refine ((readSwitchRule_stops isDefault source args target targetArgs).andThen fun k _ => .ok _).congr ?_
        simp [namelessLine_iff hsplit, hswitch]
      · rename_i htrigger hswitch
        refine (StopsIn.refused _).congr ?_
        simp [namelessLine_iff hsplit, htrigger, hswitch]
  | .error e => exact refused_early (by simp [hsplit])
  | .ok ([], _) => exact refused_early (by simp [hsplit])
  | .ok ([_], _) => exact refused_early (by simp [hsplit])
  | .ok (_ :: _ :: _, []) => exact refused_early (by simp [hsplit])

end Rule

open Rule (Reads readLine NamelessLine)

/-! ## Blocks -/

/-- **A configuration of texts**: its declarations, its rules and the lines of its word mappings are. Its phrases are
handed on as they are. -/
structure Config.Textual (cfg : Config) : Prop where
  declarations : ∀ block ∈ cfg.modes, ∃ text, block.declaration = .str text
  rules : ∀ block ∈ cfg.modes, ∀ rule ∈ block.rules, ∃ line, rule = .str line
  mappings : TextLines cfg.wordMappings

/-- **Rule lines that stop the compiler**: one of them leaves a name empty, and those before it are read. -/
inductive RulesStall (cfg : Config) (isDefault : Bool) : List Json → Prop where
  | here {rule : Json} {line : String} {more : List Json} (text : rule.text = .ok line)
    (nameless : NamelessLine line) : RulesStall cfg isDefault (rule :: more)
  | later {rule : Json} {e : RuleElement} {more : List Json} (reads : Reads cfg isDefault rule e)
    (rest : RulesStall cfg isDefault more) : RulesStall cfg isDefault (rule :: more)

/-- **Blocks that stop the compiler**, after modes of some ids: the declaration of one of them leaves its id empty, or
its rule lines stop the compiler, and the blocks before it compile. -/
inductive BlocksStall (cfg : Config) : List String → Bool → List ModeBlock → Prop where
  | declaration {seen : List String} {isDefault : Bool} {block : ModeBlock} {more : List ModeBlock} {d : Declaration}
    (declared : Compile.readDeclaration cfg 0 block = .ok d) (nameless : d.id = none) :
    BlocksStall cfg seen isDefault (block :: more)
  | rules {seen : List String} {isDefault : Bool} {block : ModeBlock} {more : List ModeBlock} {id : String}
    (declared : block.Names cfg id) (new : id ∉ seen) (stall : RulesStall cfg isDefault block.rules) :
    BlocksStall cfg seen isDefault (block :: more)
  | later {seen : List String} {isDefault : Bool} {block : ModeBlock} {more : List ModeBlock} {id : String}
    (declared : block.Names cfg id) (new : id ∉ seen) (read : ∀ rule ∈ block.rules, ∃ e, Reads cfg isDefault rule e)
    (rest : BlocksStall cfg (seen ++ [id]) false more) : BlocksStall cfg seen isDefault (block :: more)

/-- **A configuration that stops the compiler.** -/
def Config.Stalls (cfg : Config) : Prop :=
  BlocksStall cfg [] true cfg.modes

variable {cfg : Config} {isDefault : Bool}

/-- **The rule lines of a block are compiled one after another.** -/
theorem addRules_cons (line : String) (rest : List Json) (mode : Mode) (shifts : List Shift) :
    Compile.addRules cfg isDefault (.str line :: rest) mode shifts = (do
      let e ← Compile.within (.inLine line) (readLine cfg.wordMappings isDefault line)
      Compile.addRules cfg isDefault rest (e.add (mode, shifts)).1 (e.add (mode, shifts)).2) := by
  simp only [Compile.addRules, Json.text, addRule_eq]
  cases readLine cfg.wordMappings isDefault line with
  | ok e => rfl
  | error fault => cases fault <;> rfl

/-- **The rule lines of a block.** -/
theorem addRules_stops (ht : TextLines cfg.wordMappings) {rules : List Json}
    (hrules : ∀ rule ∈ rules, ∃ line, rule = .str line) (mode : Mode) (shifts : List Shift) :
    StopsIn (RulesStall cfg isDefault rules) (Compile.addRules cfg isDefault rules mode shifts) := by
  induction rules generalizing mode shifts with
  | nil => exact (StopsIn.ok _).congr (iff_of_false not_false nofun)
  | cons rule rest ih =>
      obtain ⟨line, rfl⟩ := hrules rule List.mem_cons_self
      rw [addRules_cons]
      refine (((Rule.readLine_stops ht isDefault line).within _).bind fun e _ =>
        ih (fun rule hrule => hrules rule (List.mem_cons_of_mem _ hrule)) _ _).congr ?_
      constructor
      · rintro (hnameless | ⟨e, hread, hrest⟩)
        · exact .here rfl hnameless
        · exact .later ⟨line, rfl, within_ok hread⟩ hrest
      · rintro (⟨htext, hnameless⟩ | ⟨⟨line', htext, hread⟩, hrest⟩)
        · obtain rfl := Except.ok.inj htext
          exact .inl hnameless
        · obtain rfl := Except.ok.inj htext
          exact .inr ⟨_, by rw [hread]; rfl, hrest⟩

/-- A declaration stops the compiler only when it is used. -/
theorem readDeclaration_stops {block : ModeBlock} (ht : ∃ text, block.declaration = .str text) (i : Nat) :
    StopsIn False (Compile.readDeclaration cfg i block) := by
  obtain ⟨text, htext⟩ := ht
  unfold Compile.readDeclaration
  simp only [htext, Json.text]
  split
  · exact .refused _
  · exact .refused _
  · refine StopsIn.within _ ?_
    unfold Declaration.read
    simp only []
    split
    · exact Rule.ofOptions_stops ..
    split
    · exact Rule.ofOptions_stops ..
    split
    · refine (Rule.readOptions_stops _ _ _).andThen fun opts _ => ?_
      split
      · exact .ok _
      · exact .refused _
    · exact .refused _

theorem startMode_stops (d : Declaration) (kind : ModeKind) (seen : List String) :
    StopsIn (d.id = none) (Compile.startMode d kind seen) := by
  unfold Compile.startMode
  cases d.id with
  | none => exact ⟨fun _ he => .inr (Except.error.inj he).symm, by simp⟩
  | some id =>
      simp only []
      split
      · exact (StopsIn.refused _).congr (by simp)
      · exact (StopsIn.ok _).congr (by simp)

variable {recognizers : Bool}

/-- **The blocks of a configuration are compiled one after another.** -/
theorem blocks_cons (made : Nat) (done : List Mode) (shifts : List Shift) (block : ModeBlock) (more : List ModeBlock) :
    (Compile.blocks cfg recognizers made done shifts (block :: more)).2 = (do
      let d ← Compile.readDeclaration cfg done.length block
      let given := recognizers && d.wantsRecognizer
      let start ← Compile.startMode d (if given then Declaration.withRecognizer made d.kind else d.kind)
        (done.map Mode.id)
      let out ← Compile.addRules cfg done.isEmpty block.rules start shifts
      (Compile.blocks cfg recognizers (if given then made + 1 else made) (done ++ [out.1]) out.2 more).2) := by
  simp only [Compile.blocks]
  cases Compile.readDeclaration cfg done.length block with
  | error fault => rfl
  | ok d =>
      simp only [bind, Except.bind]
      cases Compile.startMode d _ (done.map Mode.id) with
      | error fault => rfl
      | ok start =>
          simp only []
          cases Compile.addRules cfg done.isEmpty block.rules start shifts <;> rfl

/-- Rules that compile are all read. -/
theorem addRules_all {rules : List Json} {mode : Mode} {shifts : List Shift} {out : Mode × List Shift}
    (h : Compile.addRules cfg isDefault rules mode shifts = .ok out) :
    ∀ rule ∈ rules, ∃ e, Reads cfg isDefault rule e := by
  obtain ⟨es, hes, -⟩ := addRules_ok_iff.mp h
  intro rule hrule
  obtain ⟨i, hi, rfl⟩ := List.getElem_of_mem hrule
  exact ⟨_, hes.get hi (hes.length_eq ▸ hi)⟩

/-- **The blocks of a configuration.** -/
theorem blocks_stops (ht : TextLines cfg.wordMappings) {bs : List ModeBlock}
    (hdeclarations : ∀ block ∈ bs, ∃ text, block.declaration = .str text)
    (hrules : ∀ block ∈ bs, ∀ rule ∈ block.rules, ∃ line, rule = .str line) (made : Nat) (done : List Mode)
    (shifts : List Shift) :
    StopsIn (BlocksStall cfg (done.map Mode.id) done.isEmpty bs)
      (Compile.blocks cfg recognizers made done shifts bs).2 := by
  induction bs generalizing made done shifts with
  | nil => exact (StopsIn.ok _).congr (iff_of_false not_false nofun)
  | cons block more ih =>
      rw [blocks_cons]
      refine ((readDeclaration_stops (hdeclarations block List.mem_cons_self) _).bind fun d hd =>
        (startMode_stops ..).bind fun start hstart =>
          (addRules_stops ht (hrules block List.mem_cons_self) ..).bind fun out hadd =>
            ih (fun b hb => hdeclarations b (List.mem_cons_of_mem _ hb))
              (fun b hb => hrules b (List.mem_cons_of_mem _ hb)) _ _ _).congr ?_
      have hids (out : Mode × List Shift) : (done ++ [out.1]).map Mode.id = done.map Mode.id ++ [out.1.id] := by simp
      have hrole (mode : Mode) : (done ++ [mode]).isEmpty = false := by simp
      simp only [hids, hrole]
      constructor
      · rintro (h | ⟨d, hd, hnone | ⟨start, hstart, hstall | ⟨⟨mode, shifts'⟩, hadd, hrest⟩⟩⟩)
        · exact h.elim
        · exact .declaration (readDeclaration_index 0 hd) hnone
        · obtain ⟨id, hid, hnew, rfl⟩ := startMode_ok_iff.mp hstart
          exact .rules (names_iff.mpr ⟨d, readDeclaration_index 0 hd, hid⟩) hnew hstall
        · obtain ⟨id, hid, hnew, rfl⟩ := startMode_ok_iff.mp hstart
          rw [addRules_id hadd] at hrest
          exact .later (names_iff.mpr ⟨d, readDeclaration_index 0 hd, hid⟩) hnew (addRules_all hadd) hrest
      · rintro (⟨hd, hnone⟩ | ⟨hname, hnew, hstall⟩ | ⟨hname, hnew, hread, hrest⟩)
        · exact .inr ⟨_, readDeclaration_index _ hd, .inl hnone⟩
        · obtain ⟨d, hd, hid⟩ := names_iff.mp hname
          exact .inr ⟨d, readDeclaration_index _ hd, .inr ⟨_, startMode_ok_iff.mpr ⟨_, hid, hnew, rfl⟩, .inl hstall⟩⟩
        · obtain ⟨d, hd, hid⟩ := names_iff.mp hname
          obtain ⟨es, hes⟩ := exists_elements hread
          exact .inr ⟨d, readDeclaration_index _ hd, .inr ⟨_, startMode_ok_iff.mpr ⟨_, hid, hnew, rfl⟩,
            .inr ⟨_, addRules_ok_iff.mpr ⟨es, hes, rfl⟩, hrest⟩⟩⟩

/-! ## The words that stop the compiler -/

/-- The words that leave a name empty. -/
def emptyingWords : List String :=
  ["id", "side", "dir"].flatMap emptying

/-- A word of a block: of its declaration, or of the left side of a rule line. -/
def ModeBlock.HasWord (block : ModeBlock) (w : String) : Prop :=
  (∃ text words, block.declaration = .str text ∧ Text.Quoted.split text.toList = .ok words ∧ w ∈ words) ∨
  ∃ line lefts rights, .str line ∈ block.rules ∧ Rule.splitRule line = .ok (lefts, rights) ∧ w ∈ lefts

theorem json_text {value : Json} {text : String} (h : value.text = .ok text) : value = .str text := by
  cases value with
  | str s => rw [Except.ok.inj h]
  | _ => exact absurd h (by simp [Json.text])

/-- One of the rule lines that stop the compiler leaves a name empty. -/
theorem rulesStall_line {rules : List Json} (h : RulesStall cfg isDefault rules) :
    ∃ line, .str line ∈ rules ∧ NamelessLine line := by
  induction h with
  | @here rule line more htext hnameless =>
      obtain rfl := json_text htext
      exact ⟨line, List.mem_cons_self, hnameless⟩
  | later _ _ ih =>
      obtain ⟨line, hline, hnameless⟩ := ih
      exact ⟨line, List.mem_cons_of_mem _ hline, hnameless⟩

/-- An option of a keyword that is left empty is so by one of two words. -/
theorem emptied_word {keyword : String} {specs : List OptionSpec} {args : List String} {opts : Options}
    (hs : OptionSpec.Spelled specs) (h : Rule.readOptions keyword specs args = .ok opts) {name : String}
    (hname : name ∈ ["id", "side", "dir"]) (hempty : opts.last? name = some .emptied) :
    ∃ w ∈ emptyingWords, w ∈ args := by
  obtain ⟨w, hw, hmem⟩ := OptionSpec.parse_emptied hs (Rule.readOptions_ok h) (Options.last_mem hempty)
  exact ⟨w, List.mem_flatMap.mpr ⟨name, hname, hw⟩, hmem⟩

theorem nameless_emptying {buttons sticks : List OptionSpec} (hb : OptionSpec.Spelled buttons)
    (hs : OptionSpec.Spelled sticks) {source : String} {args : List String}
    (h : Rule.Nameless buttons sticks source args) : ∃ w ∈ emptyingWords, w ∈ args := by
  rcases h with ⟨-, hread, hempty⟩ | ⟨-, hread, hempty⟩ | ⟨-, hread, -, hempty⟩
  · exact emptied_word hb hread (by simp) hempty
  · exact emptied_word hs hread (by simp) hempty
  · exact emptied_word hs hread (by simp) hempty

/-- **A rule line that leaves a name empty** has a word that does so. -/
theorem namelessLine_emptying {line : String} (h : NamelessLine line) :
    ∃ lefts rights, Rule.splitRule line = .ok (lefts, rights) ∧ ∃ w ∈ emptyingWords, w ∈ lefts := by
  have hargs {head source : String} {args : List String} : (∃ w ∈ emptyingWords, w ∈ args) →
      ∃ w ∈ emptyingWords, w ∈ head :: source :: args := by
    rintro ⟨w, hw, hmem⟩
    exact ⟨w, hw, by simp [hmem]⟩
  rcases h with ⟨hsplit, -, hnameless⟩ | ⟨hsplit, -, hnameless⟩
  · exact ⟨_, _, hsplit, hargs (nameless_emptying (by decide) (by decide) hnameless)⟩
  · exact ⟨_, _, hsplit, hargs (nameless_emptying (by decide) (by decide) hnameless)⟩

/-- The id of a declaration is the text of its option. -/
theorem read_id {lists : List (String × List Json)} {name : String} {args : List String} {d : Declaration}
    (h : Declaration.read lists name args = .ok d) :
    ∃ keyword specs opts, Rule.readOptions keyword specs args = .ok opts ∧ OptionSpec.Spelled specs ∧
      OptionSpec.TakesText specs "id" ∧ Declaration.idOption ∈ specs ∧ d.id = opts.text "id" none := by
  unfold Declaration.read at h
  simp only [] at h
  split at h
  · obtain ⟨opts, hopts, h⟩ := except_bind_ok h
    obtain rfl := Except.ok.inj h
    exact ⟨_, _, opts, hopts, by decide, by decide, by decide, rfl⟩
  split at h
  · obtain ⟨opts, hopts, h⟩ := except_bind_ok h
    obtain rfl := Except.ok.inj h
    exact ⟨_, _, opts, hopts, by decide, by decide, by decide, rfl⟩
  split at h
  · obtain ⟨opts, hopts, h⟩ := except_bind_ok h
    split at h
    · obtain rfl := Except.ok.inj h
      exact ⟨_, _, opts, hopts, by decide, by decide, by decide, rfl⟩
    · exact absurd h (by simp)
  · exact absurd h (by simp)

/-- **A declaration that leaves its id empty** has a word that does so. -/
theorem declaration_emptying {block : ModeBlock} {i : Nat} {d : Declaration}
    (h : Compile.readDeclaration cfg i block = .ok d) (hnone : d.id = none) : ∃ w ∈ emptyingWords, block.HasWord w := by
  unfold Compile.readDeclaration at h
  split at h
  · exact absurd h (by simp)
  · rename_i text htext
    split at h
    · exact absurd h (by simp)
    · exact absurd h (by simp)
    · rename_i name args hwords
      obtain ⟨keyword, specs, opts, hopts, hs, ht, hmem, hid⟩ := read_id (within_ok h)
      have hgiven : opts.has "id" = true := Rule.readOptions_has hopts hmem rfl
      have hempty : opts.last? "id" = some .emptied :=
        (OptionSpec.text_none_iff hs ht (Rule.readOptions_ok hopts) hgiven).mp (hid.symm.trans hnone)
      obtain ⟨w, hw, hin⟩ := emptied_word hs hopts (by simp) hempty
      exact ⟨w, hw, .inl ⟨text, _, json_text htext, hwords, List.mem_cons_of_mem _ hin⟩⟩

/-- **Blocks that stop the compiler** have a word that leaves a name empty. -/
theorem stalls_emptying {seen : List String} {bs : List ModeBlock} (h : BlocksStall cfg seen isDefault bs) :
    ∃ block ∈ bs, ∃ w ∈ emptyingWords, block.HasWord w := by
  induction h with
  | declaration hd hnone => exact ⟨_, List.mem_cons_self, declaration_emptying hd hnone⟩
  | rules _ _ hstall =>
      obtain ⟨line, hline, hnameless⟩ := rulesStall_line hstall
      obtain ⟨lefts, rights, hsplit, w, hw, hmem⟩ := namelessLine_emptying hnameless
      exact ⟨_, List.mem_cons_self, w, hw, .inr ⟨line, lefts, rights, hline, hsplit, hmem⟩⟩
  | later _ _ _ _ ih =>
      obtain ⟨block, hblock, hword⟩ := ih
      exact ⟨block, List.mem_cons_of_mem _ hblock, hword⟩

/-! ## A whole configuration -/

/-- A program is not built on a configuration that does not compile. -/
theorem build_refused {start : Studio} {fault : Fault}
    (h : (compileRules cfg start.hasRecognizers start.recognizers.length).2 = .error fault) :
    Studio.build cfg start = .error fault := by
  obtain ⟨made, hmade⟩ : ∃ made,
      compileRules cfg start.hasRecognizers start.recognizers.length = (made, .error fault) := ⟨_, Prod.ext rfl h⟩
  have hreload : (reload cfg).run start = .error fault (start.withRecognizers made) := by
    show reload cfg start = _
    unfold reload
    rw [bind_apply, install_refused hmade]
  unfold Studio.build
  rw [hreload]

/-- **The rules of a configuration of texts.** -/
theorem rules_stop (ht : cfg.Textual) (recognizers : Bool) (made : Nat) :
    StopsIn cfg.Stalls (compileRules cfg recognizers made).2 := by
  by_cases hne : cfg.modes = []
  · have hnone : (compileRules cfg recognizers made).2 = .error (.compile .noModes) := by
      unfold compileRules
      rw [hne]
      rfl
    rw [hnone]
    refine (StopsIn.refused _).congr (iff_of_false not_false fun hstalls => ?_)
    unfold Config.Stalls at hstalls
    rw [hne] at hstalls
    nomatch hstalls
  · rw [compileRules_nonempty hne]
    exact blocks_stops ht.mappings ht.declarations ht.rules made [] []

/-- **What becomes of a configuration of texts.** It compiles, or is refused with an explanation, or stops the
compiler without one. The last happens exactly when, before anything in it is refused, a rule line leaves the button,
the stick or the direction that it reacts to empty, or a declaration its id; then there is a word like `-id=--` in a
line, and a run that is started on it dies. -/
theorem compileRules_stops (ht : cfg.Textual) (recognizers : Bool) (made : Nat) :
    ((∃ out, (compileRules cfg recognizers made).2 = .ok out) ∨
      (∃ e, (compileRules cfg recognizers made).2 = .error (.compile e)) ∨
      (compileRules cfg recognizers made).2 = .error (.shape .wrongKind)) ∧
    ((compileRules cfg recognizers made).2 = .error (.shape .wrongKind) ↔ cfg.Stalls) ∧
    (cfg.Stalls → ∃ block ∈ cfg.modes, ∃ w ∈ emptyingWords, block.HasWord w) ∧
    (cfg.Stalls → ∀ (l : Launch) (level : String), Config.load l.text = .ok cfg →
      logLevel l.level cfg.settings = .ok level → l.run = .error (.shape .wrongKind)) := by
  have hstops (recognizers : Bool) (made : Nat) : StopsIn cfg.Stalls (compileRules cfg recognizers made).2 :=
    rules_stop ht recognizers made
  refine ⟨?_, (hstops recognizers made).exactly, stalls_emptying, fun hstalls l level hload hlevel => ?_⟩
  · cases hr : (compileRules cfg recognizers made).2 with
    | ok out => exact .inl ⟨out, rfl⟩
    | error fault =>
        rcases (hstops recognizers made).reasons fault hr with ⟨e, rfl⟩ | rfl
        · exact .inr (.inl ⟨e, rfl⟩)
        · exact .inr (.inr rfl)
  · unfold Launch.run
    simp only [hload, hlevel, bind, Except.bind, build_refused ((hstops _ _).exactly.mpr hstalls)]

/-- Two modes, the second of which has a switch on a stick in a direction that is left empty. -/
def aimless : Config :=
  { modes := [{ declaration := .str "[gyro] -id a", rules := [.str "[trigger] button -id X -> [mode] -id=--"] },
      { declaration := .str "[idle] -id b", rules := [.str "[switch] stick -dir=-- --side Left -> [mouse_toggle]"] }] }

theorem compileRules_stops_aimless : aimless.Textual ∧ aimless.Stalls ∧
    (∃ block ∈ aimless.modes, ∃ w ∈ emptyingWords, block.HasWord w) ∧
    (compileRules aimless true 0).2 = .error (.shape .wrongKind) := by
  have ht : aimless.Textual := by
    refine ⟨?_, ?_, ?_⟩ <;> simp [aimless, TextLines]
  have hstops : (compileRules aimless true 0).2 = .error (.shape .wrongKind) := by with_unfolding_all rfl
  have hstalls := (compileRules_stops ht true 0).2.1.mp hstops
  exact ⟨ht, hstalls, (compileRules_stops ht true 0).2.2.1 hstalls, hstops⟩

/-- A mode whose only rule line leaves its button empty. -/
def buttonless : Config :=
  { modes := [{ declaration := .str "[idle] -id a", rules := [.str "[trigger] button -id=-- -> [flush]"] }] }

/-- **Not every configuration of texts compiles or is refused with an explanation.** -/
theorem not_compiled_or_refused : ¬ ∀ cfg : Config, cfg.Textual → ∀ recognizers made,
    (∃ out, (compileRules cfg recognizers made).2 = .ok out) ∨
      ∃ e, (compileRules cfg recognizers made).2 = .error (.compile e) := by
  intro h
  have ht : buttonless.Textual := by
    refine ⟨?_, ?_, ?_⟩ <;> simp [buttonless, TextLines]
  have hstops : (compileRules buttonless true 0).2 = .error (.shape .wrongKind) := by with_unfolding_all rfl
  rcases h buttonless ht true 0 with ⟨out, hout⟩ | ⟨e, he⟩
  · exact absurd (hstops.symm.trans hout) (by simp)
  · exact absurd (hstops.symm.trans he) (by simp)

end PadScribe
