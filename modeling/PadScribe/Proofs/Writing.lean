import PadScribe.Proofs.Compiling
import PadScribe.Proofs.KeyNames

/-!
# `Proofs.Writing` — rules compile to what they were written for

A trigger can be written down as a rule line: its condition and its action as words, with each option and its value
in one word, all of them in double quotes. Whatever the texts in it are, the line compiles to that trigger, unless
a text has an arrow in it or is a bare `--`, which options drop.

## Contents

* `Writable` — texts that can be written
* `assign`, `OptionSpec.Assigns`, `OptionSpec.parse_assigned` — options with their values
* `Condition.Written`, `readCondition_written` — conditions as words
* `Action.Written`, `readAction_written` — actions as words
* `addRule_written` — whole lines
-/

namespace PadScribe

/-! ## Options -/

/-- A text that a rule can give to an option. -/
structure Writable (s : String) : Prop where
  arrow : Text.NoArrow s.toList
  dashes : s ≠ "--"

/-- The short spelling of an option. -/
def dashed (name : String) : String :=
  String.ofList ('-' :: name.toList)

/-- The word that gives an option a value. -/
def assign (name value : String) : String :=
  String.ofList ('-' :: (name.toList ++ '=' :: value.toList))

namespace OptionSpec

variable {specs : List OptionSpec}

/-- Options none of whose spellings looks like one with a value. -/
def Bare (specs : List OptionSpec) : Prop :=
  ∀ o ∈ specs, ∀ spelling ∈ o.spellings, '=' ∉ spelling.toList

instance (specs : List OptionSpec) : Decidable (Bare specs) :=
  inferInstanceAs (Decidable (∀ o ∈ specs, ∀ spelling ∈ o.spellings, '=' ∉ spelling.toList))

/-- A word that gives one of some options its value. -/
inductive Assigns (specs : List OptionSpec) : String → String × OptionValue → Prop where
  | intro {o : OptionSpec} {name value : String} {given : OptionValue} (named : name ≠ "")
    (bare : '=' ∉ name.toList) (found : find? specs (dashed name) = some o)
    (valued : o.arity ≠ .zero) (taken : o.take [value] = .ok given) :
    Assigns specs (assign name value) (o.name, given)

theorem cutAtEquals_assign {name : String} (h : '=' ∉ name.toList) (value : String) :
    cutAtEquals? (assign name value).toList = some (dashed name, value) := by
  have hspan : (assign name value).toList.span (· != '=') = ('-' :: name.toList, '=' :: value.toList) := by
    have hall : ∀ c ∈ '-' :: name.toList, (c != '=') = true := by
      intro c hc
      rcases List.mem_cons.mp hc with rfl | hc
      · decide
      · exact bne_iff_ne.mpr fun he => h (he ▸ hc)
    have hword : (assign name value).toList = ('-' :: name.toList) ++ '=' :: value.toList := by
      simp [assign]
    rw [hword, List.span_eq_takeWhile_dropWhile, List.takeWhile_append_of_pos hall,
      List.dropWhile_append_of_pos hall]
    simp
  unfold cutAtEquals?
  rw [hspan]
  simp [dashed]

/-- **A word with a value** is told apart by its name, whatever the value is. -/
theorem classify_assign (hs : Bare specs) {o : OptionSpec} {name : String} (hn : name ≠ "")
    (hb : '=' ∉ name.toList) (hf : find? specs (dashed name) = some o) (value : String) :
    classify specs false (assign name value)
      = .ok (.option o (dashed name) (some value)) := by
  have hwhole : find? specs (assign name value) = none := by
    refine List.find?_eq_none.mpr fun o' ho' hmem => ?_
    exact hs o' ho' _ (List.contains_iff_mem.mp hmem) (by simp [assign])
  obtain ⟨c, cs, hc⟩ : ∃ c cs, name.toList = c :: cs :=
    List.exists_cons_of_ne_nil fun h => hn (String.toList_eq_nil_iff.mp h)
  have hchars : (assign name value).toList = '-' :: c :: (cs ++ '=' :: value.toList) := by
    simp [assign, hc]
  unfold classify
  rw [cutAtEquals_assign hb, hchars]
  simp only [hwhole, Option.bind_some, hf, Option.map_some]

theorem assign_ne_dashes (name value : String) : assign name value ≠ "--" := by
  intro h
  have hmem : '=' ∈ (assign name value).toList := by simp [assign]
  rw [h] at hmem
  exact absurd hmem (by decide)

/-- Words with values are what is given, and nothing is left over. -/
theorem walk_assigned (hs : Bare specs) {words : List String} {given : Options}
    (h : List.Forall₂ (Assigns specs) words given) :
    ∃ ws, classifyAll specs false words = .ok ws ∧ walk specs ws = .ok (given, []) := by
  induction h with
  | nil => exact ⟨[], rfl, by rw [walk]⟩
  | cons hfirst _ ih =>
      obtain ⟨ws, hws, hwalk⟩ := ih
      obtain ⟨hn, hb, hf, harity, htake⟩ := hfirst
      rename_i o name value given
      refine ⟨.option o (dashed name) (some value) :: ws, ?_, ?_⟩
      · rw [classifyAll, if_neg (assign_ne_dashes name value), classify_assign hs hn hb hf value]
        simp only [hws, Except.map]
      · have hconsume : consume specs o (dashed name) (some value) ws
            = .ok ([(o.name, given)], 0) := by
          simp only [consume, if_neg harity, htake, Except.map]
        rw [walk, hconsume]
        simp only [List.drop_zero, hwalk, Except.map, List.singleton_append]

/-- Words that are walked to their end give what is required of them, or are refused. -/
theorem parse_walked {words : List String} {ws : List Word} {given : Options}
    (hws : classifyAll specs false words = .ok ws) (hwalk : walk specs ws = .ok (given, []))
    (hr : ∀ o ∈ specs, o.required = true → o.name ∈ given.map Prod.fst) :
    OptionSpec.parse specs false words = .ok given := by
  have hmissing : (specs.filter fun o => o.required && !given.any (·.1 == o.name)) = [] := by
    refine List.filter_eq_nil_iff.mpr fun o ho hmissing => ?_
    obtain ⟨hrequired, hnone⟩ := Bool.and_eq_true_iff.mp hmissing
    obtain ⟨g, hg, hname⟩ := List.mem_map.mp (hr o ho hrequired)
    have hsome : given.any (·.1 == o.name) = true := List.any_eq_true.mpr ⟨g, hg, beq_iff_eq.mpr hname⟩
    rw [hsome] at hnone
    exact absurd hnone (by decide)
  unfold OptionSpec.parse
  simp only [hws, hwalk, bind, Except.bind, hmissing]
  rfl

/-- **Words with values** are read as what they give, if they give all that is required. -/
theorem parse_assigned (hs : Bare specs) {words : List String} {given : Options}
    (h : List.Forall₂ (Assigns specs) words given)
    (hr : ∀ o ∈ specs, o.required = true → o.name ∈ given.map Prod.fst) :
    OptionSpec.parse specs false words = .ok given := by
  obtain ⟨ws, hws, hwalk⟩ := walk_assigned hs h
  exact parse_walked hws hwalk hr

/-- A word that does not look like an option is a value. -/
theorem classify_value {word : String} (h : ∀ c cs, word.toList ≠ '-' :: c :: cs) :
    classify specs false word = .ok (.value word) := by
  unfold classify
  split
  · rename_i second rest hword
    exact absurd hword (h second rest)
  · rfl

theorem classifyAll_values {words : List String} (h : ∀ w ∈ words, ∀ c cs, w.toList ≠ '-' :: c :: cs) :
    classifyAll specs false words = .ok (words.map .value) := by
  induction words with
  | nil => rfl
  | cons w words ih =>
      have hw := h w List.mem_cons_self
      have hne : w ≠ "--" := by
        rintro rfl
        exact hw '-' [] rfl
      rw [classifyAll, if_neg hne, classify_value hw]
      simp only [ih fun w' hw' => h w' (List.mem_cons_of_mem _ hw'), Except.map, List.map_cons]

/-- Words that do not look like options are the values of the option before them. -/
theorem walk_listed {o : OptionSpec} {spelling : String} {values : List String} (ho : o.arity = .atLeastOne)
    (hne : values ≠ []) (hd : "--" ∉ values) :
    walk specs (.option o spelling none :: values.map .value) = .ok ([(o.name, .texts values)], []) := by
  have hleading : leadingValues (values.map .value) = values := by
    induction values with
    | nil => rfl
    | cons v vs ih =>
        cases vs with
        | nil => rfl
        | cons v' vs =>
            have hrest := ih (by simp) fun h => hd (List.mem_cons_of_mem _ h)
            show v :: leadingValues ((v' :: vs).map .value) = _
            rw [hrest]
  have hconsume : consume specs o spelling none (values.map .value)
      = .ok ([(o.name, .texts values)], values.length) := by
    have hlength : values.length ≠ 0 := fun h => hne (List.length_eq_zero_iff.mp h)
    simp only [consume, hleading, wants, ho, if_neg hlength, List.take_length, take,
      List.erase_of_not_mem hd, Except.map]
  rw [walk, hconsume]
  have hdrop : (values.map Word.value).drop values.length = [] := by simp
  simp only [hdrop]
  rw [walk]
  rfl

end OptionSpec

/-! ## Texts in words -/

/-- Characters without the tip of an arrow have no arrow. -/
theorem noArrow_of_tip {cs : List Char} (h : '>' ∉ cs) : Text.NoArrow cs := by
  intro harrow
  exact h (harrow.subset (by simp))

theorem noArrow_assign {name value : String} (hn : '>' ∉ name.toList) (hv : Text.NoArrow value.toList) :
    Text.NoArrow (assign name value).toList := by
  have hword : (assign name value).toList = ('-' :: name.toList) ++ '=' :: value.toList := by
    simp [assign]
  have hname : '>' ∉ '-' :: name.toList := by simp [hn]
  rw [hword]
  exact Text.noArrow_between (by decide) (by decide) (noArrow_of_tip hname) hv

namespace OptionSpec

variable {specs : List OptionSpec} {o : OptionSpec} {value : String}

/-- An option that takes one value takes the one attached to it. -/
theorem take_one (ho : o.arity = .one) (hv : value ≠ "--") : o.take [value] = o.check value := by
  have herase : [value].erase "--" = [value] := List.erase_of_not_mem (by simpa using hv.symm)
  unfold take
  simp only [herase, ho]

/-- **A word that gives its value to an option**, which takes one. -/
theorem assigns_one {name : String} {given : OptionValue} (hn : name ≠ "") (hb : '=' ∉ name.toList)
    (hf : find? specs (dashed name) = some o) (hname : o.name = name) (ho : o.arity = .one) (hv : value ≠ "--")
    (hc : o.check value = .ok given) : Assigns specs (assign name value) (name, given) := by
  have htake : o.take [value] = .ok given := (take_one ho hv).trans hc
  have h : Assigns specs (assign name value) (o.name, given) := .intro hn hb hf (by rw [ho]; decide) htake
  rwa [hname] at h

/-- A truth value as a word. -/
def flagWord (b : Bool) : String :=
  if b then "true" else "false"

/-- A word that raises or lowers a flag. -/
theorem assigns_flag {name : String} (hn : name ≠ "") (hb : '=' ∉ name.toList)
    (hf : find? specs (dashed name) = some (Rule.flagOption name)) (b : Bool) :
    Assigns specs (assign name (flagWord b)) (name, .flag b) := by
  have htake : (Rule.flagOption name).take [flagWord b] = .ok (.flag b) := by
    cases b <;> with_unfolding_all rfl
  have hvalued : (Rule.flagOption name).arity ≠ .zero := by simp [Rule.flagOption, Rule.option]
  exact .intro hn hb hf hvalued htake

end OptionSpec

/-- Words with values, as the options of a keyword. -/
theorem readOptions_assigned {specs : List OptionSpec} {words : List String} {given : Options} (keyword : String)
    (hs : OptionSpec.Bare specs) (h : List.Forall₂ (OptionSpec.Assigns specs) words given)
    (hr : ∀ o ∈ specs, o.required = true → o.name ∈ given.map Prod.fst) :
    Rule.readOptions keyword specs words = .ok given := by
  unfold Rule.readOptions
  rw [OptionSpec.parse_assigned hs h hr]

/-! ## Conditions -/

/-- **A condition as words**: its keyword, and its options with their values. -/
inductive Condition.Written : String → List String → Condition → Prop where
  | button (which : Button) (pressed : Bool) :
    Written "button" [assign "id" which.name, assign "whendown" (OptionSpec.flagWord pressed)]
      (.button which pressed)
  /-- A button reacts to its press unless its rule says otherwise. -/
  | press (which : Button) : Written "button" [assign "id" which.name] (.button which true)
  | stickMove (side : Side) : Written "stick" [assign "side" side.name] (.stickMove side)
  | stickZone (side : Side) (direction : Direction) (zone : direction ≠ .plain) :
    Written "stick" [assign "side" side.name, assign "dir" direction.name] (.stickZone side direction)
  | gyro : Written "gyro" [] .gyro
  | speech : Written "speech" [] .speech

theorem button_written (which : Button) :
    Button.ofName? which.name = some which ∧ which.name ≠ "--" ∧ '>' ∉ which.name.toList := by
  cases which <;> decide

theorem side_written (side : Side) :
    Side.ofName? side.name = some side ∧ side.name ≠ "--" ∧ '>' ∉ side.name.toList := by
  cases side <;> decide

theorem direction_written {direction : Direction} (h : direction ≠ .plain) :
    (Direction.ofName? direction.name).filter (· != .plain) = some direction ∧ direction.name ≠ "--" ∧
      '>' ∉ direction.name.toList := by
  cases direction with
  | plain => exact absurd rfl h
  | _ => decide

/-- A name that stands for something is found. -/
theorem named_found {α : Type} {find? : String → Option α} {unknown : String → CompileError} {name : String}
    {a : α} (h : find? name = some a) : Rule.named find? unknown (some name) = .ok a := by
  simp only [Rule.named, h]

/-- The keywords of the rules that are written here. -/
def keywords : List String :=
  ["[trigger]", "button", "stick", "gyro", "speech", "[notify]", "[speak]", "[mode]", "[click]", "[hotkey]"]

theorem lower_keyword : ∀ keyword ∈ keywords, Text.lower keyword = keyword := by
  decide +kernel

/-- **A condition is read as it was written.** -/
theorem readCondition_written {name : String} {args : List String} {c : Condition}
    (h : Condition.Written name args c) : Rule.readCondition name args = .ok c := by
  cases h with
  | button which pressed =>
      obtain ⟨hfound, hdashes, -⟩ := button_written which
      have hopts : Rule.readOptions "button" [Rule.requiredOption "id", Rule.flagOption "whendown"]
          [assign "id" which.name, assign "whendown" (OptionSpec.flagWord pressed)]
          = .ok [("id", .text which.name), ("whendown", .flag pressed)] := by
        refine readOptions_assigned _ (by decide) (.cons ?_ (.cons ?_ .nil))
          (by simp [Rule.requiredOption, Rule.flagOption, Rule.option])
        · exact OptionSpec.assigns_one (by decide) (by decide) rfl rfl rfl hdashes rfl
        · exact OptionSpec.assigns_flag (by decide) (by decide) rfl pressed
      simp only [Rule.readCondition, lower_keyword "button" (by decide), if_true, hopts]
      show (Rule.readButton (some which.name) >>= fun found => pure (Condition.button found pressed)) = _
      rw [Rule.readButton, named_found hfound]
      rfl
  | press which =>
      obtain ⟨hfound, hdashes, -⟩ := button_written which
      have hopts : Rule.readOptions "button" [Rule.requiredOption "id", Rule.flagOption "whendown"]
          [assign "id" which.name] = .ok [("id", .text which.name)] := by
        refine readOptions_assigned _ (by decide) (.cons ?_ .nil)
          (by simp [Rule.requiredOption, Rule.flagOption, Rule.option])
        exact OptionSpec.assigns_one (by decide) (by decide) rfl rfl rfl hdashes rfl
      simp only [Rule.readCondition, lower_keyword "button" (by decide), if_true, hopts]
      show (Rule.readButton (some which.name) >>= fun found => pure (Condition.button found true)) = _
      rw [Rule.readButton, named_found hfound]
      rfl
  | stickMove side =>
      obtain ⟨hfound, hdashes, -⟩ := side_written side
      have hopts : Rule.readOptions "stick" [Rule.requiredOption "side", Rule.option "dir"]
          [assign "side" side.name] = .ok [("side", .text side.name)] := by
        refine readOptions_assigned _ (by decide) (.cons ?_ .nil) (by simp [Rule.requiredOption, Rule.option])
        exact OptionSpec.assigns_one (by decide) (by decide) rfl rfl rfl hdashes rfl
      simp only [Rule.readCondition, lower_keyword "stick" (by decide), String.reduceEq, if_false, if_true, hopts]
      show (Rule.readSide (some side.name) >>= fun found => pure (Condition.stickMove found)) = _
      rw [Rule.readSide, named_found hfound]
      rfl
  | stickZone side direction zone =>
      obtain ⟨hside, hsdashes, -⟩ := side_written side
      obtain ⟨hdirection, hddashes, -⟩ := direction_written zone
      have hopts : Rule.readOptions "stick" [Rule.requiredOption "side", Rule.option "dir"]
          [assign "side" side.name, assign "dir" direction.name]
          = .ok [("side", .text side.name), ("dir", .text direction.name)] := by
        refine readOptions_assigned _ (by decide) (.cons ?_ (.cons ?_ .nil))
          (by simp [Rule.requiredOption, Rule.option])
        · exact OptionSpec.assigns_one (by decide) (by decide) rfl rfl rfl hsdashes rfl
        · exact OptionSpec.assigns_one (by decide) (by decide) rfl rfl rfl hddashes rfl
      simp only [Rule.readCondition, lower_keyword "stick" (by decide), String.reduceEq, if_false, if_true, hopts]
      show (Rule.readSide (some side.name) >>= fun found =>
        Rule.readDirection (some direction.name) >>= fun way => pure (Condition.stickZone found way)) = _
      rw [Rule.readSide, named_found hside, Rule.readDirection, named_found hdirection]
      rfl
  | gyro =>
      have hopts : Rule.readOptions "gyro" [] [] = .ok [] := readOptions_assigned _ (by decide) .nil (by simp)
      simp only [Rule.readCondition, lower_keyword "gyro" (by decide), String.reduceEq, if_false, if_true, hopts]
      rfl
  | speech =>
      have hopts : Rule.readOptions "speech" [] [] = .ok [] := readOptions_assigned _ (by decide) .nil (by simp)
      simp only [Rule.readCondition, lower_keyword "speech" (by decide), String.reduceEq, if_false, if_true, hopts]
      rfl

/-! ## Actions -/

/-- **An action as words**: its keyword, and its options with their values. Keys stand in words of their own. -/
inductive Action.Written : String → List String → Action → Prop where
  | notify {title text icon : String} (ht : Writable title) (hx : Writable text) (hi : Writable icon) :
    Written "[notify]" [assign "title" title, assign "text" text, assign "icon" icon]
      (.notify (some title) (some text) (some icon))
  | speak {text : String} (hx : Writable text) : Written "[speak]" [assign "text" text] (.speak (some text))
  | enterMode {id : String} (hi : Writable id) : Written "[mode]" [assign "id" id] (.enterMode (some id))
  | click (button : PointerButton) (double : Bool) :
    Written "[click]" [assign "button" button.name, assign "double" (OptionSpec.flagWord double)]
      (.click (some button) double)
  /-- A button is clicked once unless its rule says otherwise. -/
  | clickOnce (button : PointerButton) : Written "[click]" [assign "button" button.name] (.click (some button) false)
  | hotkey {keys : List String} (some : keys ≠ []) (known : ∀ k ∈ keys, Key.isKey k = true) :
    Written "[hotkey]" ("-keys" :: keys) (.hotkey keys)

theorem pointerButton_written (button : PointerButton) :
    PointerButton.ofName? button.name = some button ∧ button.name ≠ "--" ∧ '>' ∉ button.name.toList ∧
      button.name ∈ PointerButton.clickable.map PointerButton.name := by
  cases button <;> decide

/-- The options of a click. -/
def clickOptions : List OptionSpec :=
  [Rule.option "button" .one (.choice (PointerButton.clickable.map PointerButton.name)), Rule.flagOption "double"]

/-- Names of keys are values, and the values of the option before them. -/
theorem readOptions_keys {keys : List String} (hne : keys ≠ []) (hk : ∀ k ∈ keys, Key.isKey k = true) :
    Rule.readOptions "[hotkey]" [Rule.requiredOption "keys" .atLeastOne] ("-keys" :: keys)
      = .ok [("keys", .texts keys)] := by
  have hvalues : OptionSpec.classifyAll [Rule.requiredOption "keys" .atLeastOne] false keys
      = .ok (keys.map .value) := by
    refine OptionSpec.classifyAll_values fun k hkey c cs hchars => ?_
    exact Key.isKey_begin hchars (hk k hkey)
  have hdashes : "--" ∉ keys := fun hmem => Key.isKey_begin rfl (hk _ hmem)
  have hclassified : OptionSpec.classifyAll [Rule.requiredOption "keys" .atLeastOne] false ("-keys" :: keys)
      = .ok (.option (Rule.requiredOption "keys" .atLeastOne) "-keys" none :: keys.map .value) := by
    rw [OptionSpec.classifyAll, hvalues]
    rfl
  have hwalk : OptionSpec.walk [Rule.requiredOption "keys" .atLeastOne]
      (.option (Rule.requiredOption "keys" .atLeastOne) "-keys" none :: keys.map .value)
        = .ok ([("keys", .texts keys)], []) := OptionSpec.walk_listed rfl hne hdashes
  unfold Rule.readOptions
  rw [OptionSpec.parse_walked hclassified hwalk (by simp [Rule.requiredOption, Rule.option])]

/-- **An action is read as it was written.** -/
theorem readAction_written {name : String} {args : List String} {a : Action} (h : Action.Written name args a)
    (mappings : List (String × List Json)) : Rule.readAction mappings name args = .ok a := by
  cases h with
  | notify ht hx hi =>
      rename_i title text icon
      have hopts : Rule.readOptions "[notify]" [Rule.option "title", Rule.option "text", Rule.option "icon"]
          [assign "title" title, assign "text" text, assign "icon" icon]
          = .ok [("title", .text title), ("text", .text text), ("icon", .text icon)] := by
        refine readOptions_assigned _ (by decide) (.cons ?_ (.cons ?_ (.cons ?_ .nil))) (by simp [Rule.option])
        · exact OptionSpec.assigns_one (by decide) (by decide) rfl rfl rfl ht.dashes rfl
        · exact OptionSpec.assigns_one (by decide) (by decide) rfl rfl rfl hx.dashes rfl
        · exact OptionSpec.assigns_one (by decide) (by decide) rfl rfl rfl hi.dashes rfl
      simp only [Rule.readAction, lower_keyword "[notify]" (by decide), String.reduceEq, if_false, if_true, hopts]
      rfl
  | speak hx =>
      rename_i text
      have hopts : Rule.readOptions "[speak]" [Rule.option "text"] [assign "text" text]
          = .ok [("text", .text text)] := by
        refine readOptions_assigned _ (by decide) (.cons ?_ .nil) (by simp [Rule.option])
        exact OptionSpec.assigns_one (by decide) (by decide) rfl rfl rfl hx.dashes rfl
      simp only [Rule.readAction, lower_keyword "[speak]" (by decide), String.reduceEq, if_false, if_true, hopts]
      rfl
  | enterMode hi =>
      rename_i id
      have hopts : Rule.readOptions "[mode]" [Rule.requiredOption "id"] [assign "id" id]
          = .ok [("id", .text id)] := by
        refine readOptions_assigned _ (by decide) (.cons ?_ .nil) (by simp [Rule.requiredOption, Rule.option])
        exact OptionSpec.assigns_one (by decide) (by decide) rfl rfl rfl hi.dashes rfl
      simp only [Rule.readAction, lower_keyword "[mode]" (by decide), String.reduceEq, if_false, if_true, hopts]
      rfl
  | click button double =>
      obtain ⟨hfound, hdashes, -, hallowed⟩ := pointerButton_written button
      have hopts : Rule.readOptions "[click]" clickOptions
          [assign "button" button.name, assign "double" (OptionSpec.flagWord double)]
          = .ok [("button", .text button.name), ("double", .flag double)] := by
        refine readOptions_assigned _ (by decide) (.cons ?_ (.cons ?_ .nil))
          (by simp [clickOptions, Rule.flagOption, Rule.option])
        · exact OptionSpec.assigns_one (by decide) (by decide) rfl rfl rfl hdashes
            (if_pos (List.contains_iff_mem.mpr hallowed))
        · exact OptionSpec.assigns_flag (by decide) (by decide) rfl double
      unfold clickOptions at hopts
      simp only [Rule.readAction, lower_keyword "[click]" (by decide), String.reduceEq, if_false, if_true, hopts]
      show Except.ok (Action.click (PointerButton.ofName? button.name) double) = _
      rw [hfound]
  | clickOnce button =>
      obtain ⟨hfound, hdashes, -, hallowed⟩ := pointerButton_written button
      have hopts : Rule.readOptions "[click]" clickOptions [assign "button" button.name]
          = .ok [("button", .text button.name)] := by
        refine readOptions_assigned _ (by decide) (.cons ?_ .nil)
          (by simp [clickOptions, Rule.flagOption, Rule.option])
        exact OptionSpec.assigns_one (by decide) (by decide) rfl rfl rfl hdashes
          (if_pos (List.contains_iff_mem.mpr hallowed))
      unfold clickOptions at hopts
      simp only [Rule.readAction, lower_keyword "[click]" (by decide), String.reduceEq, if_false, if_true, hopts]
      show Except.ok (Action.click (PointerButton.ofName? button.name) false) = _
      rw [hfound]
  | hotkey hne hk =>
      rename_i keys
      have hknown : Rule.unknownKey? keys = none := by
        refine List.find?_eq_none.mpr fun k hmem => ?_
        simp [hk k hmem]
      have htexts : Options.texts [("keys", .texts keys)] "keys" = keys := rfl
      simp only [Rule.readAction, lower_keyword "[hotkey]" (by decide), String.reduceEq, if_false, if_true,
        readOptions_keys hne hk, bind, Except.bind, htexts, hknown]
      rfl

/-! ## Lines -/

theorem condition_noArrow {name : String} {args : List String} {c : Condition}
    (h : Condition.Written name args c) : ∀ w ∈ name :: args, Text.NoArrow w.toList := by
  have hword : ∀ {option value : String}, '>' ∉ option.toList → '>' ∉ value.toList →
      Text.NoArrow (assign option value).toList := fun ho hv => noArrow_assign ho (noArrow_of_tip hv)
  cases h with
  | button which pressed =>
      have hflag : '>' ∉ (OptionSpec.flagWord pressed).toList := by cases pressed <;> decide
      simp only [List.forall_mem_cons]
      refine ⟨noArrow_of_tip (by decide), hword (by decide) (button_written which).2.2, hword (by decide) hflag, ?_⟩
      simp
  | press which =>
      simp only [List.forall_mem_cons]
      refine ⟨noArrow_of_tip (by decide), hword (by decide) (button_written which).2.2, ?_⟩
      simp
  | stickMove side =>
      simp only [List.forall_mem_cons]
      refine ⟨noArrow_of_tip (by decide), hword (by decide) (side_written side).2.2, ?_⟩
      simp
  | stickZone side direction zone =>
      simp only [List.forall_mem_cons]
      refine ⟨noArrow_of_tip (by decide), hword (by decide) (side_written side).2.2,
        hword (by decide) (direction_written zone).2.2, ?_⟩
      simp
  | gyro =>
      intro w hw
      rw [List.mem_singleton.mp hw]
      exact noArrow_of_tip (by decide)
  | speech =>
      intro w hw
      rw [List.mem_singleton.mp hw]
      exact noArrow_of_tip (by decide)

theorem action_noArrow {name : String} {args : List String} {a : Action}
    (h : Action.Written name args a) : ∀ w ∈ name :: args, Text.NoArrow w.toList := by
  cases h with
  | notify ht hx hi =>
      simp only [List.forall_mem_cons]
      refine ⟨noArrow_of_tip (by decide), noArrow_assign (by decide) ht.arrow, noArrow_assign (by decide) hx.arrow,
        noArrow_assign (by decide) hi.arrow, ?_⟩
      simp
  | speak hx =>
      simp only [List.forall_mem_cons]
      refine ⟨noArrow_of_tip (by decide), noArrow_assign (by decide) hx.arrow, ?_⟩
      simp
  | enterMode hi =>
      simp only [List.forall_mem_cons]
      refine ⟨noArrow_of_tip (by decide), noArrow_assign (by decide) hi.arrow, ?_⟩
      simp
  | click button double =>
      have hflag : '>' ∉ (OptionSpec.flagWord double).toList := by cases double <;> decide
      simp only [List.forall_mem_cons]
      refine ⟨noArrow_of_tip (by decide),
        noArrow_assign (by decide) (noArrow_of_tip (pointerButton_written button).2.2.1),
        noArrow_assign (by decide) (noArrow_of_tip hflag), ?_⟩
      simp
  | clickOnce button =>
      simp only [List.forall_mem_cons]
      refine ⟨noArrow_of_tip (by decide),
        noArrow_assign (by decide) (noArrow_of_tip (pointerButton_written button).2.2.1), ?_⟩
      simp
  | hotkey hne hk =>
      simp only [List.forall_mem_cons]
      exact ⟨noArrow_of_tip (by decide), noArrow_of_tip (by decide), fun k hmem => Key.isKey_noArrow (hk k hmem)⟩

/-- **A trigger compiles to what it was written for.** The line that has a condition and an action on its two sides,
each of their words in double quotes, compiles in every block to the one trigger with that condition and that
action, whatever texts they have, as long as none of these has an arrow in it or is a bare `--`. -/
theorem addRule_written {source target : String} {args targetArgs : List String} {c : Condition} {a : Action}
    (hc : Condition.Written source args c) (ha : Action.Written target targetArgs a) (cfg : Config)
    (isDefault : Bool) (mode : Mode) (shifts : List Shift) :
    Compile.addRule cfg isDefault (Text.join ("[trigger]" :: source :: args) (target :: targetArgs)) mode shifts
      = .ok ({ mode with triggers := mode.triggers ++ [⟨c, a⟩] }, shifts) := by
  have hleft : ∀ w ∈ "[trigger]" :: source :: args, Text.NoArrow w.toList := by
    intro w hw
    rcases List.mem_cons.mp hw with rfl | hw
    · exact noArrow_of_tip (by decide)
    · exact condition_noArrow hc w hw
  have hsplit := Rule.splitRule_joined hleft (action_noArrow ha)
  have hline : Rule.readLine cfg.wordMappings isDefault
      (Text.join ("[trigger]" :: source :: args) (target :: targetArgs)) = .ok (.trigger ⟨c, a⟩) := by
    unfold Rule.readLine
    simp only [hsplit, lower_keyword "[trigger]" (by decide), if_true, readCondition_written hc,
      readAction_written ha]
    rfl
  rw [addRule_eq, hline]
  rfl

/-- Texts that begin with a dash, that are empty, and that have blanks, quotes and equals signs in them. -/
theorem addRule_written_notify :
    Condition.Written "stick" [assign "side" "Left", assign "dir" "UpLeave"] (.stickZone .left .upLeave) ∧
    Action.Written "[notify]" [assign "title" "-say \"hi\"", assign "text" "", assign "icon" "a=--b"]
      (.notify (some "-say \"hi\"") (some "") (some "a=--b")) ∧
    Compile.addRule {} true
        ("\"[trigger]\" \"stick\" \"-side=Left\" \"-dir=UpLeave\" -> " ++
          "\"[notify]\" \"-title=-say \\\"hi\\\"\" \"-text=\" \"-icon=a=--b\"")
        { id := "a" } []
      = .ok ({ id := "a", triggers := [⟨.stickZone .left .upLeave,
          .notify (some "-say \"hi\"") (some "") (some "a=--b")⟩] }, []) := by
  have hc : Condition.Written "stick" [assign "side" "Left", assign "dir" "UpLeave"] (.stickZone .left .upLeave) :=
    .stickZone .left .upLeave (by decide)
  have ha : Action.Written "[notify]" [assign "title" "-say \"hi\"", assign "text" "", assign "icon" "a=--b"]
      (.notify (some "-say \"hi\"") (some "") (some "a=--b")) :=
    .notify ⟨noArrow_of_tip (by decide), by decide⟩ ⟨noArrow_of_tip (by decide), by decide⟩
      ⟨noArrow_of_tip (by decide), by decide⟩
  have hline : "\"[trigger]\" \"stick\" \"-side=Left\" \"-dir=UpLeave\" -> " ++
        "\"[notify]\" \"-title=-say \\\"hi\\\"\" \"-text=\" \"-icon=a=--b\""
      = Text.join ("[trigger]" :: "stick" :: [assign "side" "Left", assign "dir" "UpLeave"])
        ("[notify]" :: [assign "title" "-say \"hi\"", assign "text" "", assign "icon" "a=--b"]) := by
    decide +kernel
  refine ⟨hc, ha, ?_⟩
  rw [hline]
  exact addRule_written hc ha {} true { id := "a" } []

end PadScribe
