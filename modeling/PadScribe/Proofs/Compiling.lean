import Mathlib.Data.List.Forall2
import PadScribe.Proofs.Installing

/-!
# `Proofs.Compiling` — what a configuration says, line by line

A configuration is read block by block and line by line, and each line is read on its own: what a rule line says
depends on the line, on the word mappings and on whether its block is the first one, and on nothing that was read
before it. So a configuration compiles exactly when all of its lines do and its modes have different ids; what it
compiles to is what its lines say, in order; and the first line that does not compile is the one that is reported.

## Contents

* `RuleElement`, `Rule.readLine`, `addRule_eq` — what a rule line says on its own
* `Rule.Reads`, `addRules_ok_iff`, `addRules_refused` — the rule lines of a block
* `ModeBlock.Names`, `names_iff` — declarations that compile on their own
* `ModeBlock.CompilesTo`, `ModesOf`, `LinesCompile` — what blocks compile to
* `blocks_ok`, `blocks_exists`, `blocks_append` — the blocks of a configuration
* `compileRules_ok_iff`, `FirstRefused`, `compileRules_refused` — configurations that compile and others
* `compileRules_reads` — a whole configuration
-/

namespace PadScribe

/-! ## Rule lines -/

/-- What one rule line says. -/
inductive RuleElement where
  | trigger (t : Trigger)
  | switch (k : ModeSwitch)
  | shift (k : Shift)

namespace RuleElement

/-- The trigger that a rule line adds to its mode. -/
def trigger? : RuleElement → Option Trigger
  | trigger t => some t
  | _ => none

/-- The switch that a rule line adds to its mode. -/
def switch? : RuleElement → Option ModeSwitch
  | switch k => some k
  | _ => none

/-- The shift that a rule line adds to the default mode. -/
def shift? : RuleElement → Option Shift
  | shift k => some k
  | _ => none

/-- A mode and the shifts with what one rule line says. -/
def add : RuleElement → Mode × List Shift → Mode × List Shift
  | trigger t, (mode, shifts) => ({ mode with triggers := mode.triggers ++ [t] }, shifts)
  | switch k, (mode, shifts) => ({ mode with switches := mode.switches ++ [k] }, shifts)
  | shift k, (mode, shifts) => (mode, shifts ++ [k])

end RuleElement

/-- A mode with what some rule lines say about it. -/
def Mode.adding (es : List RuleElement) (m : Mode) : Mode :=
  { m with
    triggers := m.triggers ++ es.filterMap RuleElement.trigger?
    switches := m.switches ++ es.filterMap RuleElement.switch? }

namespace Rule

/-- What a switch rule says. -/
def ofSwitchRule : ModeSwitch ⊕ Shift → RuleElement
  | .inl k => .switch k
  | .inr k => .shift k

/-- **What a rule line says on its own.** -/
def readLine (mappings : List (String × List Json)) (isDefault : Bool) (line : String) :
    Except Fault RuleElement :=
  match splitRule line with
  | .error e => .error (.compile e)
  | .ok (head :: source :: args, target :: targetArgs) =>
    let kind := Text.lower head
    if kind = "[trigger]" then do
      let condition ← readCondition source args
      let action ← readAction mappings target targetArgs
      return .trigger ⟨condition, action⟩
    else if kind = "[switch]" then do
      return ofSwitchRule (← Compile.readSwitchRule isDefault source args target targetArgs)
    else .error (.compile (.unknownRule head))
  | .ok _ => .error (.compile .incomplete)

/-- A rule, which has to be a text, read on its own. -/
def Reads (cfg : Config) (isDefault : Bool) (rule : Json) (e : RuleElement) : Prop :=
  ∃ line, rule.text = .ok line ∧ readLine cfg.wordMappings isDefault line = .ok e

/-- A switch rule with a mode on its right side. -/
def LeadsToMode (rule : Json) : Prop :=
  ∃ line head source args target targetArgs, rule.text = .ok line ∧
    splitRule line = .ok (head :: source :: args, target :: targetArgs) ∧
    Text.lower head = "[switch]" ∧ Text.lower target = "[mode]"

end Rule

open Rule (Reads readLine)

/-- **A rule line adds what it says on its own**, to whatever mode and shifts it is added. -/
theorem addRule_eq (cfg : Config) (isDefault : Bool) (line : String) (mode : Mode) (shifts : List Shift) :
    Compile.addRule cfg isDefault line mode shifts
      = (readLine cfg.wordMappings isDefault line).map fun e => e.add (mode, shifts) := by
  unfold Compile.addRule readLine
  match Rule.splitRule line with
  | .error e => rfl
  | .ok (head :: source :: args, target :: targetArgs) =>
      simp only []
      by_cases htrigger : Text.lower head = "[trigger]"
      · rw [if_pos htrigger, if_pos htrigger]
        cases Rule.readCondition source args with
        | error e => rfl
        | ok c => cases Rule.readAction cfg.wordMappings target targetArgs <;> rfl
      · rw [if_neg htrigger, if_neg htrigger]
        by_cases hswitch : Text.lower head = "[switch]"
        · rw [if_pos hswitch, if_pos hswitch]
          cases Compile.readSwitchRule isDefault source args target targetArgs with
          | error e => rfl
          | ok r => cases r <;> rfl
        · rw [if_neg hswitch, if_neg hswitch]
          rfl
  | .ok ([], _) => rfl
  | .ok ([_], _) => rfl
  | .ok (_ :: _ :: _, []) => rfl

/-- A row of rule lines adds their triggers, their switches and their shifts, each in the order of the lines. -/
theorem foldl_add (es : List RuleElement) (mode : Mode) (shifts : List Shift) :
    es.foldl (fun out e => e.add out) (mode, shifts)
      = (mode.adding es, shifts ++ es.filterMap RuleElement.shift?) := by
  induction es generalizing mode shifts with
  | nil => simp [Mode.adding]
  | cons e rest ih =>
      cases e with
      | trigger t =>
          have hrest := ih { mode with triggers := mode.triggers ++ [t] } shifts
          simp only [Mode.adding, List.append_assoc] at hrest
          exact hrest
      | switch k =>
          have hrest := ih { mode with switches := mode.switches ++ [k] } shifts
          simp only [Mode.adding, List.append_assoc] at hrest
          exact hrest
      | shift k =>
          have hrest := ih mode (shifts ++ [k])
          simp only [List.append_assoc] at hrest
          exact hrest

variable {cfg : Config} {isDefault : Bool} {rule : Json} {rest : List Json} {mode : Mode} {shifts : List Shift}

/-- A rule that is read adds what it says. -/
theorem addRules_reads {e : RuleElement} (h : Reads cfg isDefault rule e) :
    Compile.addRules cfg isDefault (rule :: rest) mode shifts
      = Compile.addRules cfg isDefault rest (e.add (mode, shifts)).1 (e.add (mode, shifts)).2 := by
  obtain ⟨line, htext, hline⟩ := h
  simp only [Compile.addRules, htext, addRule_eq, hline]
  rfl

/-- **A rule line that does not compile** is reported with its text. -/
theorem addRules_refused {line : String} {e : CompileError} (htext : rule.text = .ok line)
    (h : readLine cfg.wordMappings isDefault line = .error (.compile e)) :
    Compile.addRules cfg isDefault (rule :: rest) mode shifts = .error (.compile (.inLine line e)) := by
  simp only [Compile.addRules, htext, addRule_eq, h]
  rfl

/-- Rules compile only if the first of them does. -/
theorem exists_reads {out : Mode × List Shift}
    (h : Compile.addRules cfg isDefault (rule :: rest) mode shifts = .ok out) :
    ∃ e, Reads cfg isDefault rule e := by
  simp only [Compile.addRules] at h
  cases htext : rule.text with
  | error e => rw [htext] at h; exact absurd h (by simp)
  | ok line =>
      simp only [htext, addRule_eq] at h
      cases hline : readLine cfg.wordMappings isDefault line with
      | ok e => exact ⟨e, line, htext, hline⟩
      | error fault =>
          rw [hline] at h
          cases fault <;> exact absurd h (by simp [Compile.within, Except.map])

/-- Rules that are all read say something one by one. -/
theorem exists_elements {rules : List Json} (h : ∀ rule ∈ rules, ∃ e, Reads cfg isDefault rule e) :
    ∃ es, List.Forall₂ (Reads cfg isDefault) rules es := by
  induction rules with
  | nil => exact ⟨[], .nil⟩
  | cons rule rest ih =>
      obtain ⟨e, he⟩ := h rule List.mem_cons_self
      obtain ⟨es, hes⟩ := ih fun r hr => h r (List.mem_cons_of_mem _ hr)
      exact ⟨e :: es, .cons he hes⟩

/-- **The rule lines of a block** compile exactly when each of them does on its own, and add what they say. -/
theorem addRules_ok_iff {rules : List Json} {out : Mode × List Shift} :
    Compile.addRules cfg isDefault rules mode shifts = .ok out ↔
      ∃ es, List.Forall₂ (Reads cfg isDefault) rules es ∧
        out = (mode.adding es, shifts ++ es.filterMap RuleElement.shift?) := by
  simp only [← foldl_add]
  induction rules generalizing mode shifts with
  | nil =>
      constructor
      · intro h
        exact ⟨[], .nil, (Except.ok.inj h).symm⟩
      · rintro ⟨es, hes, rfl⟩
        cases hes
        rfl
  | cons rule rest ih =>
      constructor
      · intro h
        obtain ⟨e, he⟩ := exists_reads h
        rw [addRules_reads he] at h
        obtain ⟨es, hes, rfl⟩ := ih.mp h
        exact ⟨e :: es, .cons he hes, rfl⟩
      · rintro ⟨es, hes, rfl⟩
        cases hes with
        | cons he hes =>
            rw [addRules_reads he]
            exact ih.mpr ⟨_, hes, rfl⟩

/-- What rule lines say about a mode leaves its kind as it was. -/
theorem addRules_kind {rules : List Json} {mode' : Mode} {shifts' : List Shift}
    (h : Compile.addRules cfg isDefault rules mode shifts = .ok (mode', shifts')) : mode'.kind = mode.kind := by
  obtain ⟨es, _, hout⟩ := addRules_ok_iff.mp h
  rw [(Prod.mk.inj hout).1]
  rfl

/-- The keyword of modes is not that of a modifier. -/
theorem readModifier_mode {name : String} (h : Text.lower name = "[mode]") (args : List String) :
    Rule.readModifier? name args = .ok none := by
  unfold Rule.readModifier?
  rw [h]
  rfl

/-- A switch rule makes a shift exactly when it has a mode on its right side, which takes the first block. -/
theorem readSwitchRule_shift_iff {source target : String} {args targetArgs : List String} {r : ModeSwitch ⊕ Shift}
    (h : Compile.readSwitchRule isDefault source args target targetArgs = .ok r) :
    (Rule.ofSwitchRule r).shift?.isSome ↔ isDefault = true ∧ Text.lower target = "[mode]" := by
  unfold Compile.readSwitchRule at h
  obtain ⟨switch, _, h⟩ := except_bind_ok h
  obtain ⟨modifier, hmodifier, h⟩ := except_bind_ok h
  by_cases hmode : Text.lower target = "[mode]"
  · rw [readModifier_mode hmode] at hmodifier
    obtain rfl := Except.ok.inj hmodifier
    simp only [if_pos hmode] at h
    cases isDefault with
    | false => exact absurd h (by simp)
    | true =>
        obtain ⟨opts, _, h⟩ := except_bind_ok h
        obtain rfl := Except.ok.inj h
        simp [Rule.ofSwitchRule, RuleElement.shift?, hmode]
  · -- everything else on the right side makes a switch of the mode
    have hswitch : ∃ k, r = .inl k := by
      cases modifier with
      | some m => exact ⟨_, (Except.ok.inj h).symm⟩
      | none =>
          simp only [if_neg hmode] at h
          split at h
          · obtain ⟨opts, _, h⟩ := except_bind_ok h
            exact ⟨_, (Except.ok.inj h).symm⟩
          · split at h
            · obtain ⟨opts, _, h⟩ := except_bind_ok h
              exact ⟨_, (Except.ok.inj h).symm⟩
            · exact absurd h (by simp)
    obtain ⟨k, rfl⟩ := hswitch
    simp [Rule.ofSwitchRule, RuleElement.shift?, hmode]

/-- **Only a switch rule of the first block with a mode on its right side** leads to another mode. -/
theorem reads_shift_iff {e : RuleElement} (h : Reads cfg isDefault rule e) :
    e.shift?.isSome ↔ isDefault = true ∧ Rule.LeadsToMode rule := by
  obtain ⟨line, htext, hline⟩ := h
  unfold readLine at hline
  match hsplit : Rule.splitRule line with
  | .error e =>
      rw [hsplit] at hline
      exact absurd hline (by simp)
  | .ok (head :: source :: args, target :: targetArgs) =>
      simp only [hsplit] at hline
      have hleads : Rule.LeadsToMode rule ↔ Text.lower head = "[switch]" ∧ Text.lower target = "[mode]" := by
        constructor
        · rintro ⟨line', head', source', args', target', targetArgs', htext', hsplit', hh, ht⟩
          obtain rfl := Except.ok.inj (htext.symm.trans htext')
          obtain ⟨hl, hr⟩ := Prod.mk.inj (Except.ok.inj (hsplit.symm.trans hsplit'))
          obtain ⟨rfl, _⟩ := List.cons.inj hl
          obtain ⟨rfl, _⟩ := List.cons.inj hr
          exact ⟨hh, ht⟩
        · rintro ⟨hh, ht⟩
          exact ⟨line, head, source, args, target, targetArgs, htext, hsplit, hh, ht⟩
      rw [hleads]
      by_cases htrigger : Text.lower head = "[trigger]"
      · rw [if_pos htrigger] at hline
        obtain ⟨c, _, hline⟩ := except_bind_ok hline
        obtain ⟨a, _, hline⟩ := except_bind_ok hline
        obtain rfl := Except.ok.inj hline
        simp [RuleElement.shift?, htrigger]
      · rw [if_neg htrigger] at hline
        by_cases hswitch : Text.lower head = "[switch]"
        · rw [if_pos hswitch] at hline
          obtain ⟨r, hr, hline⟩ := except_bind_ok hline
          obtain rfl := Except.ok.inj hline
          simpa [hswitch] using readSwitchRule_shift_iff hr
        · rw [if_neg hswitch] at hline
          exact absurd hline (by simp)
  | .ok ([], _) =>
      rw [hsplit] at hline
      exact absurd hline (by simp)
  | .ok ([_], _) =>
      rw [hsplit] at hline
      exact absurd hline (by simp)
  | .ok (_ :: _ :: _, []) =>
      rw [hsplit] at hline
      exact absurd hline (by simp)

/-! ## Declarations -/

/-- **A block whose declaration compiles on its own**, to the mode of an id. -/
def ModeBlock.Names (cfg : Config) (block : ModeBlock) (id : String) : Prop :=
  ∃ mode, (compileRules { cfg with modes := [{ block with rules := [] }] } false 0).2 = .ok ([mode], []) ∧
    mode.id = id

/-- A declaration is read alike wherever its block stands. -/
theorem readDeclaration_index {block : ModeBlock} {d : Declaration} {i : Nat} (j : Nat)
    (h : Compile.readDeclaration cfg i block = .ok d) : Compile.readDeclaration cfg j block = .ok d := by
  unfold Compile.readDeclaration at h ⊢
  cases htext : block.declaration.text with
  | error e => rw [htext] at h; exact absurd h (by simp)
  | ok text =>
      simp only [htext] at h ⊢
      match hwords : Text.Quoted.split text.toList with
      | .error e => rw [hwords] at h; exact absurd h (by simp)
      | .ok [] => rw [hwords] at h; exact absurd h (by simp)
      | .ok (name :: args) => rw [hwords] at h; exact h

theorem startMode_ok_iff {d : Declaration} {kind : ModeKind} {seen : List String} {mode : Mode} :
    Compile.startMode d kind seen = .ok mode ↔ ∃ id, d.id = some id ∧ id ∉ seen ∧ mode = { id, kind } := by
  unfold Compile.startMode
  cases d.id with
  | none => simp
  | some id =>
      by_cases hseen : id ∈ seen
      · simp [hseen]
      · simp [hseen, eq_comm]

/-- A line that a declaration is read to is paused, and asks no recognizer yet. -/
theorem read_line {lists : List (String × List Json)} {name : String} {args : List String} {d : Declaration}
    (h : Declaration.read lists name args = .ok d) {line : SpeechLine} (hk : d.kind = .speech line) :
    line.recognizer = none ∧ line.paused = true := by
  unfold Declaration.read at h
  simp only [] at h
  split at h
  · obtain ⟨opts, _, h⟩ := except_bind_ok h
    rw [← Except.ok.inj h] at hk
    exact absurd hk (by simp)
  · split at h
    · obtain ⟨opts, _, h⟩ := except_bind_ok h
      rw [← Except.ok.inj h] at hk
      exact absurd hk (by simp)
    · split at h
      · obtain ⟨opts, _, h⟩ := except_bind_ok h
        split at h
        · rename_i line' hline
          rw [← Except.ok.inj h] at hk
          obtain rfl := ModeKind.speech.inj hk
          unfold Declaration.readSpeechLine at hline
          simp only [] at hline
          split at hline
          · exact absurd hline (by simp)
          · cases hg : Declaration.gatherPhrases lists (opts.texts "phrase") with
            | error e => rw [hg] at hline; exact absurd hline (by simp [Except.map])
            | ok phrases =>
                rw [hg] at hline
                rw [← Except.ok.inj hline]
                exact ⟨rfl, rfl⟩
        · exact absurd h (by simp)
      · exact absurd h (by simp)

theorem readDeclaration_line {index : Nat} {block : ModeBlock} {d : Declaration}
    (h : Compile.readDeclaration cfg index block = .ok d) {line : SpeechLine} (hk : d.kind = .speech line) :
    line.recognizer = none ∧ line.paused = true := by
  unfold Compile.readDeclaration at h
  split at h
  · exact absurd h (by simp)
  · split at h
    · exact absurd h (by simp)
    · exact absurd h (by simp)
    · exact read_line (within_ok h) hk

/-- A declaration compiles on its own exactly when it is read and gives its mode an id. -/
theorem names_iff {block : ModeBlock} {id : String} :
    block.Names cfg id ↔ ∃ d, Compile.readDeclaration cfg 0 block = .ok d ∧ d.id = some id := by
  -- neither the rules of the block nor the other blocks matter for its declaration
  have hsame : Compile.readDeclaration { cfg with modes := [{ block with rules := [] }] } 0 { block with rules := [] }
      = Compile.readDeclaration cfg 0 block := rfl
  unfold ModeBlock.Names compileRules
  simp only [List.isEmpty_cons, Bool.false_eq_true, if_false, Compile.blocks, List.length_nil, hsame]
  cases Compile.readDeclaration cfg 0 block with
  | error e => simp
  | ok d =>
      simp only [Bool.false_and, Bool.false_eq_true, if_false, List.map_nil]
      cases hid : d.id with
      | none =>
          have hstart : Compile.startMode d d.kind [] = .error (.shape .wrongKind) := by
            unfold Compile.startMode
            rw [hid]
          simp [hstart, hid]
      | some id' =>
          have hstart : Compile.startMode d d.kind [] = .ok { id := id', kind := d.kind } :=
            startMode_ok_iff.mpr ⟨id', hid, by simp, rfl⟩
          simp [hstart, hid, Compile.addRules]

/-! ## Blocks -/

/-- **What a block compiles to**: the mode that it declares, with what its rule lines say. -/
structure ModeBlock.CompilesTo (cfg : Config) (isDefault : Bool) (block : ModeBlock) (mode : Mode)
    (es : List RuleElement) : Prop where
  declared : ∃ d, Compile.readDeclaration cfg 0 block = .ok d ∧ d.id = some mode.id ∧
    (mode.kind = d.kind ∨ ∃ number, mode.kind = Declaration.withRecognizer number d.kind)
  lines : List.Forall₂ (Reads cfg isDefault) block.rules es
  triggers : mode.triggers = es.filterMap RuleElement.trigger?
  switches : mode.switches = es.filterMap RuleElement.switch?

/-- **What blocks compile to**: a mode for each of them, in order, and the shifts that their rule lines say. Only
the first block can be that of the default mode. -/
inductive ModesOf (cfg : Config) : Bool → List ModeBlock → List Mode → List Shift → Prop where
  | nil (isDefault : Bool) : ModesOf cfg isDefault [] [] []
  | cons {isDefault : Bool} {block : ModeBlock} {mode : Mode} {es : List RuleElement} {blocks : List ModeBlock}
      {modes : List Mode} {shifts : List Shift} (first : block.CompilesTo cfg isDefault mode es)
      (rest : ModesOf cfg false blocks modes shifts) :
      ModesOf cfg isDefault (block :: blocks) (mode :: modes) (es.filterMap RuleElement.shift? ++ shifts)

/-- Every rule line of some blocks compiles on its own, in the role of its block. -/
def LinesCompile (cfg : Config) : Bool → List ModeBlock → Prop
  | _, [] => True
  | isDefault, block :: rest =>
    (∀ rule ∈ block.rules, ∃ e, Reads cfg isDefault rule e) ∧ LinesCompile cfg false rest

variable {recognizers : Bool} {made n : Nat} {done : List Mode} {block : ModeBlock} {bs : List ModeBlock}

/-- **A block that compiles** adds its mode and its shifts to those of the blocks before it, whatever blocks come
after it. -/
theorem blocks_reads {d : Declaration} {id : String} {es : List RuleElement}
    (hd : Compile.readDeclaration cfg 0 block = .ok d) (hid : d.id = some id) (hnew : id ∉ done.map Mode.id)
    (hes : List.Forall₂ (Reads cfg done.isEmpty) block.rules es) :
    ∃ made' mode, block.CompilesTo cfg done.isEmpty mode es ∧ mode.id = id ∧
      ∀ bs, Compile.blocks cfg recognizers made done shifts (block :: bs)
        = Compile.blocks cfg recognizers made' (done ++ [mode]) (shifts ++ es.filterMap RuleElement.shift?) bs := by
  obtain ⟨kind, hkind⟩ : ∃ kind, kind = if (recognizers && d.wantsRecognizer) = true
      then Declaration.withRecognizer made d.kind else d.kind := ⟨_, rfl⟩
  have hstart : Compile.startMode d kind (done.map Mode.id) = .ok { id, kind } :=
    startMode_ok_iff.mpr ⟨id, hid, hnew, rfl⟩
  have hrules : Compile.addRules cfg done.isEmpty block.rules { id, kind } shifts = .ok _ :=
    addRules_ok_iff.mpr ⟨es, hes, rfl⟩
  refine ⟨if (recognizers && d.wantsRecognizer) = true then made + 1 else made,
    ({ id, kind } : Mode).adding es, ⟨⟨d, hd, hid, ?_⟩, hes, ?_, ?_⟩, rfl, fun bs => ?_⟩
  · show kind = d.kind ∨ _
    rw [hkind]
    split
    · exact .inr ⟨made, rfl⟩
    · exact .inl rfl
  · simp [Mode.adding]
  · simp [Mode.adding]
  · simp only [Compile.blocks, readDeclaration_index done.length hd, ← hkind, hstart, hrules]

/-- Blocks compile only if the first of them does. -/
theorem exists_blocks_reads {out : List Mode × List Shift}
    (h : Compile.blocks cfg recognizers made done shifts (block :: bs) = (n, .ok out)) :
    ∃ d id es, Compile.readDeclaration cfg 0 block = .ok d ∧ d.id = some id ∧ id ∉ done.map Mode.id ∧
      List.Forall₂ (Reads cfg done.isEmpty) block.rules es := by
  simp only [Compile.blocks] at h
  split at h
  · exact absurd (Prod.mk.inj h).2 (by simp)
  · rename_i d hd
    split at h
    · exact absurd (Prod.mk.inj h).2 (by simp)
    · rename_i start hstart
      obtain ⟨id, hid, hnew, rfl⟩ := startMode_ok_iff.mp hstart
      split at h
      · exact absurd (Prod.mk.inj h).2 (by simp)
      · rename_i hrules
        obtain ⟨es, hes, _⟩ := addRules_ok_iff.mp hrules
        exact ⟨d, id, es, readDeclaration_index 0 hd, hid, hnew, hes⟩

/-- **Blocks that compile** yield what they say on their own. -/
theorem blocks_ok {modes : List Mode} {shifts' : List Shift}
    (h : Compile.blocks cfg recognizers made done shifts bs = (n, .ok (modes, shifts'))) :
    ∃ new own, modes = done ++ new ∧ shifts' = shifts ++ own ∧ ModesOf cfg done.isEmpty bs new own := by
  induction bs generalizing made done shifts with
  | nil =>
      obtain ⟨rfl, rfl⟩ := Prod.mk.inj (Except.ok.inj (Prod.mk.inj h).2)
      exact ⟨[], [], by simp, by simp, .nil _⟩
  | cons block rest ih =>
      obtain ⟨d, id, es, hd, hid, hnew, hes⟩ := exists_blocks_reads h
      obtain ⟨made', mode, hmode, _, hstep⟩ :
          ∃ made' mode, block.CompilesTo cfg done.isEmpty mode es ∧ mode.id = id ∧ _ :=
        blocks_reads hd hid hnew hes
      rw [hstep] at h
      obtain ⟨new, own, rfl, rfl, hrest⟩ := ih h
      -- the blocks after this one are not that of the default mode
      have hrole : (done ++ [mode]).isEmpty = false := by simp
      rw [hrole] at hrest
      exact ⟨mode :: new, es.filterMap RuleElement.shift? ++ own, by simp, by simp, .cons hmode hrest⟩

/-- **Blocks whose lines compile on their own** compile, where their ids are all different. -/
theorem blocks_exists {ids : List String} (hids : List.Forall₂ (ModeBlock.Names cfg) bs ids)
    (hn : (done.map Mode.id ++ ids).Nodup) (hl : LinesCompile cfg done.isEmpty bs) :
    ∃ n modes shifts', Compile.blocks cfg recognizers made done shifts bs = (n, .ok (modes, shifts')) ∧
      modes.map Mode.id = done.map Mode.id ++ ids := by
  induction hids generalizing made done shifts with
  | nil => exact ⟨made, done, shifts, rfl, by simp⟩
  | @cons block id rest ids hname hrest ih =>
      obtain ⟨d, hd, hid⟩ := names_iff.mp hname
      obtain ⟨hlines, hl⟩ := hl
      obtain ⟨es, hes⟩ := exists_elements hlines
      have hnew : id ∉ done.map Mode.id := by
        intro hmem
        exact List.disjoint_of_nodup_append hn hmem List.mem_cons_self
      obtain ⟨made', mode, _, hmode, hstep⟩ :
          ∃ made' mode, block.CompilesTo cfg done.isEmpty mode es ∧ mode.id = id ∧ _ :=
        blocks_reads hd hid hnew hes
      have hids : (done ++ [mode]).map Mode.id = done.map Mode.id ++ [id] := by simp [hmode]
      have hn' : ((done ++ [mode]).map Mode.id ++ ids).Nodup := by
        rw [hids]
        simpa using hn
      have hrole : (done ++ [mode]).isEmpty = false := by simp
      rw [← hrole] at hl
      obtain ⟨n, modes, shifts', hblocks, hmodes⟩ := ih hn' hl
      refine ⟨n, modes, shifts', (hstep rest).trans hblocks, ?_⟩
      rw [hmodes, hids]
      simp

/-- Blocks after blocks that compile are read as if they came first, with what was compiled before them. -/
theorem blocks_append {before : List ModeBlock} {modes : List Mode} {shifts' : List Shift}
    (h : Compile.blocks cfg recognizers made done shifts before = (n, .ok (modes, shifts')))
    (after : List ModeBlock) :
    Compile.blocks cfg recognizers made done shifts (before ++ after)
      = Compile.blocks cfg recognizers n modes shifts' after := by
  induction before generalizing made done shifts with
  | nil =>
      obtain ⟨hmade, hout⟩ := Prod.mk.inj h
      obtain ⟨rfl, rfl⟩ := Prod.mk.inj (Except.ok.inj hout)
      subst hmade
      rfl
  | cons block rest ih =>
      obtain ⟨d, id, es, hd, hid, hnew, hes⟩ := exists_blocks_reads h
      obtain ⟨made', mode, _, _, hstep⟩ :
          ∃ made' mode, block.CompilesTo cfg done.isEmpty mode es ∧ mode.id = id ∧ _ :=
        blocks_reads hd hid hnew hes
      rw [hstep] at h
      rw [List.cons_append, hstep]
      exact ih h

/-- Rules that are read are followed by the rules after them. -/
theorem addRules_append {lines : List Json} (h : ∀ r ∈ lines, ∃ e, Reads cfg isDefault r e) (more : List Json)
    (mode : Mode) (shifts : List Shift) :
    ∃ mode' shifts', Compile.addRules cfg isDefault (lines ++ more) mode shifts
      = Compile.addRules cfg isDefault more mode' shifts' := by
  induction lines generalizing mode shifts with
  | nil => exact ⟨mode, shifts, rfl⟩
  | cons line rest ih =>
      obtain ⟨e, he⟩ := h line List.mem_cons_self
      rw [List.cons_append, addRules_reads he]
      exact ih (fun r hr => h r (List.mem_cons_of_mem _ hr)) _ _

/-! ## A whole configuration -/

/-- The declarations of blocks that compile compile on their own. -/
theorem modesOf_names {modes : List Mode} (h : ModesOf cfg isDefault bs modes shifts) :
    List.Forall₂ (ModeBlock.Names cfg) bs (modes.map Mode.id) := by
  induction h with
  | nil => exact .nil
  | cons first _ ih =>
      obtain ⟨d, hd, hid, _⟩ := first.declared
      exact .cons (names_iff.mpr ⟨d, hd, hid⟩) ih

/-- The lines of blocks that compile compile on their own. -/
theorem modesOf_lines {modes : List Mode} (h : ModesOf cfg isDefault bs modes shifts) :
    LinesCompile cfg isDefault bs := by
  induction h with
  | nil => trivial
  | cons first _ ih =>
      refine ⟨fun rule hrule => ?_, ih⟩
      obtain ⟨i, hi, rfl⟩ := List.getElem_of_mem hrule
      have hlen : i < _ := first.lines.length_eq ▸ hi
      exact ⟨_, first.lines.get hi hlen⟩

/-- Each mode of blocks that compile is what one of them compiles to. -/
theorem modesOf_mem {modes : List Mode} (h : ModesOf cfg isDefault bs modes shifts) (hm : mode ∈ modes) :
    ∃ isDefault', ∃ block ∈ bs, ∃ es, ModeBlock.CompilesTo cfg isDefault' block mode es := by
  induction h with
  | nil => exact absurd hm (by simp)
  | cons first _ ih =>
      rcases List.mem_cons.mp hm with rfl | hm
      · exact ⟨_, _, List.mem_cons_self, _, first⟩
      · obtain ⟨role, block, hblock, es, hof⟩ := ih hm
        exact ⟨role, block, List.mem_cons_of_mem _ hblock, es, hof⟩

theorem compileRules_nonempty (hne : cfg.modes ≠ []) (recognizers : Bool) (made : Nat) :
    compileRules cfg recognizers made = Compile.blocks cfg recognizers made [] [] cfg.modes := by
  have hempty : cfg.modes.isEmpty = false := by simpa using hne
  unfold compileRules
  simp [hempty]

/-- **What a configuration compiles to** is what its blocks do. -/
theorem compileRules_modesOf {modes : List Mode}
    (h : compileRules cfg recognizers made = (n, .ok (modes, shifts))) :
    ModesOf cfg true cfg.modes modes shifts := by
  have hne : cfg.modes ≠ [] := by
    rintro hnil
    unfold compileRules at h
    rw [hnil] at h
    exact absurd (Prod.mk.inj h).2 (by simp)
  rw [compileRules_nonempty hne] at h
  obtain ⟨_, _, rfl, rfl, hof⟩ := blocks_ok h
  exact hof

/-- **A configuration compiles** exactly when every declaration and every line does on its own, and the ids are all
different. -/
theorem compileRules_ok_iff (hne : cfg.modes ≠ []) :
    (∃ out, (compileRules cfg recognizers made).2 = .ok out) ↔
      (∃ ids, List.Forall₂ (ModeBlock.Names cfg) cfg.modes ids ∧ ids.Nodup) ∧ LinesCompile cfg true cfg.modes := by
  constructor
  · rintro ⟨⟨modes, shifts⟩, h⟩
    have hc : compileRules cfg recognizers made = (_, .ok (modes, shifts)) := Prod.ext rfl h
    have hmodes := compileRules_modesOf hc
    exact ⟨⟨_, modesOf_names hmodes, (compileRules_compiled hc).2.nodup⟩, modesOf_lines hmodes⟩
  · rw [compileRules_nonempty hne]
    rintro ⟨⟨ids, hids, hn⟩, hl⟩
    obtain ⟨n, modes, shifts, h, -⟩ : ∃ n modes shifts',
        Compile.blocks cfg recognizers made [] [] cfg.modes = (n, .ok (modes, shifts')) ∧ _ :=
      blocks_exists hids hn hl
    exact ⟨(modes, shifts), congrArg Prod.snd h⟩

/-- **The first line that is refused**: the declarations up to that of its block compile and their ids are all
different, and so do the lines before it. -/
inductive FirstRefused (cfg : Config) (line : String) (e : CompileError) : Prop where
  | intro (before after : List ModeBlock) (block : ModeBlock) (ids : List String) (id : String)
    (lines more : List Json) (rule : Json) (modes : cfg.modes = before ++ block :: after)
    (declared : List.Forall₂ (ModeBlock.Names cfg) before ids) (own : block.Names cfg id)
    (different : (ids ++ [id]).Nodup) (earlier : LinesCompile cfg true before) (rules : block.rules = lines ++ rule :: more)
    (read : ∀ r ∈ lines, ∃ e, Reads cfg before.isEmpty r e) (text : rule.text = .ok line)
    (refused : readLine cfg.wordMappings before.isEmpty line = .error (.compile e))

/-- **The first line that is refused** is reported. -/
theorem compileRules_refused {line : String} {e : CompileError} (h : FirstRefused cfg line e) :
    (compileRules cfg recognizers made).2 = .error (.compile (.inLine line e)) := by
  obtain ⟨before, after, block, ids, id, lines, more, rule, hmodes, hbefore, hown, hn, hearlier, hrules, hread,
    htext, hrefused⟩ := h
  have hne : cfg.modes ≠ [] := by
    rw [hmodes]
    simp
  -- the blocks before that of the line compile
  obtain ⟨n, modes, shifts, hblocks, hids⟩ : ∃ n modes shifts',
      Compile.blocks cfg recognizers made [] [] before = (n, .ok (modes, shifts')) ∧ modes.map Mode.id = ids :=
    blocks_exists hbefore hn.of_append_left hearlier
  have hlen : modes.length = before.length := by
    rw [hbefore.length_eq, ← hids, List.length_map]
  have hrole : modes.isEmpty = before.isEmpty := by
    rw [Bool.eq_iff_iff, List.isEmpty_iff_length_eq_zero, List.isEmpty_iff_length_eq_zero, hlen]
  -- so does its own declaration, and so do the lines before it
  obtain ⟨d, hd, hid⟩ := names_iff.mp hown
  obtain ⟨kind, hkind⟩ : ∃ kind, kind = if (recognizers && d.wantsRecognizer) = true
      then Declaration.withRecognizer n d.kind else d.kind := ⟨_, rfl⟩
  have hnew : id ∉ modes.map Mode.id := by
    intro hmem
    rw [hids] at hmem
    exact List.disjoint_of_nodup_append hn hmem List.mem_cons_self
  have hstart : Compile.startMode d kind (modes.map Mode.id) = .ok { id, kind } :=
    startMode_ok_iff.mpr ⟨id, hid, hnew, rfl⟩
  obtain ⟨mode', shifts', hlines⟩ := addRules_append hread (rule :: more) { id, kind } shifts
  rw [compileRules_nonempty hne, hmodes, blocks_append hblocks]
  simp only [Compile.blocks, readDeclaration_index modes.length hd, ← hkind, hstart, hrole, hrules, hlines,
    addRules_refused htext hrefused]

/-- The message of a refused line begins with it. -/
theorem inLine_message (line : String) (e : CompileError) :
    ∃ reason, (Fault.compile (.inLine line e)).message = line ++ reason := by
  refine ⟨": " ++ e.message, ?_⟩
  rw [← String.append_assoc]
  rfl

/-- **What a configuration with at least one block compiles to.** It compiles exactly when every declaration
compiles on its own, the ids of the modes are all different, and every rule line compiles on its own in the role of
its block. Then there is a mode for each block, in order, and each line says one thing, which is a trigger or a
switch of its mode, or a shift exactly if it is a switch rule of the first block that leads to a mode; and the modes
can be installed. The first line that is refused is reported, with a message that begins with the line. -/
theorem compileRules_reads (cfg : Config) (hne : cfg.modes ≠ []) (recognizers : Bool) (made : Nat) :
    ((∃ out, (compileRules cfg recognizers made).2 = .ok out) ↔
      (∃ ids, List.Forall₂ (ModeBlock.Names cfg) cfg.modes ids ∧ ids.Nodup) ∧ LinesCompile cfg true cfg.modes) ∧
    (∀ modes shifts, (compileRules cfg recognizers made).2 = .ok (modes, shifts) →
      ModesOf cfg true cfg.modes modes shifts ∧ ∀ s, ∃ t, setModes modes shifts s = .ok () t) ∧
    (∀ isDefault rule e, Reads cfg isDefault rule e →
      (e.shift?.isSome ↔ isDefault = true ∧ Rule.LeadsToMode rule)) ∧
    ∀ line e, FirstRefused cfg line e →
      (compileRules cfg recognizers made).2 = .error (.compile (.inLine line e)) ∧
      ∃ reason, (Fault.compile (.inLine line e)).message = line ++ reason := by
  refine ⟨compileRules_ok_iff hne, fun modes shifts h => ?_, fun _ _ _ h => reads_shift_iff h, fun line e h => ?_⟩
  · have hcompiled : compileRules cfg recognizers made = (_, .ok (modes, shifts)) := Prod.ext rfl h
    obtain ⟨hmodes, hc⟩ := compileRules_compiled hcompiled
    refine ⟨compileRules_modesOf hcompiled, fun s => ?_⟩
    obtain ⟨first, rest, hfirst⟩ := List.exists_cons_of_ne_nil hmodes
    rw [hfirst] at hc ⊢
    exact ⟨_, setModes_first hc.nodup⟩
  · exact ⟨compileRules_refused h, inLine_message line e⟩

/-- Two modes, the first of which leads to the second, which has a line that does not compile. -/
def leading : Config :=
  { modes := [{ declaration := .str "[gyro] -id a", rules := [.str "[switch] button -id R -> [mode] -id b"] },
      { declaration := .str "[idle] -id b",
        rules := [.str "[trigger] gyro -> [flush]", .str "[trigger] gyros -> [flush]"] }] }

theorem compileRules_reads_leading :
    leading.modes ≠ [] ∧ FirstRefused leading "[trigger] gyros -> [flush]" (.unknownTrigger "gyros") ∧
    (compileRules leading false 0).2
      = .error (.compile (.inLine "[trigger] gyros -> [flush]" (.unknownTrigger "gyros"))) := by
  have hne : leading.modes ≠ [] := by simp [leading]
  have hfirst : FirstRefused leading "[trigger] gyros -> [flush]" (.unknownTrigger "gyros") := by
    refine .intro [_] [] _ ["a"] "b" [_] [] _ rfl (.cons ?_ .nil) ?_ (by decide) ⟨?_, trivial⟩ rfl ?_ rfl rfl
    · exact ⟨{ id := "a", kind := .gyro }, by with_unfolding_all rfl, rfl⟩
    · exact ⟨{ id := "b", kind := .idle }, by with_unfolding_all rfl, rfl⟩
    · intro rule hrule
      obtain rfl := List.mem_singleton.mp hrule
      exact ⟨.shift ⟨.ofButton .r, some "b"⟩, _, rfl, by with_unfolding_all rfl⟩
    · intro rule hrule
      obtain rfl := List.mem_singleton.mp hrule
      exact ⟨.trigger ⟨.gyro, .flush⟩, _, rfl, by with_unfolding_all rfl⟩
  exact ⟨hne, hfirst, ((compileRules_reads leading hne false 0).2.2.2 _ _ hfirst).1⟩

end PadScribe
