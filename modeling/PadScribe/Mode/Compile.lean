import PadScribe.Config.Basic
import PadScribe.Mode.Basic
import PadScribe.Rule.Line

/-!
# `Mode.Compile` — modes from a configuration

Each mode block is a declaration and rule lines. A declaration looks like this:

    [speech] -id WordMode -flushonexit -phrase programming vim

The first block is the default mode, and only its rules may lead to other modes. The first thing that is wrong, in
reading order, is reported.

Every speech mode is given a recognizer of its own where recognizers are to be had, numbered in the order of
the blocks. The number of recognizers made is known whether or not the rest compiles.

## Contents

* `Declaration`, `Declaration.read` — what a declaration says, and reading it
* `Declaration.wantsRecognizer`, `Declaration.withRecognizer` — the recognizer of a speech mode
* `Compile.readDeclaration` — the declaration of a block
* `Compile.addRule`, `Compile.addRules` — its rule lines
* `Compile.blocks`, `compileRules` — a whole configuration
-/

namespace PadScribe

/-! ## Declarations -/

/-- What a mode declaration says. The id is `none` when its option left it empty. -/
structure Declaration where
  id : Option String
  kind : ModeKind := .idle

namespace Declaration

/-- The host of a recognizer unless a mode names another. -/
def defaultHost : String := "localhost:2701"

/-- The recognizers that can be asked for. -/
def knownEngines : List String := ["vosk"]

/-- The phrases of several lists, in order. -/
def gatherPhrases (lists : List (String × List Json)) : List String → Except CompileError (List Json)
  | [] => .ok []
  | id :: rest =>
    match lists.lookup id with
    | none => .error (.unknownPhrases id)
    | some phrases => (gatherPhrases lists rest).map (phrases ++ ·)

/-- The options that every mode has. -/
def idOption : OptionSpec := Rule.requiredOption "id"

/-- Reads the speech line of a `[speech]` mode. -/
def readSpeechLine (lists : List (String × List Json)) (opts : Options) : Except CompileError SpeechLine :=
  let engine := opts.text "engine" (some "vosk")
  if !(engine.any knownEngines.contains) then .error (.unknownEngine engine)
  else
    (gatherPhrases lists (opts.texts "phrase")).map fun phrases =>
      { recognizer := none, host := opts.text "host" (some defaultHost), phrases,
        flushOnExit := opts.flag "flushonexit" false }

/-- Reads a mode declaration. -/
def read (lists : List (String × List Json)) (name : String) (args : List String) :
    Except Fault Declaration :=
  let kind := Text.lower name
  if kind = "[idle]" then do
    let opts ← Rule.readOptions kind [idOption] args
    return { id := opts.text "id" none, kind := .idle }
  else if kind = "[gyro]" then do
    let opts ← Rule.readOptions kind [idOption] args
    return { id := opts.text "id" none, kind := .gyro }
  else if kind = "[speech]" then do
    let opts ← Rule.readOptions kind
      [idOption, Rule.option "host", Rule.option "engine", Rule.option "phrase" .many,
        Rule.flagOption "flushonexit"] args
    match readSpeechLine lists opts with
    | .ok line => return { id := opts.text "id" none, kind := .speech line }
    | .error e => .error (.compile e)
  else .error (.compile (.unknownMode name))

/-- Whether a mode of this kind uses a recognizer. -/
def wantsRecognizer (d : Declaration) : Bool :=
  match d.kind with
  | .speech _ => true
  | _ => false

/-- The kind with the recognizer of the given number, where one is used. -/
def withRecognizer (number : Nat) : ModeKind → ModeKind
  | .speech line => .speech { line with recognizer := some number }
  | kind => kind

end Declaration

/-! ## Mode blocks -/

namespace Compile

/-- A failure inside a declaration or a line: what is wrong with the rule is reported with the text it is
in, any other failure as it is. -/
def within (wrap : CompileError → CompileError) {α : Type} : Except Fault α → Except Fault α
  | .error (.compile e) => .error (.compile (wrap e))
  | r => r

/-- The declaration of the block at the given place. -/
def readDeclaration (cfg : Config) (index : Nat) (block : ModeBlock) : Except Fault Declaration :=
  match block.declaration.text with
  | .error e => .error (.shape e)
  | .ok text =>
    match Text.Quoted.split text.toList with
    | .error e => .error (.compile (.declarationQuoting text e))
    | .ok [] => .error (.compile (.emptyDeclaration index))
    | .ok (name :: args) => within (.inDeclaration text) (Declaration.read cfg.phraseLists name args)

/-- What a switch rule adds: a switch to its mode, or a shift to the default mode. -/
def readSwitchRule (isDefault : Bool) (source : String) (args : List String) (target : String)
    (targetArgs : List String) : Except Fault (ModeSwitch ⊕ Shift) := do
  let switch ← Rule.readSwitch source args
  match ← Rule.readModifier? target targetArgs with
  | some m => return .inl ⟨switch, .modify m⟩
  | none =>
    let kind := Text.lower target
    if kind = "[mode]" then
      if !isDefault then .error (.compile .misplacedModeSwitch)
      else
        let opts ← Rule.readOptions kind [Rule.requiredOption "id"] targetArgs
        return .inr ⟨switch, opts.text "id" none⟩
    else if kind = "[gyro]" then
      let _ ← Rule.readOptions kind [] targetArgs
      return .inl ⟨switch, .gyro⟩
    else if kind = "[mouse_toggle]" then
      let buttons := PointerButton.holdable.map PointerButton.name
      let opts ← Rule.readOptions kind [Rule.option "button" .one (.choice buttons)] targetArgs
      return .inl ⟨switch, .pointer ((opts.text "button" (some "left")).bind PointerButton.ofName?)⟩
    else .error (.compile (.unknownSwitch target))

/-- A mode with what one rule line adds to it, and the shifts with what the line adds to them. -/
def addRule (cfg : Config) (isDefault : Bool) (line : String) (mode : Mode) (shifts : List Shift) :
    Except Fault (Mode × List Shift) :=
  match Rule.splitRule line with
  | .error e => .error (.compile e)
  | .ok (head :: source :: args, target :: targetArgs) =>
    let kind := Text.lower head
    if kind = "[trigger]" then do
      let condition ← Rule.readCondition source args
      let action ← Rule.readAction cfg.wordMappings target targetArgs
      return ({ mode with triggers := mode.triggers ++ [⟨condition, action⟩] }, shifts)
    else if kind = "[switch]" then do
      match ← readSwitchRule isDefault source args target targetArgs with
      | .inl s => return ({ mode with switches := mode.switches ++ [s] }, shifts)
      | .inr s => return (mode, shifts ++ [s])
    else .error (.compile (.unknownRule head))
  | .ok _ => .error (.compile .incomplete)

/-- A mode with what a row of rule lines adds to it, and the shifts. -/
def addRules (cfg : Config) (isDefault : Bool) : List Json → Mode → List Shift → Except Fault (Mode × List Shift)
  | [], mode, shifts => .ok (mode, shifts)
  | line :: rest, mode, shifts =>
    match line.text with
    | .error e => .error (.shape e)
    | .ok line =>
      match within (.inLine line) (addRule cfg isDefault line mode shifts) with
      | .error fault => .error fault
      | .ok (mode, shifts) => addRules cfg isDefault rest mode shifts

/-- The mode of a declaration whose id is new, without rules. -/
def startMode (d : Declaration) (kind : ModeKind) (seen : List String) : Except Fault Mode :=
  match d.id with
  | none => .error (.shape .wrongKind)
  | some id => if seen.contains id then .error (.compile (.duplicateMode id)) else .ok { id, kind }

/-- The modes of the blocks from the given place on, after those done. `made` counts the recognizers, and
`recognizers` says whether there are any to be had. -/
def blocks (cfg : Config) (recognizers : Bool) (made : Nat) (done : List Mode) (shifts : List Shift) :
    List ModeBlock → Nat × Except Fault (List Mode × List Shift)
  | [] => (made, .ok (done, shifts))
  | block :: rest =>
    match readDeclaration cfg done.length block with
    | .error fault => (made, .error fault)
    | .ok d =>
      let given := recognizers && d.wantsRecognizer
      let kind := if given then Declaration.withRecognizer made d.kind else d.kind
      let made := if given then made + 1 else made
      match startMode d kind (done.map Mode.id) with
      | .error fault => (made, .error fault)
      | .ok mode =>
        match addRules cfg done.isEmpty block.rules mode shifts with
        | .error fault => (made, .error fault)
        | .ok (mode, shifts) => blocks cfg recognizers made (done ++ [mode]) shifts rest

end Compile

/-- The modes and shifts of a configuration, and the number of recognizers after making those of its speech
modes; `made` is their number before. -/
def compileRules (cfg : Config) (recognizers : Bool) (made : Nat) :
    Nat × Except Fault (List Mode × List Shift) :=
  if cfg.modes.isEmpty then (made, .error (.compile .noModes))
  else Compile.blocks cfg recognizers made [] [] cfg.modes

end PadScribe
