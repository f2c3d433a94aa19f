import PadScribe.Fault
import PadScribe.Rule.Basic
import PadScribe.Rule.Key

/-!
# `Rule.Line` — reading rule lines

A rule line has a kind and a condition on its left side and what it does on its right side:

    [trigger] button -id X -> [hotkey] -keys i
    [switch]  button -id R -> [upper]

Keywords are read in any letter case, names of buttons, sides and directions are not.

## Contents

* `splitRule` — the words on both sides
* `readCondition`, `readSwitch` — what a rule reacts to
* `readModifier?`, `readAction` — what a rule does
-/

namespace PadScribe.Rule

/-- The words on the two sides of a rule line. -/
def splitRule (line : String) : Except CompileError (List String × List String) :=
  match Text.sides line with
  | .error .arrow => .error .arrow
  | .error (.quoting e) => .error (.quoting e)
  | .ok (lefts, rights) =>
    if lefts.length < 2 || rights.isEmpty then .error .incomplete else .ok (lefts, rights)

/-- An option under its two spellings. -/
def option (name : String) (arity : Arity := .one) (domain : Domain := .text) (required : Bool := false) :
    OptionSpec :=
  { name, spellings := ["-" ++ name, "--" ++ name], arity, domain, required }

/-- An option that has to be given. -/
def requiredOption (name : String) (arity : Arity := .one) (domain : Domain := .text) : OptionSpec :=
  option name arity domain true

/-- An option that is raised by its name alone or given a truth value. -/
def flagOption (name : String) : OptionSpec :=
  option name .optional .flag

/-- The options of a keyword. -/
def readOptions (keyword : String) (specs : List OptionSpec) (args : List String) : Except Fault Options :=
  match OptionSpec.parse specs false args with
  | .ok opts => .ok opts
  | .error e => .error (.compile (.options keyword e))

/-- What a name stands for; a name that its option left empty stands for nothing. -/
def named {α : Type} (find? : String → Option α) (unknown : String → CompileError) :
    Option String → Except Fault α
  | none => .error (.shape .wrongKind)
  | some name =>
    match find? name with
    | some a => .ok a
    | none => .error (.compile (unknown name))

/-- The button that an option names. -/
def readButton : Option String → Except Fault Button :=
  named Button.ofName? .unknownButton

/-- The stick that an option names. -/
def readSide : Option String → Except Fault Side :=
  named Side.ofName? .unknownSide

/-- The direction that an option names, which is never plain movement. -/
def readDirection : Option String → Except Fault Direction :=
  named (fun s => (Direction.ofName? s).filter (· != .plain)) .unknownDirection

/-! ## What a rule reacts to -/

/-- The condition of a trigger. -/
def readCondition (name : String) (args : List String) : Except Fault Condition :=
  let kind := Text.lower name
  if kind = "button" then do
    let opts ← readOptions "button" [requiredOption "id", flagOption "whendown"] args
    return .button (← readButton (opts.text "id" none)) (opts.flag "whendown" true)
  else if kind = "stick" then do
    let opts ← readOptions "stick" [requiredOption "side", option "dir"] args
    let side ← readSide (opts.text "side" none)
    if opts.has "dir" then return .stickZone side (← readDirection (opts.text "dir" none))
    else return .stickMove side
  else if kind = "gyro" then do
    let _ ← readOptions "gyro" [] args
    return .gyro
  else if kind = "speech" then do
    let _ ← readOptions "speech" [] args
    return .speech
  else .error (.compile (.unknownTrigger name))

/-- The switch of a switch rule. -/
def readSwitch (name : String) (args : List String) : Except Fault Switch :=
  let kind := Text.lower name
  if kind = "button" then do
    let opts ← readOptions "button" [requiredOption "id"] args
    return .ofButton (← readButton (opts.text "id" none))
  else if kind = "stick" then do
    let opts ← readOptions "stick" [requiredOption "side", requiredOption "dir"] args
    let side ← readSide (opts.text "side" none)
    return .ofZone side (← readDirection (opts.text "dir" none))
  else .error (.compile (.unknownSwitchSource name))

/-! ## What a rule does -/

/-- The modifier of a switch rule, or `none` when the keyword is not that of a modifier. -/
def readModifier? (name : String) (args : List String) : Except Fault (Option Modifier) :=
  let kind := Text.lower name
  match CaseStyle.ofTag? kind with
  | some style => do
    let _ ← readOptions kind [] args
    return some (.addPrefix (some style.tag) true)
  | none =>
    if kind = "[prefix]" then do
      let opts ← readOptions kind [requiredOption "prefix", flagOption "space"] args
      return some (.addPrefix (opts.text "prefix" none) (opts.flag "space" true))
    else if kind = "[boost]" then do
      let opts ← readOptions kind [requiredOption "multiplier" .one .number] args
      return some (.boost (opts.number "multiplier" none))
    else return none

/-- The first of some names that is not that of a key. -/
def unknownKey? (keys : List String) : Option String :=
  keys.find? (!Key.isKey ·)

/-- The action of a trigger. -/
def readAction (mappings : List (String × List Json)) (name : String) (args : List String) :
    Except Fault Action :=
  let kind := Text.lower name
  if kind = "[cursor]" then do
    let opts ← readOptions kind [option "speed" .one .number] args
    return .moveCursor (opts.number "speed" (some 0.01))
  else if kind = "[click]" then do
    let buttons := PointerButton.clickable.map PointerButton.name
    let opts ← readOptions kind [option "button" .one (.choice buttons), flagOption "double"] args
    return .click ((opts.text "button" (some "left")).bind PointerButton.ofName?) (opts.flag "double" false)
  else if kind = "[hotkey]" then do
    let opts ← readOptions kind [requiredOption "keys" .atLeastOne] args
    match unknownKey? (opts.texts "keys") with
    | some key => .error (.compile (.unknownKey key))
    | none => return .hotkey (opts.texts "keys")
  else if kind = "[notify]" then do
    let opts ← readOptions kind [option "title", option "text", option "icon"] args
    return .notify (opts.text "title" (some "")) (opts.text "text" (some "")) (opts.text "icon" (some ""))
  else if kind = "[speak]" then do
    let opts ← readOptions kind [option "text"] args
    return .speak (opts.text "text" (some ""))
  else if kind = "[speech]" then do
    let opts ← readOptions kind
      [flagOption "number", flagOption "nospace", flagOption "typing", option "map" .many] args
    match Vocabulary.build mappings (opts.texts "map") (opts.flag "number" true) (opts.flag "nospace" true)
        (opts.flag "typing" true) with
    | .ok v => return .speech v
    | .error (.mapping e) => .error (.compile (.mapping e))
    | .error fault => .error fault
  else if kind = "[flush]" then do
    let _ ← readOptions kind [] args
    return .flush
  else if kind = "[repeat]" then do
    let _ ← readOptions kind [] args
    return .replay
  else if kind = "[mode]" then do
    let opts ← readOptions kind [requiredOption "id"] args
    return .enterMode (opts.text "id" none)
  else .error (.compile (.unknownAction name))

end PadScribe.Rule
