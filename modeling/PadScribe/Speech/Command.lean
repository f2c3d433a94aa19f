import PadScribe.Fault
import PadScribe.Rule.Key
import PadScribe.Speech.CaseStyle
import PadScribe.Speech.SpokenNumber

/-!
# `Speech.Command` — what an utterance is compiled to

A command is one effect of an utterance. A recipe stands at the end of a spoken phrase and makes a command,
some recipes from the words that follow the phrase: "hotkey control a", "delay three seconds".

## Contents

* `Command` — the effects
* `Recipe` — how a phrase makes its command
* `Recipe.makeHotkey`, `Recipe.makeDelay` — the commands made from further words
* `Recipe.make` — the command, and how many of the following words it used
-/

namespace PadScribe

/-- One effect of an utterance. -/
inductive Command where
  /-- Changes the letter case of the next typed words. -/
  | style (s : CaseStyle)
  /-- Types words, joined without spaces when `joined`. -/
  | typing (words : List String) (joined : Bool)
  /-- Taps the first key while the others are held. -/
  | hotkey (keys : List String)
  /-- Waits. -/
  | delay (seconds : Float)
  /-- Runs a program. -/
  | shell (command : List String)
  /-- Speaks a text again. -/
  | replay (text : String)

/-- How a phrase makes its command. -/
inductive Recipe where
  | style (s : CaseStyle)
  | typing (joined : Bool)
  | hotkey (keys : List String)
  | spokenHotkey
  | delay (seconds : Float)
  | spokenDelay
  | shell (command : List String)
  | replay

namespace Recipe

/-- A spoken hotkey: held keys first, then the key that is tapped. -/
def makeHotkey (words : List String) : Except SpokenError (Nat × Command) :=
  let held := words.takeWhile Key.isModifier
  match words.dropWhile Key.isModifier with
  | [] => .error .hotkeyWithoutKey
  | key :: _ =>
    if Key.isKey key then .ok (held.length + 1, .hotkey (key :: held)) else .error (.unknownHotkey key)

/-- The units of a spoken delay, in seconds. -/
def delayUnits : List (String × Float) :=
  [("second", 1.0), ("seconds", 1.0), ("millisecond", 1e-3), ("milliseconds", 1e-3)]

/-- The number of a spoken delay, in digits or in words, and how many words it uses. -/
def delayNumber (first : String) (rest : List String) : Except Fault (Nat × Nat) :=
  match Text.decimalValue? first.toList with
  | some n =>
    if first.length > ConversionError.digitLimit then .error (.conversion (.tooManyDigits first.length))
    else .ok (n, 1)
  | none =>
    match SpokenNumber.numberAt? (first :: rest) with
    | some r => .ok r
    | none => .error (.spoken (.notANumber first))

/-- A spoken delay: a number and a unit. -/
def makeDelay : List String → Except Fault (Nat × Command)
  | [] => .error (.spoken .delayWithoutNumber)
  | first :: rest => do
    let (n, cost) ← delayNumber first rest
    match (first :: rest)[cost]? with
    | none => .error (.spoken .delayWithoutUnit)
    | some word =>
      match delayUnits.lookup (Text.lower word) with
      | none => .error (.spoken (.unknownUnit word))
      | some unit =>
        match Binary64.ofInt n with
        | .error e => .error (.conversion e)
        | .ok x => .ok (cost + 1, .delay (x * unit))

/-- The command of a recipe, and how many of the following words it used. `last` is what a replay speaks. -/
def make (last : String) (words : List String) : Recipe → Except Fault (Nat × Command)
  | style s => .ok (0, .style s)
  | typing joined => .ok (1, .typing (words.take 1) joined)
  | hotkey keys => .ok (0, .hotkey keys)
  | spokenHotkey =>
    match makeHotkey words with
    | .ok r => .ok r
    | .error e => .error (.spoken e)
  | delay seconds => .ok (0, .delay seconds)
  | spokenDelay => makeDelay words
  | shell command => .ok (0, .shell command)
  | replay => .ok (0, .replay last)

end Recipe

end PadScribe
