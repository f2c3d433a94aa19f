import PadScribe.Json.Parser
import PadScribe.Rule.Options
import PadScribe.Text.Quoted
import PadScribe.Text.Point

/-!
# `Fault` — what can go wrong

Every failure of the program is one of the causes below. A cause holds what its message needs, and the
wording of each is given once, here.

## Contents

* `CompileError` — a configuration that cannot be compiled
* `MappingError` — a word-mapping line that cannot be read
* `SpokenError` — a spoken command without the words it needs
* `ModeError` — a mode that cannot be entered or installed
* `Fault` — any of these, and failures of numbers, shapes and the outside world
-/

namespace PadScribe

/-- A word mapping that cannot be read. All but the last name the line at fault. -/
inductive MappingError where
  | arrow (line : String)
  | quoting (e : Text.Quoted.QuotingError) (line : String)
  | emptySide (line : String)
  | missingCommand (line : String)
  | badDuration (line : String)
  | extraDelay (line : String)
  | unknownId (id : String)
  deriving DecidableEq, Repr

/-- The wording of a mapping error. -/
def MappingError.message : MappingError → String
  | arrow line => "expected exactly one '->': " ++ line
  | quoting e line => e.message ++ ": " ++ line
  | emptySide line => "wrong format: " ++ line
  | missingCommand line => "wrong '[shell]', missing command: " ++ line
  | badDuration line => "wrong '[delay]' duration: " ++ line
  | extraDelay line => "wrong '[delay]': " ++ line
  | unknownId id => "mapping id not exist in word_mapping: " ++ id

/-- A configuration that cannot be compiled. -/
inductive CompileError where
  | arrow
  | quoting (e : Text.Quoted.QuotingError)
  | incomplete
  | unknownButton (name : String)
  | unknownSide (name : String)
  | unknownDirection (name : String)
  | options (keyword : String) (e : OptionError)
  | unknownTrigger (name : String)
  | unknownSwitchSource (name : String)
  | unknownKey (name : String)
  | mapping (e : MappingError)
  | unknownAction (name : String)
  | unknownEngine (name : Option String)
  | unknownPhrases (id : String)
  | unknownMode (name : String)
  | unknownRule (head : String)
  | misplacedModeSwitch
  | unknownSwitch (name : String)
  | noModes
  | declarationQuoting (text : String) (e : Text.Quoted.QuotingError)
  | emptyDeclaration (index : Nat)
  | inDeclaration (text : String) (e : CompileError)
  | duplicateMode (id : String)
  | inLine (line : String) (e : CompileError)

/-- The wording of a compile error. -/
def CompileError.message : CompileError → String
  | arrow => "missing or repeated '->'"
  | quoting e => "wrong quoting: " ++ e.message
  | incomplete => "a rule needs a kind and a condition before '->' and something after it"
  | unknownButton name => "no button named: " ++ name
  | unknownSide name => "unsupported side: " ++ name
  | unknownDirection name => "invalid direction: " ++ name
  | options keyword e => keyword ++ ": " ++ e.message
  | unknownTrigger name => "no trigger named: " ++ name
  | unknownSwitchSource name => "no switch named: " ++ name
  | unknownKey name => "unknown key: " ++ name
  | mapping e => e.message
  | unknownAction name => "unknown action: " ++ name
  | unknownEngine name => "unknown speech engine: " ++ name.getD "[]"
  | unknownPhrases id => "phrase '" ++ id ++ "' not exist"
  | unknownMode name => "no mode named: '" ++ name ++ "'"
  | unknownRule head => "unknown key '" ++ head ++ "', should begin with either [trigger] or [switch]"
  | misplacedModeSwitch => "mode switch can only be defined in the default mode (the first in the list)"
  | unknownSwitch name => "unknown switch: " ++ name
  | noModes => "no mode rules configured"
  | declarationQuoting text e => "wrong mode '" ++ text ++ "': " ++ e.message
  | emptyDeclaration index => "missing type for mode[" ++ toString index ++ "]"
  | inDeclaration text e => "wrong mode '" ++ text ++ "': " ++ e.message
  | duplicateMode id => "duplicated mode id: " ++ id
  | inLine line e => line ++ ": " ++ e.message

/-- A spoken command whose further words do not fit it. -/
inductive SpokenError where
  | hotkeyWithoutKey
  | unknownHotkey (word : String)
  | delayWithoutNumber
  | notANumber (word : String)
  | delayWithoutUnit
  | unknownUnit (word : String)
  deriving DecidableEq, Repr

/-- The wording of a spoken error. -/
def SpokenError.message : SpokenError → String
  | hotkeyWithoutKey => "\"hotkey\" needs a key, like: \"hotkey control a\""
  | unknownHotkey word => "unknown hotkey: " ++ word
  | delayWithoutNumber => "\"delay\" needs a number and a unit, like: \"delay three seconds\""
  | notANumber word => "not a number: " ++ word
  | delayWithoutUnit => "\"delay\" is missing its unit: second|millisecond"
  | unknownUnit word => "unknown delay unit: " ++ word

/-- A mode that cannot be entered, or modes that cannot be installed. -/
inductive ModeError where
  | unknown (id : String)
  | noneConfigured
  | duplicate (id : String)
  deriving DecidableEq, Repr

/-- The wording of a mode error. -/
def ModeError.message : ModeError → String
  | unknown id => "mode '" ++ id ++ "' not exists"
  | noneConfigured => "no mode configured"
  | duplicate id => "duplicated mode id: " ++ id

/-- Any failure. -/
inductive Fault where
  | compile (e : CompileError)
  | mapping (e : MappingError)
  | spoken (e : SpokenError)
  | mode (e : ModeError)
  | conversion (e : ConversionError)
  | duration (text : String)
  | unknownPointerButton (name : String)
  | unknownLogLevel (name : String)
  | unknownRecognizer (index : Nat)
  | unheardRecognizer (index : Nat)
  | encoding (e : Text.EncodingError)
  | shape (e : ShapeError)
  | malformedJson
  | outside (reason : String)

/-- The wording of a failure. -/
def Fault.message : Fault → String
  | compile e => e.message
  | mapping e => e.message
  | spoken e => e.message
  | mode e => e.message
  | conversion e => e.message
  | duration text => "invalid duration: " ++ Text.literal text
  | unknownPointerButton name => "unknown mouse button: " ++ name
  | unknownLogLevel name => "Unknown level: " ++ Text.literal name
  | outside reason => reason
  | unknownRecognizer index => "no recognizer " ++ toString index
  | unheardRecognizer index => "nobody listens to recognizer " ++ toString index
  | encoding e => e.message
  | shape .missingField => "a field is missing"
  | shape .wrongKind => "a value is of the wrong kind"
  | shape .missingPart => "a value lacks what is asked of it"
  | malformedJson => "malformed JSON"

/-- The failure of a whole number times a factor that its option left empty. The number is first taken for a
count, which it can only be within 64 bits. -/
def Fault.ofEmptiedFactor (n : Int) : Fault :=
  let limit : Int := (1 <<< 63 : Nat)
  if -limit ≤ n ∧ n < limit then .shape .wrongKind else .conversion .beyondIndex

/-- The failure that a JSON reading error is. -/
def Fault.ofParseError : Json.ParseError → Fault
  | .malformed => .malformedJson
  | .conversion e => .conversion e

end PadScribe
