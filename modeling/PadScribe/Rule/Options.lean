import PadScribe.Real.Decimal
import PadScribe.Text.LetterCase
import PadScribe.Text.Literal

/-!
# `Rule.Options` — keyword options

Keywords take options, each under one or more spellings: `-id X`, `--id X`, `-id=X`. The words of a line are
first told apart one by one, up to a bare `--` after which every word is a plain value. Then the options take
their values from the plain words that follow them, in the order of the line, and the last use of an option
wins. Words that no option takes are left over, and leaving any over is an error.

Telling words apart:

* a word is an option when it is spelled so, also with `=` and a value attached;
* a single dash also matches the start of a spelling, without an attached value, as long as only one
  spelling starts so, and double dashes do so where abbreviations are allowed;
* a lone dash, a negative number, a word with a space and a word without a dash are values;
* anything else that starts with a dash is an unknown option.

## Contents

* `Arity`, `Domain`, `OptionSpec` — what an option takes
* `OptionValue` — what an option was given
* `OptionError` — what can be wrong, with its wording
* `Word`, `OptionSpec.classify` — telling words apart
* `OptionSpec.take` — checking the values of one option
* `OptionSpec.parse` — a whole line
* `Options` — the result, by name
-/

namespace PadScribe

/-- How many values an option takes. -/
inductive Arity where
  /-- No value at all. -/
  | zero
  /-- Exactly one. -/
  | one
  /-- One or none. -/
  | optional
  /-- Any number. -/
  | many
  /-- At least one. -/
  | atLeastOne
  deriving DecidableEq, Repr

/-- What the values of an option may be. -/
inductive Domain where
  | text
  | choice (allowed : List String)
  | number
  | flag
  deriving DecidableEq, Repr

/-- An option that a keyword knows. -/
structure OptionSpec where
  name : String
  spellings : List String
  arity : Arity := .one
  domain : Domain := .text
  required : Bool := false
  deriving DecidableEq, Repr

/-- What an option was given. A bare `--` attached to an option is dropped and leaves it emptied. -/
inductive OptionValue where
  | emptied
  | text (s : String)
  | texts (l : List String)
  | number (x : Float)
  | flag (b : Bool)

/-- What can be wrong with the options of a line. -/
inductive OptionError where
  | ambiguous (word : String) (candidates : List String)
  | expectedOne (option : OptionSpec)
  | expectedSome (option : OptionSpec)
  | unexpectedValue (option : OptionSpec) (value : String)
  | notANumber (option : OptionSpec) (value : String)
  | notAFlag (option : OptionSpec) (value : String)
  | notAChoice (option : OptionSpec) (value : String) (allowed : List String)
  | missing (options : List OptionSpec)
  | leftOver (words : List String)

/-- All spellings of an option, as a message shows them. -/
def OptionSpec.label (o : OptionSpec) : String :=
  String.intercalate "/" o.spellings

/-- The wording of an option error. -/
def OptionError.message : OptionError → String
  | ambiguous word candidates =>
    "ambiguous option: " ++ word ++ " could match " ++ String.intercalate ", " candidates
  | expectedOne o => "argument " ++ o.label ++ ": expected one argument"
  | expectedSome o => "argument " ++ o.label ++ ": expected at least one argument"
  | unexpectedValue o v => "argument " ++ o.label ++ ": ignored explicit argument " ++ Text.literal v
  | notANumber o v => "argument " ++ o.label ++ ": invalid float value: " ++ Text.literal v
  | notAFlag o v => "argument " ++ o.label ++ ": not a boolean: " ++ v
  | notAChoice o v allowed =>
    "argument " ++ o.label ++ ": invalid choice: " ++ Text.literal v ++ " (choose from "
      ++ String.intercalate ", " (allowed.map Text.literal) ++ ")"
  | missing os =>
    "the following arguments are required: " ++ String.intercalate ", " (os.map OptionSpec.label)
  | leftOver ws => "unrecognized arguments: " ++ String.intercalate " " ws

/-- A word of a line, told apart. -/
inductive Word where
  | value (s : String)
  | option (o : OptionSpec) (spelling : String) (attached : Option String)
  | unknown (s : String)
  | ending

namespace OptionSpec

/-- The option of a spelling. -/
def find? (specs : List OptionSpec) (spelling : String) : Option OptionSpec :=
  specs.find? (·.spellings.contains spelling)

/-- A word cut at its first `=`. -/
def cutAtEquals? (word : List Char) : Option (String × String) :=
  match word.span (· != '=') with
  | (before, '=' :: after) => some (String.ofList before, String.ofList after)
  | _ => none

/-- Whether a word is a negative number: digits, or digits with a point and more digits. One line end may
follow. -/
def isNegativeNumber (word : List Char) : Bool :=
  match word with
  | '-' :: body =>
    let digits := body.takeWhile Text.isDigit
    match body.dropWhile Text.isDigit with
    | [] => !digits.isEmpty
    | ['\n'] => !digits.isEmpty
    | '.' :: rest =>
      let fraction := rest.takeWhile Text.isDigit
      let ending := rest.dropWhile Text.isDigit
      !fraction.isEmpty && (ending.isEmpty || ending == ['\n'])
    | _ => false
  | _ => false

/-- Every spelling that a word may be short for, with its option and the value attached to the word. A
single dash and one letter may also be followed directly by a value. -/
def candidates (specs : List OptionSpec) (abbreviations : Bool) (word : String) :
    List (OptionSpec × String × Option String) :=
  match word.toList with
  | '-' :: '-' :: _ =>
    if abbreviations then
      let (start, attached) :=
        match cutAtEquals? word.toList with
        | some (before, after) => (before, some after)
        | none => (word, none)
      specs.flatMap fun o =>
        (o.spellings.filter (start.toList.isPrefixOf ·.toList)).map fun s => (o, s, attached)
    else []
  | d :: letter :: rest =>
    specs.flatMap fun o =>
      o.spellings.filterMap fun s =>
        if s.toList = [d, letter] then some (o, s, some (String.ofList rest))
        else if word.toList.isPrefixOf s.toList then some (o, s, none)
        else none
  | _ => []

/-- Tells one word apart. -/
def classify (specs : List OptionSpec) (abbreviations : Bool) (word : String) : Except OptionError Word :=
  match word.toList with
  | '-' :: second :: rest =>
    match find? specs word with
    | some o => .ok (.option o word none)
    | none =>
      let attached := (cutAtEquals? word.toList).bind fun (before, after) =>
        (find? specs before).map fun o => Word.option o before (some after)
      match attached with
      | some w => .ok w
      | none =>
        match candidates specs abbreviations word with
        | [(o, s, v)] => .ok (.option o s v)
        | [] =>
          if isNegativeNumber word.toList || (second :: rest).contains ' ' then .ok (.value word)
          else .ok (.unknown word)
        | several => .error (.ambiguous word (several.map (·.2.1)))
  | _ => .ok (.value word)

/-- Tells the words of a line apart. -/
def classifyAll (specs : List OptionSpec) (abbreviations : Bool) : List String → Except OptionError (List Word)
  | [] => .ok []
  | w :: rest =>
    if w = "--" then .ok (.ending :: rest.map .value)
    else
      match classify specs abbreviations w with
      | .error e => .error e
      | .ok word => (classifyAll specs abbreviations rest).map (word :: ·)

/-- The truth value that a word stands for. -/
def flag? (s : String) : Option Bool :=
  let low := Text.lower s
  if ["true", "1", "yes", "on"].contains low then some true
  else if ["false", "0", "no", "off"].contains low then some false
  else none

/-- One value of an option, checked. -/
def check (o : OptionSpec) (v : String) : Except OptionError OptionValue :=
  match o.domain with
  | .text => .ok (.text v)
  | .choice allowed => if allowed.contains v then .ok (.text v) else .error (.notAChoice o v allowed)
  | .number => ((Decimal.read? v).map OptionValue.number).elim (.error (.notANumber o v)) .ok
  | .flag => ((flag? v).map OptionValue.flag).elim (.error (.notAFlag o v)) .ok

/-- What an option was given, from the values it took. A bare option that may do without a value is a raised
flag. -/
def take (o : OptionSpec) (values : List String) : Except OptionError OptionValue :=
  let values := values.erase "--"
  match o.arity, values with
  | .zero, _ => .ok (.flag true)
  | .optional, [] => .ok (.flag true)
  | .one, [] => .ok .emptied
  | .one, v :: _ => o.check v
  | .optional, v :: _ => o.check v
  | _, vs => .ok (.texts vs)

/-- How many of the plain values that follow it an option takes. -/
def wants (o : OptionSpec) (available : Nat) : Except OptionError Nat :=
  match o.arity with
  | .zero => .ok 0
  | .one => if available = 0 then .error (.expectedOne o) else .ok 1
  | .optional => .ok (min available 1)
  | .many => .ok available
  | .atLeastOne => if available = 0 then .error (.expectedSome o) else .ok available

/-- The plain values at the start of a row of words. -/
def leadingValues : List Word → List String
  | .value s :: rest => s :: leadingValues rest
  | _ => []

/-- Follows the values attached to an option that takes none: each further letter has to be another spelling
of such an option. -/
def unpack (specs : List OptionSpec) (o : OptionSpec) (spelling : String) :
    List Char → Except OptionError (List (String × OptionValue))
  | [] => .ok [(o.name, .flag true)]
  | c :: rest =>
    if spelling.startsWith "--" then .error (.unexpectedValue o (String.ofList (c :: rest)))
    else
      match find? specs (String.ofList ['-', c]) with
      | some o' =>
        if o'.arity = .zero then (unpack specs o' spelling rest).map ((o.name, .flag true) :: ·)
        else .error (.unexpectedValue o (String.ofList (c :: rest)))
      | none => .error (.unexpectedValue o (String.ofList (c :: rest)))

/-- What one option on the line was given, and how many of the following words it took. -/
def consume (specs : List OptionSpec) (o : OptionSpec) (spelling : String) (attached : Option String)
    (following : List Word) : Except OptionError (List (String × OptionValue) × Nat) :=
  match attached with
  | some v =>
    if o.arity = .zero then
      if v = "" then .error (.unexpectedValue o v)
      else (unpack specs o spelling v.toList).map (·, 0)
    else (o.take [v]).map fun value => ([(o.name, value)], 0)
  | none =>
    let available := leadingValues following
    match o.wants available.length with
    | .error e => .error e
    | .ok n => (o.take (available.take n)).map fun value => ([(o.name, value)], n)

/-- Walks a row of words: what the options were given, in order, and the words left over. -/
def walk (specs : List OptionSpec) : List Word → Except OptionError (List (String × OptionValue) × List String)
  | [] => .ok ([], [])
  | .value s :: rest => (walk specs rest).map fun (given, extra) => (given, s :: extra)
  | .unknown s :: rest => (walk specs rest).map fun (given, extra) => (given, s :: extra)
  | .ending :: rest => (walk specs rest).map fun (given, extra) => (given, "--" :: extra)
  | .option o spelling attached :: rest =>
    match consume specs o spelling attached rest with
    | .error e => .error e
    | .ok (values, n) => (walk specs (rest.drop n)).map fun (given, extra) => (values ++ given, extra)
  termination_by ws => ws.length
  decreasing_by all_goals simp +arith [List.length_drop]

end OptionSpec

/-- The options of a line by name, in the order they were given. -/
abbrev Options := List (String × OptionValue)

/-- Reads the options of a line. Required options are looked for before words left over are refused. -/
def OptionSpec.parse (specs : List OptionSpec) (abbreviations : Bool) (words : List String) :
    Except OptionError Options := do
  let (given, extra) ← walk specs (← classifyAll specs abbreviations words)
  let missing := specs.filter fun o => o.required && !given.any (·.1 == o.name)
  if !missing.isEmpty then .error (.missing missing)
  else if !extra.isEmpty then .error (.leftOver extra)
  else .ok given

namespace Options

/-- What an option was given the last time, if it was given at all. -/
def last? (opts : Options) (name : String) : Option OptionValue :=
  (opts.reverse.find? (·.1 == name)).map Prod.snd

/-- The text of an option, or `default` when it was not given; `none` when it was emptied. -/
def text (opts : Options) (name : String) (default : Option String) : Option String :=
  match opts.last? name with
  | none => default
  | some (.text s) => some s
  | some _ => none

/-- The number of an option, or `default` when it was not given; `none` when it was emptied. -/
def number (opts : Options) (name : String) (default : Option Float) : Option Float :=
  match opts.last? name with
  | none => default
  | some (.number x) => some x
  | some _ => none

/-- The truth value of an option, or `default` when it was not given. -/
def flag (opts : Options) (name : String) (default : Bool) : Bool :=
  match opts.last? name with
  | some (.flag b) => b
  | _ => default

/-- The values of an option that takes several. -/
def texts (opts : Options) (name : String) : List String :=
  match opts.last? name with
  | some (.texts l) => l
  | _ => []

/-- Whether an option was given. -/
def has (opts : Options) (name : String) : Bool :=
  opts.any (·.1 == name)

end Options

end PadScribe
