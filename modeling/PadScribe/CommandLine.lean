import PadScribe.Rule.Options

/-!
# `CommandLine` — the arguments of the program

    --config FILE          the configuration file
    --log-level LEVEL      debug, info, warning or error
    -h, --help

Options may be abbreviated as long as it is clear which one is meant.

## Contents

* `Argument`, `Request` — what the arguments ask for
* `normalizePath` — a path without empty and `.` parts
* `CommandLine.specs` — the options
* `CommandLine.read` — reading the arguments
-/

namespace PadScribe

/-- What an option of the program was given: nothing at all, a bare `--` that left it empty, or a text. -/
inductive Argument where
  | absent
  | emptied
  | given (text : String)
  deriving DecidableEq, Repr

/-- The text that an option was given. An option left empty counts as absent. -/
def Argument.text? : Argument → Option String
  | given text => some text
  | absent | emptied => none

/-- What the arguments of the program ask for. -/
inductive Request where
  | run (config level : Argument)
  | help
  | misuse

/-- The parts of a path between slashes, without the empty and the `.` ones. -/
def pathParts (path : String) : List String :=
  ((Text.chunks (· = '/') path.toList).map String.ofList).filter (· != ".")

/-- The slashes that a path starts with, of which three or more count as one. -/
def pathRoot (path : String) : String :=
  match path.toList with
  | '/' :: '/' :: '/' :: _ => "/"
  | '/' :: '/' :: _ => "//"
  | '/' :: _ => "/"
  | _ => ""

/-- A path without empty and `.` parts; the empty path is `.`. -/
def normalizePath (path : String) : String :=
  let body := pathRoot path ++ String.intercalate "/" (pathParts path)
  if body = "" then "." else body

namespace CommandLine

/-- The request for an explanation. -/
def helpOption : OptionSpec :=
  { name := "help", spellings := ["-h", "--help"], arity := .zero }

/-- The levels that can be asked for. -/
def levels : List String := ["debug", "info", "warning", "error"]

/-- The options. -/
def specs : List OptionSpec :=
  [helpOption,
    { name := "config", spellings := ["--config"] },
    { name := "log-level", spellings := ["--log-level"], domain := .choice levels }]

/-- What an option was given the last time, with its text put in a normal form. -/
def argument (given : Options) (name : String) (normalize : String → String) : Argument :=
  match given.last? name with
  | none => .absent
  | some (.text s) => .given (normalize s)
  | some _ => .emptied

/-- What the words ask for, after the options given so far. The first request for an explanation and the
first wrong option settle it; words left over are looked for at the end. -/
def follow (given : Options) (leftOver : Bool) : List Word → Request
  | [] =>
    if leftOver then .misuse
    else .run (argument given "config" normalizePath) (argument given "log-level" id)
  | .option o spelling attached :: rest =>
    match OptionSpec.consume specs o spelling attached rest with
    | .error _ => .misuse
    | .ok (values, n) =>
      if values.any (·.1 == helpOption.name) then .help
      else follow (given ++ values) leftOver (rest.drop n)
  | _ :: rest => follow given true rest
  termination_by ws => ws.length
  decreasing_by all_goals simp +arith [List.length_drop]

/-- What the arguments of the program ask for. -/
def read (args : List String) : Request :=
  match OptionSpec.classifyAll specs true args with
  | .error _ => .misuse
  | .ok ws => follow [] false ws

end CommandLine

end PadScribe
