import PadScribe.CommandLine
import PadScribe.Launch

/-!
# `Main` — the program

Reads the arguments, the configuration file and the console, runs the program on them, and prints what it
says and what it would send to the devices.

## Contents

* `usage` — the explanation
* `main` — the program
-/

namespace PadScribe

/-- The explanation of the arguments. -/
def usage : String :=
  "usage: joytyping [-h] [--config CONFIG] [--log-level LEVEL]"

/-- The lines of a stream, up to its end. -/
partial def readLines (stream : IO.FS.Stream) : IO (List String) := do
  let line ← stream.getLine
  if line = "" then return [] else return Text.ofChars line :: (← readLines stream)

/-- The text of a file, if it can be read. -/
def readText? (path : String) : IO (Option String) := do
  try
    return some (Text.ofChars (← IO.FS.readFile path))
  catch _ => return none

/-- The directory of the configuration file unless one is named, and the file. -/
def configPlace : IO (String × String) := do
  let home := (← IO.getEnv "HOME").getD "."
  let path := home ++ "/" ++ Config.location
  return (home ++ "/.config/joytyping", path)

/-- The place and the text of the configuration file, which is written when it does not exist. -/
def openConfig (config : Option String) : IO (String × Option String) := do
  match config with
  | some path => return (path, ← readText? (Text.shown path))
  | none =>
    let (directory, path) ← configPlace
    IO.FS.createDirAll directory
    return (path, ← readText? path)

/-- A run on the console. -/
def runConsole (config level : Option String) : IO UInt32 := do
  let (path, text) ← openConfig config
  if text.isNone then IO.FS.writeFile (Text.shown path) (Config.save Config.default)
  let lines ← readLines (← IO.getStdin)
  match Launch.run { path, text, level, lines } with
  | .error fault =>
    IO.eprintln (Text.shown fault.message)
    return 1
  | .ok outcome =>
    for line in outcome.printed ++ transcript outcome.effects do IO.println (Text.shown line)
    return if outcome.code = 0 then 0 else 1

end PadScribe

/-- Runs the program. -/
def main (args : List String) : IO UInt32 :=
  match PadScribe.CommandLine.read (args.map PadScribe.Text.ofChars) with
  | .help => do
    IO.println PadScribe.usage
    return 0
  | .misuse => do
    IO.eprintln PadScribe.usage
    return 2
  | .run config level => PadScribe.runConsole config.text? level.text?
