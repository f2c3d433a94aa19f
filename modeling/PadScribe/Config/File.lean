import PadScribe.Config.Basic
import PadScribe.Fault
import PadScribe.Json.Parser
import PadScribe.Json.Basic

/-!
# `Config.File` — the configuration file and that of a first launch

The file holds a configuration as a JSON object. A file that does not exist is written first, with the
configuration of a first launch. A running program looks at the file's time of change and reads the file
again when that time is another than before.

## Contents

* `Config.default` — four ways to type: an idle mode that leads to the others, a mode for programming words,
  one for sentences, one for the pointer, and one to try things in
* its phrase lists and word mappings
* `Config.location` — where the file is, under the home directory
* `Config.read`, `Config.load`, `Config.save` — the file's text
* `FileState`, `changed?` — a file that is watched
-/

namespace PadScribe

/-! ## A first launch -/

/-- A mode block of texts. -/
def ModeBlock.ofLines (declaration : String) (rules : List String) : ModeBlock :=
  ⟨.str declaration, rules.map .str⟩

namespace Config

/-- The mode blocks of a first launch. -/
def defaultModes : List ModeBlock :=
  [
    ModeBlock.ofLines "[idle] -id id1"
      ["[switch]  button -id ZR   -> [mode] -id WordMode",
        "[switch]  button -id R    -> [mode] -id SentenceMode",
        "[switch]  button -id \"+\"  -> [mode] -id MouseMode",
        "[switch]  button -id R-SL -> [mode] -id some_test_mode",
        "[trigger] button -id X -> [hotkey] -keys i",
        "[trigger] button -id B -> [hotkey] -keys esc",
        "[trigger] button -id A -> [hotkey] -keys enter",
        "[trigger] button -id Y -> [speak] -text space",
        "[trigger] button -id R-SR -> [hotkey] -keys s ctrl",
        "[trigger] button -id Home -> [repeat]",
        "[trigger] stick -side Right -dir Up    -> [hotkey] -keys up",
        "[trigger] stick -side Right -dir Down  -> [hotkey] -keys down",
        "[trigger] stick -side Right -dir Left  -> [hotkey] -keys left",
        "[trigger] stick -side Right -dir Right -> [hotkey] -keys right",
        "[trigger] speech -> [speech] -map programming vim application go",
        "[trigger] gyro -> [cursor] -speed 0.03"],
    ModeBlock.ofLines "[speech] -id WordMode -flushonexit -phrase programming vim go application test"
      ["[trigger] button -id X -> [speak] -text \"c_o de\"",
        "[trigger] button -id B -> [speak] -text \"c_o db\"",
        "[trigger] button -id Y -> [hotkey] -keys backspace",
        "[trigger] button -id A -> [hotkey] -keys delete",
        "[trigger] button -id Home -> [hotkey] -keys S",
        "[trigger] stick -side Right -dir Left  -> [speak] -text \"c_o b\"",
        "[trigger] stick -side Right -dir Right -> [speak] -text \"c_o e\"",
        "[trigger] stick -side Right -dir Down  -> [speak] -text \"c_o w\"",
        "[trigger] button -id Home  -> [notify] -text text -title title",
        "[trigger] button -id B     -> [flush]",
        "[trigger] speech -> [speech] -map programming vim application go"],
    ModeBlock.ofLines "[speech] -id SentenceMode"
      ["[switch] button -id X   -> [upper]",
        "[trigger] stick -side Right -dir Up    -> [hotkey] -keys up",
        "[trigger] stick -side Right -dir Down  -> [hotkey] -keys down",
        "[trigger] stick -side Right -dir Left  -> [hotkey] -keys left",
        "[trigger] stick -side Right -dir Right -> [hotkey] -keys right",
        "[trigger] speech        -> [speech] --nospace=false -map programming application go"],
    ModeBlock.ofLines "[gyro] -id MouseMode"
      ["[trigger] gyro -> [cursor] -speed 0.03",
        "[switch]  button -id R   -> [mouse_toggle]",
        "[trigger] button -id ZR  -> [click]",
        "[trigger] button -id X   -> [click] -button right"],
    ModeBlock.ofLines "[speech] -id some_test_mode"
      ["[trigger] speech -> [speech] --nospace=false --number=false",
        "[trigger] button -id R-SR  -> [notify] -text \"just a test\" -title \"a title\""]]

/-- The phrase lists of a first launch. -/
def defaultPhraseLists : List (String × List String) :=
  [
    ("programming",
      ["a", "alpha", "b", "bat", "c", "d", "e", "emma", "f", "g", "h", "i", "j", "k", "l", "lot", "m",
        "maiden", "n", "near", "o", "p", "q", "r", "s", "t", "u", "v", "vest", "w", "x", "y", "z", "zed",
        "zero", "one", "two", "three", "four", "five", "six", "seven", "eight", "nine", "ten", "eleven",
        "twelve", "thirteen", "fourteen", "fifteen", "sixteen", "seventeen", "eighteen", "nineteen",
        "twenty", "thirty", "forty", "fifty", "sixty", "seventy", "eighty", "ninety", "hundred",
        "thousand", "second", "millisecond", "minute", "hour", "day", "week", "month", "year", "upper",
        "camel", "title", "snake", "slash", "underline", "underscore", "dash", "negative", "plus", "or",
        "not", "equal", "dot", "point", "comma", "semi", "colon", "semicolon", "double", "single", "loop",
        "condition", "quote", "quotes", "tick", "back", "round", "square", "curly", "angle", "bracket",
        "brackets", "close", "pair", "return", "enter", "space", "bar", "left", "right", "up", "down",
        "caret", "at", "tilde", "question", "minus", "multiply", "divide", "star", "comment", "dollar",
        "mod", "escape", "less", "greater", "than", "repeat", "append", "pre", "post", "begin", "ending",
        "check"]),
    ("application",
      ["hotkey", "launch", "shell", "bash", "control", "shift", "alt", "tab", "meta", "move", "resize",
        "maximize", "minimize", "window", "run", "command", "telegram", "chrome", "brave", "terminal",
        "aptitude", "nala", "vim", "explorer", "update", "upgrade", "shut", "close", "workspace",
        "switch", "git", "clone", "status", "file", "manager", "job", "note"]),
    ("test",
      ["elephant", "cobra", "delay", "hello", "world"]),
    ("go",
      ["struct", "var", "type", "import", "package", "switch", "function", "go", "make", "new", "const",
        "unsigned", "int", "float", "byte", "array", "spring", "print", "line", "format", "assert",
        "select", "main", "truth", "false", "break"]),
    ("vim",
      ["mode", "insert", "undo", "redo", "search", "mark", "next", "previous", "last", "position",
        "modify", "zoom", "page", "middle", "top", "bottom", "down", "buffer"])]

/-- The word mappings of a first launch. -/
def defaultWordMappings : List (String × List String) :=
  [
    ("vim",
      ["s_h -> [hotkey] h shift", "c_o -> [hotkey] o ctrl", "c_i -> [hotkey] i ctrl", "insert -> i",
        "select line -> escape vil", "select 9 -> escape vil", "line begin -> c_o I", "9 begin -> c_o I",
        "line ending -> c_o A", "9 ending -> c_o A", "undo -> escape u", "redo -> escape \";redo\" enter",
        "new line -> c_o o", "new 9 -> c_o o", "new line upper -> c_o O", "new 9 upper -> c_o O",
        "search -> \"/\"", "mark -> m", "next -> n", "previous -> N", "last position -> c_o c_o",
        "next position -> c_o c_i", "last modify -> c_o \"'\" \".\"", "middle -> M", "top -> H",
        "bottom -> L", "zoom -> zz", "page down -> [hotkey] d ctrl", "page up -> [hotkey] e ctrl",
        "buffer right -> [hotkey] l ctrl", "buffer left -> [hotkey] h ctrl",
        "buffer up -> [hotkey] k ctrl", "buffer down -> [hotkey] j ctrl"]),
    ("programming",
      ["repeat -> [repeat]", "the -> \"\"", "alpha -> \"a\"", "bat -> \"b\"", "emma -> \"e\"",
        "lot -> \"l\"", "maiden -> \"m\"", "near -> \"n\"", "vest -> \"v\"", "zed -> z",
        "escape -> [hotkey] esc", "space -> \" \"", "bar -> \" \"", "dot -> \".\"", "equal -> =",
        "dash -> \"-\"", "minus -> \"-\"", "negative -> \"-\"", "tick -> \"`\"", "plus -> \"+\"",
        "at -> \"@\"", "multiply -> \"*\"", "star -> \"*\"", "divide -> \"/\"", "dollar -> '$'",
        "underscore -> _", "underline -> _", "enter -> [hotkey] enter", "return -> [hotkey] enter",
        "round -> \"(\"", "round close -> \")\"", "round pair -> \"()\"", "square -> \"[\"",
        "square close -> \"]\"", "square pair -> \"[]\"", "curly -> \"\x7b\"", "curly close -> \"\x7d\"",
        "curly pair -> \"\x7b\x7d\"", "angle -> \"<\"", "angle close -> \">\"", "angle pair -> \"<>\"",
        "less than -> \"<\"", "greater than -> \">\"", "less equal -> \" <= \"",
        "greater equal -> \" >= \"", "single quote -> \"'\"", "quote -> '\"'", "semi -> \";\"",
        "colon -> \":\"", "comma -> \",\"", "f check -> \"if \"", "y loop -> \"while \"",
        "camel -> [camel]", "title -> [title]", "snake -> [snake]", "upper -> [upper]",
        "elephant -> [camel] [title]", "cobra -> [snake] [title]"]),
    ("application",
      ["file manager -> [shell] dw", "run terminal -> [hotkey] t control alt",
        "run job -> [shell] v \"/e/job/job.md\"", "run note -> [shell] v \"/e/job/note.md\"",
        "run brave -> [shell] \"brave-browser\" \"--no-sandbox\"", "run command -> [hotkey] esc alt",
        "maximize window -> [hotkey] e alt", "minimize window -> [hotkey] e alt",
        "shut -> [hotkey] w alt", "resize window -> [hotkey] r alt", "move window -> [hotkey] e alt",
        "control c -> [hotkey] c ctrl", "control v -> [hotkey] v ctrl", "control d -> [hotkey] d ctrl",
        "control p -> [hotkey] p ctrl", "control f -> [hotkey] f ctrl", "control zed -> [hotkey] z ctrl",
        "new tab -> [hotkey] t ctrl", "last page -> [hotkey] left alt", "next page -> [hotkey] right alt",
        "close tab -> [hotkey] w ctrl", "move workspace 2 -> [hotkey] 2 alt ctrl",
        "move workspace 1 -> [hotkey] 1 alt ctrl", "hotkey -> [hotkey]", "delay -> [delay]"]),
    ("go",
      ["spring -> \"fmt.Sprintf(\"", "assert -> \"if e != nil \x7b\"", "4 loop -> \"for \"",
        "colon equal -> \" := \"", "function -> \"func \"", "truth -> true"])]

/-- Named lists of texts as a configuration holds them. -/
def ofTexts (lists : List (String × List String)) : List (String × List Json) :=
  lists.map fun (name, items) => (name, items.map .str)

/-- The configuration of a first launch. -/
def default : Config :=
  { modes := defaultModes
    phraseLists := ofTexts defaultPhraseLists
    wordMappings := ofTexts defaultWordMappings }

end Config

/-! ## The file -/

namespace Config

/-- Where the file is unless another is named, relative to the home directory. -/
def location : String := ".config/joytyping/config.json"

/-- The configuration of a JSON value. -/
def ofValue (v : Json) : Except Fault Config :=
  match ofJson v with
  | .ok c => .ok c
  | .error e => .error (.shape e)

/-- The configuration of a text. -/
def read (text : String) : Except Fault Config :=
  match Json.parse text with
  | .ok v => ofValue v
  | .error e => .error (.ofParseError e)

/-- The text of a configuration. -/
def save (c : Config) : String :=
  Json.indented c.toJson

/-- The configuration of a file, from its text if it exists. -/
def load (text : Option String) : Except Fault Config :=
  read (text.getD (save default))

end Config

/-- What a look at a watched file finds: its time of change and what reading it gives. -/
structure FileState where
  modified : Int
  content : Except Fault Config

/-- The file when it has to be read again: it exists and its time of change is another than the last one. -/
def changed? (last : Option Int) (file : Option FileState) : Option FileState :=
  file.filter fun f => last != some f.modified

end PadScribe
