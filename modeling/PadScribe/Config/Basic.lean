import PadScribe.Json.Basic
import PadScribe.Real.Binary64

/-!
# `Config.Basic` — configurations

A configuration has settings, mode blocks, phrase lists for recognizers and word mappings. Single values
are kept as the file has them and are looked at where they are used: a threshold that is no number is found
by the first stick report, a rule that is no text by the compiler.

## Contents

* `Settings`, `ModeBlock`, `Config`
* `Json.toNumber` — a value as a number
* `Config.ofJson`, `Config.toJson` — configurations as JSON values
-/

namespace PadScribe

/-- General settings. A stick is neutral while both axes stay within the first threshold of zero, and an
edge begins at the second. -/
structure Settings where
  logLevel : Json := .str "info"
  neutralThreshold : Json := .real 0.08
  edgeThreshold : Json := .real 0.70

/-- The declaration of a mode and its rule lines. -/
structure ModeBlock where
  declaration : Json
  rules : List Json := []

/-- A configuration. The first mode is the default mode. -/
structure Config where
  settings : Settings := {}
  modes : List ModeBlock := []
  phraseLists : List (String × List Json) := []
  wordMappings : List (String × List Json) := []

/-- The number that a value is, where only a number will do; truth values count as 0 and 1. -/
def Json.toNumber : Json → Except ShapeError Number
  | .int n => .ok (.whole n)
  | .real x => .ok (.real x)
  | .bool b => .ok (.whole (if b then 1 else 0))
  | _ => .error .wrongKind

namespace Settings

/-- The settings with one field of a JSON object taken over. Only known fields are. -/
def setField (s : Settings) : String × Json → Except ShapeError Settings
  | ("log_level", v) => .ok { s with logLevel := v }
  | ("spin_neutral_threshold", v) => .ok { s with neutralThreshold := v }
  | ("spin_edge_threshold", v) => .ok { s with edgeThreshold := v }
  | _ => .error .wrongKind

/-- The settings of a JSON object; what it leaves out keeps its default. -/
def ofJson : Json → Except ShapeError Settings
  | .obj fields => fields.foldlM setField {}
  | _ => .error .wrongKind

/-- The settings as a JSON object. -/
def toJson (s : Settings) : Json :=
  .obj [("log_level", s.logLevel), ("spin_neutral_threshold", s.neutralThreshold),
    ("spin_edge_threshold", s.edgeThreshold)]

end Settings

namespace ModeBlock

/-- The mode block of a JSON object. -/
def ofJson : Json → Except ShapeError ModeBlock
  | .obj fields =>
    match Json.field? "mode" fields with
    | none => .error .missingField
    | some declaration =>
      (((Json.field? "rules" fields).getD (.arr [])).elements).map fun rules => ⟨declaration, rules⟩
  | _ => .error .wrongKind

/-- A mode block as a JSON object. -/
def toJson (b : ModeBlock) : Json :=
  .obj [("mode", b.declaration), ("rules", .arr b.rules)]

end ModeBlock

namespace Config

/-- The named lists of a JSON object. -/
def listsOfJson : Json → Except ShapeError (List (String × List Json))
  | .obj fields => fields.mapM fun (name, v) => v.elements.map (name, ·)
  | _ => .error .missingPart

/-- Named lists as a JSON object. -/
def listsToJson (lists : List (String × List Json)) : Json :=
  .obj (lists.map fun (name, items) => (name, .arr items))

/-- The configuration of a JSON object. Sections that it leaves out keep their default, and fields that it
has besides are passed over. -/
def ofJson : Json → Except ShapeError Config
  | .obj fields => do
    let settings ← Settings.ofJson ((Json.field? "settings" fields).getD (.obj []))
    let modes ← (← ((Json.field? "modes" fields).getD (.arr [])).elements).mapM ModeBlock.ofJson
    let phraseLists ← listsOfJson ((Json.field? "phrase_list" fields).getD (.obj []))
    let wordMappings ← listsOfJson ((Json.field? "word_mapping" fields).getD (.obj []))
    return { settings, modes, phraseLists, wordMappings }
  | _ => .error .missingPart

/-- A configuration as a JSON object. -/
def toJson (c : Config) : Json :=
  .obj [("settings", c.settings.toJson), ("modes", .arr (c.modes.map ModeBlock.toJson)),
    ("phrase_list", listsToJson c.phraseLists), ("word_mapping", listsToJson c.wordMappings)]

end Config

end PadScribe
