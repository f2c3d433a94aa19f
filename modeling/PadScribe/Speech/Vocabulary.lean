import PadScribe.Speech.Command
import PadScribe.Speech.Duration
import PadScribe.Speech.PhraseTree

/-!
# `Speech.Vocabulary` — the words a mode understands

A vocabulary is built from word-mapping lines. A line with plain words on its right side replaces its phrase
by those words. A line whose right side starts with `[shell]`, `[hotkey]` or `[delay]` makes its phrase a
command. The case tags and the replay tag are commands of every vocabulary, whatever its lines say.

An utterance is compiled in three steps: numbers become digits, phrases are replaced, and from the left the
longest command phrase makes its command. Words that start no command phrase are typed, or dropped when
typing is off. Typed words in a row make one command, except that a lone space stays on its own.

## Contents

* `Vocabulary` — the two trees and the settings
* `Vocabulary.splitLine`, `Vocabulary.addLine`, `Vocabulary.build` — reading lines
* `mapWords`, `Vocabulary.mapped` — the first two steps
* `Vocabulary.compileWords`, `Vocabulary.compile` — the last step
-/

namespace PadScribe

/-- The tag of the command that speaks the last utterance again. -/
def replayTag : String := "[repeat]"

/-- The phrases of a mode and how its utterances are read. -/
structure Vocabulary where
  castNumbers : Bool := true
  joined : Bool := true
  typing : Bool := true
  mappingIds : List String := []
  replacements : PhraseTree (List String) := .empty
  commands : FallbackTree Recipe := {}

namespace Vocabulary

/-- The vocabulary with a phrase replaced by words. -/
def replace (phrase words : List String) (v : Vocabulary) : Vocabulary :=
  { v with replacements := v.replacements.insert phrase words }

/-- The vocabulary with a phrase made a command. -/
def command (phrase : List String) (r : Recipe) (v : Vocabulary) : Vocabulary :=
  { v with commands := v.commands.insert phrase r }

/-- The vocabulary with what the right side of a line says about a phrase. -/
def addRight (line : String) (phrase : List String) (tag : String) (args : List String) (v : Vocabulary) :
    Except MappingError Vocabulary :=
  if tag = "[shell]" then
    if args.isEmpty then .error (.missingCommand line) else .ok (v.command phrase (.shell args))
  else if tag = "[hotkey]" then
    .ok (v.command phrase (if args.isEmpty then .spokenHotkey else .hotkey args))
  else if tag = "[delay]" then
    match args with
    | [] => .ok (v.command phrase .spokenDelay)
    | [span] =>
      match Duration.parse? span with
      | some seconds => .ok (v.command phrase (.delay seconds))
      | none => .error (.badDuration line)
    | _ => .error (.extraDelay line)
  else .ok (v.replace phrase (tag :: args))

/-- The words on the two sides of a word-mapping line. -/
def splitLine (line : String) : Except MappingError (List String × List String) :=
  match Text.sides line with
  | .error .arrow => .error (.arrow line)
  | .error (.quoting e) => .error (.quoting e line)
  | .ok r => .ok r

/-- The vocabulary with one more line. -/
def addLine (line : String) (v : Vocabulary) : Except MappingError Vocabulary :=
  match splitLine line with
  | .error e => .error e
  | .ok ([], _) => .error (.emptySide line)
  | .ok (_, []) => .error (.emptySide line)
  | .ok (phrase, tag :: args) => v.addRight line phrase tag args

/-- The vocabulary with a row of lines, which have to be texts. -/
def addLines : List Json → Vocabulary → Except Fault Vocabulary
  | [], v => .ok v
  | line :: rest, v =>
    match line.text with
    | .error e => .error (.shape e)
    | .ok line =>
      match v.addLine line with
      | .error e => .error (.mapping e)
      | .ok v => addLines rest v

/-- The vocabulary with the lines of some mappings. -/
def addMappings (mappings : List (String × List Json)) : List String → Vocabulary → Except Fault Vocabulary
  | [], v => .ok v
  | id :: rest, v =>
    match mappings.lookup id with
    | none => .error (.mapping (.unknownId id))
    | some lines =>
      match addLines lines v with
      | .error e => .error e
      | .ok v => addMappings mappings rest v

/-- The vocabulary with the commands that every vocabulary has. -/
def addBuiltIn (v : Vocabulary) : Vocabulary :=
  (CaseStyle.all.foldl (fun v s => v.command [s.tag] (.style s)) v).command [replayTag] .replay

/-- The vocabulary of some mappings. -/
def build (mappings : List (String × List Json)) (ids : List String) (castNumbers joined typing : Bool) :
    Except Fault Vocabulary :=
  let start : Vocabulary :=
    { castNumbers, joined, typing, mappingIds := ids,
      commands := { fallback := if typing then some (.typing joined) else none } }
  (addMappings mappings ids start).map addBuiltIn

/-- The words with phrases replaced, from the left, the longest phrase first. What a phrase is replaced by
is not looked at again. -/
def mapWords (tree : PhraseTree (List String)) : List String → List String
  | [] => []
  | w :: rest =>
    match tree.scan (w :: rest) with
    | some (n, words) => words ++ mapWords tree (rest.drop (n - 1))
    | none => w :: mapWords tree rest
  termination_by words => words.length
  decreasing_by all_goals simp +arith [List.length_drop]

/-- The words of an utterance after numbers and replacements. -/
def mapped (v : Vocabulary) (text : String) : List String :=
  let words := Text.words text
  mapWords v.replacements (if v.castNumbers then SpokenNumber.replaceNumbers words else words)

/-- Whether typed words are a lone space. -/
def isSpace (words : List String) : Bool :=
  words == [" "]

/-- A command added to others, of which the last comes first. Typed words join the typed words before them,
unless either are a lone space. -/
def push (done : List Command) (c : Command) : List Command :=
  match done, c with
  | .typing ws joined :: earlier, .typing ws' _ =>
    if isSpace ws || isSpace ws' then c :: done else .typing (ws ++ ws') joined :: earlier
  | _, _ => c :: done

/-- What comes of compiling words: the commands, the spoken errors that were passed over, and the failure
that ended it, if one did. -/
structure Compiled where
  commands : List Command := []
  dropped : List SpokenError := []
  fault : Option Fault := none

/-- The commands of a row of words, added to `done`, of which the last comes first. A command phrase whose
further words do not fit is passed over and its further words are read again. -/
def compileFrom (v : Vocabulary) (last : String) (done : List Command) (dropped : List SpokenError) :
    List String → Compiled
  | [] => { commands := done.reverse, dropped := dropped.reverse }
  | w :: rest =>
    match v.commands.tree.scan (w :: rest) with
    | some (n, recipe) =>
      let after := rest.drop (n - 1)
      match recipe.make last after with
      | .ok (used, c) => compileFrom v last (push done c) dropped (after.drop used)
      | .error (.spoken e) => compileFrom v last done (e :: dropped) after
      | .error fault => { commands := done.reverse, dropped := dropped.reverse, fault := some fault }
    | none =>
      match v.commands.fallback with
      | some recipe =>
        match recipe.make last (w :: rest) with
        | .ok (_, c) => compileFrom v last (push done c) dropped rest
        | .error _ => compileFrom v last done dropped rest
      | none => compileFrom v last done dropped rest
  termination_by words => words.length
  decreasing_by all_goals simp +arith [List.length_drop]

/-- The commands of a row of words. -/
def compileWords (v : Vocabulary) (last : String) (words : List String) : Compiled :=
  v.compileFrom last [] [] words

/-- The commands of an utterance, and what is spoken last after it. An utterance that asks for a replay is
not itself what a replay speaks. -/
def compile (v : Vocabulary) (last text : String) : Compiled × String :=
  let words := v.mapped text
  let last := if words.contains replayTag then last else text
  (v.compileWords last words, last)

end Vocabulary

end PadScribe
