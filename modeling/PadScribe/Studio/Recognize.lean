import PadScribe.Studio.Dispatch

/-!
# `Studio.Recognize` — recognizers

A speech mode dials its recognizer when it is entered and the line is down, and pushes its phrases either
way. Results come in at any time and are put off as spoken inputs. Audio reaches the recognizer only while
the mode is open. What fails is reported in a warning that is put off; a mode that stands alone, outside a
studio, reports nothing and hears nothing.

## Contents

* `recognizerAt`, `ask` — one recognizer and what is asked of it
* `SpeechLine.connect`, `SpeechLine.flush`, `SpeechLine.feed` — a mode's line
* `hear` — a result
-/

namespace PadScribe

/-- The recognizer of a number. -/
def recognizerAt (i : Nat) : Step Recognizer := do
  match (← get).recognizers[i]? with
  | some r => return r
  | none => throw (.unknownRecognizer i)

/-- Changes the recognizer of a number. -/
def updateRecognizer (i : Nat) (f : Recognizer → Recognizer) : Step Unit :=
  modify fun s => { s with recognizers := s.recognizers.modify i f }

/-- Fails where a part of a recognizer fails. -/
def tryPart (i : Nat) (part : RecognizerPart) : Step Unit := do
  if (← recognizerAt i).failing.contains part then throw (.outside (part.name ++ " failed"))

/-- Asks a recognizer for something, and notes whether it is connected afterwards. -/
def ask (i : Nat) (part : RecognizerPart) (call : RecognizerCall) (alive : Option Bool := none) : Step Unit := do
  tryPart i part
  updateRecognizer i fun r => { r with alive := alive.getD r.alive }
  emit (.recognizer i call)

/-- Puts off a warning about a mode's recognizer, unless the mode stands alone. -/
def report (alone : Bool) (mode what : String) (fault : Fault) : Step Unit :=
  if alone then pure ()
  else submit (.alert ("speech mode " ++ mode) (what ++ ": " ++ fault.message))

namespace SpeechLine

/-- Dials the recognizer if the line is down, then pushes the phrases. -/
def dialAndPush (line : SpeechLine) (i : Nat) : Step Unit := do
  tryPart i .isAlive
  if !(← recognizerAt i).alive then
    ask i .close .close (some false)
    updateRecognizer i fun r => { r with heard := true }
    ask i .dial (.dial line.host) (some true)
  ask i .phrases (.phrases line.phrases)

/-- Connects the recognizer of a mode. -/
def connect (line : SpeechLine) (alone : Bool) (mode : String) : Step Unit :=
  match line.recognizer with
  | none => pure ()
  | some i => tryCatch (line.dialAndPush i) (report alone mode "failed to connect recognizer")

/-- Asks the recognizer of a mode for its pending result. -/
def flush (line : SpeechLine) (alone : Bool) (mode : String) : Step Unit :=
  match line.recognizer with
  | none => pure ()
  | some i => tryCatch (ask i .flush .flush) (report alone mode "failed to flush recognizer")

/-- Sends audio to the recognizer of a mode, unless the mode is paused. -/
def feed (line : SpeechLine) (alone : Bool) (mode audio : String) : Step Unit :=
  match line.recognizer with
  | none => pure ()
  | some i =>
    if line.paused then pure ()
    else tryCatch (ask i .send (.send audio)) (report alone mode "failed to send audio")

end SpeechLine

/-- A result of a recognizer, which somebody has to listen to. An empty one says nothing. -/
def hear (i : Nat) (text : String) : Step Unit := do
  if !(← recognizerAt i).heard then throw (.unheardRecognizer i)
  if text != "" then submit (.deliver (.spoken text))

end PadScribe
