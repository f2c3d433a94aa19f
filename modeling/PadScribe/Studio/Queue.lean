import PadScribe.Studio.Recognize

/-!
# `Studio.Queue` — work put off

Both queues run in the order in which they were filled. Settling runs the short work until none is left,
then the utterances until none is left, and so on until both queues are empty or the limit on the number of
pieces is reached; then what is left is dropped. A piece that fails is recorded and the next one runs.

## Contents

* `perform` — the commands of an utterance
* `Task.run`, `Task.runAlone` — short work
* `Queue`, `runHead` — the head of a queue
* `settle` — everything
-/

namespace PadScribe

section
variable (desk : Desk)

/-- The text that typed words make in some styles, applied in order. -/
def typedText (styles : List CaseStyle) (words : List String) (joined : Bool) : String :=
  String.intercalate (if joined then "" else " ") (styles.foldl (fun ws s => s.apply ws) words)

/-- Runs a program and warns when it ends badly. -/
def runShell (command : List String) : Step Unit := do
  emit (.shell command)
  let shown := String.intercalate " " command
  match desk.shell command with
  | .failed reason => respond (desk.notifier (.alert "shell failed" (shown ++ ": " ++ reason)))
  | .exited code =>
    if code = 0 then return
    else respond (desk.notifier (.alert "shell failed" (shown ++ " exited with " ++ toString code)))

/-- Types a text; an empty one types nothing. -/
def typeText (text : String) : Step Unit :=
  if text = "" then pure () else respond (desk.keyboard (.typeText text))

/-- Runs the commands of an utterance. Styles wait for the next typed words. -/
def perform (pending : List CaseStyle) : List Command → Step Unit
  | [] => pure ()
  | .style s :: rest => perform (pending ++ [s]) rest
  | .typing words joined :: rest => do
    if !words.isEmpty then typeText desk (typedText pending words joined)
    perform [] rest
  | .hotkey keys :: rest => do
    tapKeys desk keys
    perform pending rest
  | .delay seconds :: rest => do
    emit (.sleep seconds)
    perform pending rest
  | .shell command :: rest => do
    runShell desk command
    perform pending rest
  | .replay text :: rest => do
    if text != "" then submit (.replay text)
    perform pending rest

/-- Switches the motion stream of a device. -/
def switchGyro (d : Device) (on : Bool) : Step Unit :=
  match d.gyroFailure with
  | none => emit (.gyro on)
  | some reason => throw (.outside reason)

/-- Does a piece of short work. -/
def Task.run : Task → Step Unit
  | move dx dy => respond (desk.pointer (.move dx dy))
  | toggle button down => respond (desk.pointer (.toggle button down))
  | gyro d on => switchGyro d on
  | notify title text icon => respond (desk.notifier (.notify title text icon))
  | alert title text => respond (desk.notifier (.alert title text))
  | deliver inp => handle desk inp
  | replay text => handle desk (.spoken text)
  | connect mode line => line.connect false mode
  | flush mode line => line.flush false mode

/-- Does the work of a mode that stands alone at once: its line to the recognizer is all there is. -/
def Task.runAlone : Task → Step Unit
  | connect mode line => line.connect true mode
  | flush mode line => line.flush true mode
  | _ => pure ()

/-- The two queues. -/
inductive Queue where
  | pool
  | speech
  deriving DecidableEq, Repr

/-- A step whose failure is recorded. -/
def recordFailure (step : Step Unit) : Step Unit :=
  tryCatch step fun fault => emit (.taskFailed fault)

/-- Takes the head off a queue and runs it. An empty queue stays as it is. -/
def runHead (q : Queue) : Step Unit := do
  let s ← get
  match q with
  | .pool =>
    match s.pool with
    | [] => return
    | t :: rest =>
      set { s with pool := rest }
      recordFailure (t.run desk)
  | .speech =>
    match s.speech with
    | [] => return
    | commands :: rest =>
      set { s with speech := rest }
      recordFailure (perform desk [] commands)

/-- The queue to run next: the one at hand until it is empty, then the other. -/
def nextQueue? (atHand : Queue) (s : Studio) : Option Queue :=
  match atHand, s.pool, s.speech with
  | _, [], [] => none
  | .pool, _ :: _, _ => some .pool
  | .pool, [], _ :: _ => some .speech
  | .speech, _, _ :: _ => some .speech
  | .speech, _ :: _, [] => some .pool

/-- Runs the queues, starting with the one at hand, up to a number of pieces. -/
def settleFrom (atHand : Queue) : Nat → Step Unit
  | 0 => do
    if (nextQueue? atHand (← get)).isSome then
      emit .limitReached
      modify fun s => { s with pool := [], speech := [] }
  | n + 1 => do
    match nextQueue? atHand (← get) with
    | none => return
    | some q =>
      runHead desk q
      settleFrom q n

/-- Runs both queues until they are empty, up to a number of pieces. -/
def settle (limit : Nat) : Step Unit :=
  settleFrom desk .pool limit

end

end PadScribe
