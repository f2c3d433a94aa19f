import PadScribe.Proofs.Handling

/-!
# `Proofs.Work` — what queued work is made of

The work that waits in the queues, apart from the inputs that it hands on, is made of a few primitive steps: it
notes milestones, asks the desk and the recognizers, and puts off texts that were said. So a property of steps that
these have, and that runs in a row and caught failures keep, is one of every piece of work. The walk through the
program is made once here, for every such property.

## Contents

* `SpeechLine.Asks`, `WorkLicence` — what work may do
* `WorkClass` — properties that work is closed under
* `WorkClass.connect`, `WorkClass.flush`, `WorkClass.perform`, `WorkClass.run`, `WorkClass.hear` — every piece
  of work
* `leaves_work` — what work leaves alone
-/

namespace PadScribe

/-- A speech line asks recognizers of a kind only. -/
def SpeechLine.Asks (known : Nat → Prop) (line : SpeechLine) : Prop :=
  ∀ i, line.recognizer = some i → known i

/-- What work may do. -/
structure WorkLicence where
  /-- The recognizers that it may ask. -/
  known : Nat → Prop
  /-- The commands that it may run. -/
  utters : Command → Prop
  /-- The work that may turn something on or off. -/
  turns : Task → Prop

/-- Work that may do everything, but asks recognizers of a kind only. -/
def WorkLicence.asking (known : Nat → Prop) : WorkLicence where
  known := known
  utters _ := True
  turns _ := True

/-- **A property of steps that work is closed under**, where it keeps to its licence. -/
structure WorkClass (desk : Desk) (P : ∀ {α : Type}, Step α → Studio → Prop) (l : WorkLicence) : Prop
    extends StepClass P where
  note (e : Effect) (s : Studio) : e.isNote = true → P (emit e) s
  alert (title text : String) (s : Studio) : P (submit (.alert title text)) s
  /-- What a recognizer has heard is put off. -/
  heard (text : String) (s : Studio) : text ≠ "" → P (submit (.deliver (.spoken text))) s
  replay (text : String) (s : Studio) : text ≠ "" → l.utters (.replay text) → P (submit (.replay text)) s
  move (dx dy : Int) (s : Studio) : P (respond (desk.pointer (.move dx dy))) s
  notice (q : Notice) (s : Studio) : P (respond (desk.notifier q)) s
  write (text : String) (s : Studio) : P (respond (desk.keyboard (.typeText text))) s
  tap (keys : List String) (s : Studio) : keys ≠ [] → l.utters (.hotkey keys) →
    P (respond (desk.keyboard (.tap (keys.map Key.normalize)))) s
  turn (t : Task) (s : Studio) : t.Turns → l.turns t → P (t.run desk) s
  recognizerAt (i : Nat) (s : Studio) : l.known i → P (recognizerAt i) s
  updateRecognizer (i : Nat) (f : Recognizer → Recognizer) (s : Studio) : l.known i →
    P (updateRecognizer i f) s

namespace WorkClass

variable {P : ∀ {α : Type}, Step α → Studio → Prop} {l : WorkLicence} {desk : Desk}

/-! ## Recognizers -/

theorem tryPart (h : WorkClass desk P l) {i : Nat} (hi : l.known i) (part : RecognizerPart) (s : Studio) :
    P (tryPart i part) s := by
  unfold PadScribe.tryPart
  apply h.bind (h.recognizerAt i s hi)
  intro r t _
  split
  · exact h.throw _ t
  · exact h.pure _ t

theorem ask (h : WorkClass desk P l) {i : Nat} (hi : l.known i) (part : RecognizerPart) (call : RecognizerCall)
    (alive : Option Bool) (s : Studio) : P (ask i part call alive) s := by
  unfold PadScribe.ask
  apply h.bind (h.tryPart hi part s)
  intro _ t _
  exact h.bind (h.updateRecognizer i _ t hi) fun _ u _ => h.note _ u rfl

theorem dialAndPush (h : WorkClass desk P l) (line : SpeechLine) {i : Nat} (hi : l.known i) (s : Studio) :
    P (line.dialAndPush i) s := by
  unfold SpeechLine.dialAndPush
  apply h.bind (h.tryPart hi .isAlive s)
  intro _ t _
  apply h.bind (h.recognizerAt i t hi)
  intro r u _
  split
  · apply h.bind (h.ask hi .close .close (some false) u)
    intro _ v _
    apply h.bind (h.updateRecognizer i _ v hi)
    intro _ w _
    exact h.bind (h.ask hi .dial _ (some true) w) fun _ x _ => h.ask hi .phrases _ none x
  · exact h.ask hi .phrases _ none u

theorem report (h : WorkClass desk P l) (alone : Bool) (mode what : String) (fault : Fault) (s : Studio) :
    P (report alone mode what fault) s := by
  unfold PadScribe.report
  split
  · exact h.pure _ s
  · exact h.alert _ _ s

/-- The work of connecting a recognizer. -/
theorem connect (h : WorkClass desk P l) {line : SpeechLine} (hl : line.Asks l.known) (alone : Bool)
    (mode : String) (s : Studio) : P (line.connect alone mode) s := by
  unfold SpeechLine.connect
  split
  · exact h.pure _ s
  · rename_i i hi
    exact h.tryCatch (h.dialAndPush line (hl i hi) s) fun e t _ => h.report alone mode _ e t

/-- The work of asking a recognizer for its pending result. -/
theorem flush (h : WorkClass desk P l) {line : SpeechLine} (hl : line.Asks l.known) (alone : Bool)
    (mode : String) (s : Studio) : P (line.flush alone mode) s := by
  unfold SpeechLine.flush
  split
  · exact h.pure _ s
  · rename_i i hi
    exact h.tryCatch (h.ask (hl i hi) .flush .flush none s) fun e t _ => h.report alone mode _ e t

/-- A result of a recognizer. -/
theorem hear (h : WorkClass desk P l) {i : Nat} (hi : l.known i) (text : String) (s : Studio) :
    P (hear i text) s := by
  unfold PadScribe.hear
  apply h.bind (h.recognizerAt i s hi)
  intro r t _
  have hput : P (if text != "" then submit (.deliver (.spoken text)) else pure ()) t := by
    split
    · rename_i ht
      exact h.heard text t (by simpa using ht)
    · exact h.pure _ t
  by_cases hr : r.heard = true
  · simpa [hr] using hput
  · simp only [hr, Bool.not_false, if_true]
    exact h.bind (h.throw _ t) fun _ _ hthrow => absurd hthrow (by simp)

/-! ## Utterances -/

theorem tapKeys (h : WorkClass desk P l) {keys : List String} (hk : l.utters (.hotkey keys)) (s : Studio) :
    P (tapKeys desk keys) s := by
  unfold PadScribe.tapKeys
  split
  · exact h.pure _ s
  · rename_i hne
    exact h.tap keys s (by simpa using hne) hk

theorem runShell (h : WorkClass desk P l) (command : List String) (s : Studio) :
    P (runShell desk command) s := by
  unfold PadScribe.runShell
  apply h.bind (h.note _ s rfl)
  intro _ t _
  simp only []
  split
  · exact h.notice _ t
  · split
    · exact h.pure _ t
    · exact h.notice _ t

theorem typeText (h : WorkClass desk P l) (text : String) (s : Studio) : P (typeText desk text) s := by
  unfold PadScribe.typeText
  split
  · exact h.pure _ s
  · exact h.write text s

/-- **The commands of an utterance.** -/
theorem perform (h : WorkClass desk P l) {commands : List Command} (hc : ∀ c ∈ commands, l.utters c)
    (pending : List CaseStyle) (s : Studio) : P (perform desk pending commands) s := by
  induction commands generalizing pending s with
  | nil => exact h.pure _ s
  | cons c rest ih =>
      have hsaid : l.utters c := hc c List.mem_cons_self
      have hrest : ∀ pending t, P (PadScribe.perform desk pending rest) t :=
        ih fun c hmem => hc c (List.mem_cons_of_mem _ hmem)
      cases c with
      | style style => exact hrest _ s
      | typing words joined =>
          simp only [PadScribe.perform]
          split
          · exact h.bind (h.typeText _ s) fun _ t _ => hrest _ t
          · exact hrest _ s
      | hotkey keys => exact h.bind (h.tapKeys hsaid s) fun _ t _ => hrest _ t
      | delay seconds => exact h.bind (h.note _ s rfl) fun _ t _ => hrest _ t
      | shell command => exact h.bind (h.runShell command s) fun _ t _ => hrest _ t
      | replay text =>
          simp only [PadScribe.perform]
          split
          · rename_i ht
            have htext : text ≠ "" := by simpa using ht
            exact h.bind (h.replay text s htext hsaid) fun _ t _ => hrest _ t
          · exact hrest _ s

/-! ## Short work -/

/-- **Short work that hands on no input.** -/
theorem run (h : WorkClass desk P l) {t : Task} (hi : t.input? = none)
    (hl : ∀ line, t.line? = some line → line.Asks l.known) (ht : t.Turns → l.turns t) (s : Studio) :
    P (t.run desk) s := by
  cases t with
  | move dx dy => exact h.move dx dy s
  | toggle button down => exact h.turn _ s trivial (ht trivial)
  | gyro d on => exact h.turn _ s trivial (ht trivial)
  | notify title text icon => exact h.notice _ s
  | alert title text => exact h.notice _ s
  | deliver inp => exact absurd hi (by simp [Task.input?])
  | replay text => exact absurd hi (by simp [Task.input?])
  | connect mode line => exact h.connect (hl line rfl) false mode s
  | flush mode line => exact h.flush (hl line rfl) false mode s

/-- Noting what fails at the head of a queue. -/
theorem recordFailure (h : WorkClass desk P l) {x : Step Unit} {s : Studio} (hx : P x s) :
    P (recordFailure x) s :=
  h.tryCatch hx fun _ t _ => h.note _ t rfl

end WorkClass

/-! ## What work leaves alone -/

/-- **Work leaves alone** whatever depends neither on the record, nor on the queue of short work, nor on the
recognizers. -/
theorem leaves_work {β : Type} (desk : Desk) (f : Studio → β) (record : ∀ s es, f { s with record := es } = f s)
    (pool : ∀ s ts, f { s with pool := ts } = f s) (recognizers : ∀ s rs, f { s with recognizers := rs } = f s) :
    WorkClass desk (fun x s => f (after x s) = f s) (.asking fun _ => True) :=
  have hrespond (r : Response) (s : Studio) : f (after (respond r) s) = f s := by
    rw [after_respond]
    exact record s _
  { stepClass_of_rel (R := fun s t => f t = f s) (fun _ => rfl) fun h h' => h'.trans h with
    note := fun _ s _ => record s _
    alert := fun _ _ s => pool s _
    heard := fun _ s _ => pool s _
    replay := fun _ s _ _ => pool s _
    move := fun _ _ s => hrespond _ s
    notice := fun _ s => hrespond _ s
    write := fun _ s => hrespond _ s
    tap := fun _ s _ _ => hrespond _ s
    turn := by
      intro t s ht _
      cases t with
      | gyro d on =>
          show f (after (switchGyro d on) s) = f s
          rw [after_switchGyro]
          exact record s _
      | toggle button down => exact hrespond _ s
      | _ => exact ht.elim
    recognizerAt := fun i s _ => congrArg f (recognizerAt_still i s)
    updateRecognizer := fun _ _ s _ => recognizers s _ }

end PadScribe
