import Mathlib.Data.List.DropRight
import PadScribe.Proofs.Utterances

/-!
# `Proofs.Styling` — the styles that reach typed words

While the commands of an utterance run, styles wait for the next typed words. Nothing has to wait to say what comes
of that: the styles of typed words are those that stand between them and the typed words before them, and every
command does in its place what it does on its own. What stands in between neither takes styles nor uses them up, and
styles after the last typed words reach none.

## Contents

* `stylesSince`, `stylesSince_concat` — the styles that a place in a row of commands has
* `Command.run`, `perform_cons_run` — what a command does in some styles
* `perform_places`, `effectsOf_places` — every command in its place
* `perform_silent`, `perform_append` — styles that reach no words
* `perform_in_place` — a row of commands
-/

namespace PadScribe

/-! ## The styles of a place -/

namespace Command

/-- The style that a command asks for. -/
def style? : Command → Option CaseStyle
  | style s => some s
  | _ => none

/-- Whether a command types words. -/
def types : Command → Bool
  | typing _ _ => true
  | _ => false

/-- A command that types nothing adds its style, if it asks for one, to those that wait. -/
theorem waiting_silent {c : Command} (h : c.types = false) (pending : List CaseStyle) :
    c.waiting pending = pending ++ c.style?.toList := by
  cases c with
  | typing => exact absurd h (by simp [types])
  | _ => simp [waiting, style?]

end Command

/-- **The styles of the place after some commands**: those that were asked for since words were typed last. -/
def stylesSince (before : List Command) : List CaseStyle :=
  (before.rtakeWhile fun c => !c.types).filterMap Command.style?

theorem stylesSince_concat (before : List Command) (c : Command) :
    stylesSince (before ++ [c]) = c.waiting (stylesSince before) := by
  unfold stylesSince
  rw [List.rtakeWhile_concat]
  cases c with
  | typing => rfl
  | style => simp [Command.types, Command.style?, Command.waiting]
  | _ => simp [Command.types, Command.style?, Command.waiting]

/-- The styles that commands which type nothing add to those of the place before them. -/
theorem stylesSince_append (before : List Command) {between : List Command}
    (h : ∀ c ∈ between, c.types = false) :
    stylesSince (before ++ between) = stylesSince before ++ between.filterMap Command.style? := by
  induction between using List.reverseRecOn with
  | nil => simp
  | append_singleton between c ih =>
      have hbetween := ih fun d hd => h d (List.mem_append_left _ hd)
      have hc : c.types = false := h c (by simp)
      rw [← List.append_assoc, stylesSince_concat, hbetween, Command.waiting_silent hc, List.filterMap_append,
        List.append_assoc]
      cases c <;> rfl

/-! ## Commands in their places -/

variable {desk : Desk}

/-- **What a command does on its own**, where words are typed in some styles. -/
def Command.run (desk : Desk) (styles : List CaseStyle) : Command → Step Unit
  | style _ => pure ()
  | typing words joined => if words = [] then pure () else typeText desk (typedText styles words joined)
  | hotkey keys => tapKeys desk keys
  | delay seconds => emit (.sleep seconds)
  | shell command => runShell desk command
  | replay text => if text = "" then pure () else submit (.replay text)

/-- Only typed words take styles. -/
theorem Command.run_silent {c : Command} (h : c.types = false) (styles : List CaseStyle) :
    c.run desk styles = c.run desk [] := by
  cases c with
  | typing => exact absurd h (by simp [types])
  | _ => rfl

theorem Command.effects_silent {c : Command} (h : c.types = false) (styles : List CaseStyle) :
    c.effects desk styles = c.effects desk [] := by
  cases c with
  | typing => exact absurd h (by simp [types])
  | _ => rfl

/-- The first of some commands runs in the styles that wait, and the others run after it. -/
theorem perform_cons_run (pending : List CaseStyle) (c : Command) (rest : List Command) :
    perform desk pending (c :: rest) = c.run desk pending >>= fun _ => perform desk (c.waiting pending) rest := by
  cases c with
  | style s => rfl
  | typing words joined =>
      cases words with
      | nil => rfl
      | cons w ws => rfl
  | replay text =>
      by_cases h : text = ""
      · simp [perform, Command.run, Command.waiting, h]
      · simp [perform, Command.run, Command.waiting, h]
  | _ => rfl

/-- **Every command runs in its place**, in the styles that the place has. -/
theorem perform_places (before commands : List Command) :
    perform desk (stylesSince before) commands = forM (commands.zipIdx before.length) fun p =>
      p.1.run desk (stylesSince ((before ++ commands).take p.2)) := by
  induction commands generalizing before with
  | nil => rfl
  | cons c rest ih =>
      have hrest := ih (before ++ [c])
      rw [stylesSince_concat, List.length_append, List.append_assoc] at hrest
      rw [perform_cons_run, hrest, List.zipIdx_cons, List.forM_cons]
      simp

/-- Every command reaches the outside in its place, in the styles that the place has. -/
theorem effectsOf_places (before commands : List Command) :
    effectsOf desk (stylesSince before) commands = (commands.zipIdx before.length).flatMap fun p =>
      p.1.effects desk (stylesSince ((before ++ commands).take p.2)) := by
  induction commands generalizing before with
  | nil => rfl
  | cons c rest ih =>
      have hrest := ih (before ++ [c])
      rw [stylesSince_concat, List.length_append, List.append_assoc] at hrest
      rw [effectsOf, hrest, List.zipIdx_cons, List.flatMap_cons]
      simp

/-- Styles after which nothing is typed do nothing. -/
theorem perform_silent {tail : List Command} (h : ∀ c ∈ tail, c.types = false) (pending pending' : List CaseStyle) :
    perform desk pending tail = perform desk pending' (tail.filter (·.style?.isNone)) := by
  induction tail generalizing pending pending' with
  | nil => rfl
  | cons c rest ih =>
      have hrest := ih fun d hd => h d (List.mem_cons_of_mem _ hd)
      have hc : c.types = false := h c List.mem_cons_self
      cases c with
      | style s => exact hrest _ _
      | _ =>
          rw [List.filter_cons_of_pos rfl, perform_cons_run, perform_cons_run, Command.run_silent hc,
            Command.run_silent hc pending', hrest]

/-- **What follows some commands** may be replaced by what runs alike whatever styles wait. -/
theorem perform_append {after after' : List Command}
    (h : ∀ pending, perform desk pending after = perform desk pending after') (commands : List Command)
    (pending : List CaseStyle) :
    perform desk pending (commands ++ after) = perform desk pending (commands ++ after') := by
  induction commands generalizing pending with
  | nil => exact h pending
  | cons c rest ih =>
      rw [List.cons_append, List.cons_append, perform_cons_run, perform_cons_run, ih]

/-! ## A row of commands -/

/-- **Every command of a row does in its place what it does on its own**, one after another, and words are typed in
the styles of their place. At a desk that works the whole row is run, and reaches the outside as its commands do. The
styles of a place are those that were asked for since words were typed last, or since the start, in that order,
whatever else stands between; only typed words take them; and where nothing is typed any more, styles do nothing. -/
theorem perform_in_place (desk : Desk) (commands : List Command) :
    perform desk [] commands = (forM commands.zipIdx fun p => p.1.run desk (stylesSince (commands.take p.2))) ∧
    (desk.Works → ∀ s, perform desk [] commands s = .ok () { s with
      record := s.record ++ commands.zipIdx.flatMap fun p => p.1.effects desk (stylesSince (commands.take p.2))
      pool := s.pool ++ commands.flatMap Command.tasks }) ∧
    (∀ between : List Command, (∀ c ∈ between, c.types = false) →
      stylesSince between = between.filterMap Command.style? ∧ ∀ before words joined,
        stylesSince (before ++ .typing words joined :: between) = between.filterMap Command.style?) ∧
    (∀ c : Command, c.types = false → ∀ styles,
      c.run desk styles = c.run desk [] ∧ c.effects desk styles = c.effects desk []) ∧
    ∀ tail : List Command, (∀ c ∈ tail, c.types = false) →
      perform desk [] (commands ++ tail) = perform desk [] (commands ++ tail.filter (·.style?.isNone)) := by
  refine ⟨perform_places [] commands, fun hd s => ?_, fun between hsilent => ⟨?_, fun before words joined => ?_⟩,
    fun c hc styles => ⟨Command.run_silent hc styles, Command.effects_silent hc styles⟩,
    fun tail htail => perform_append (fun pending => perform_silent htail pending pending) commands []⟩
  · have hplaces : effectsOf desk [] commands = commands.zipIdx.flatMap fun p =>
        p.1.effects desk (stylesSince (commands.take p.2)) := effectsOf_places [] commands
    rw [perform_works hd, hplaces]
  · exact stylesSince_append [] hsilent
  · have htyped : stylesSince (before ++ [.typing words joined]) = [] := stylesSince_concat before _
    rw [← List.singleton_append, ← List.append_assoc, stylesSince_append _ hsilent, htyped, List.nil_append]

/-- Two styles wait, keys are tapped, words are typed and others after them, and a last style reaches none. -/
def styledRow : List Command :=
  [.style .camel, .hotkey ["a"], .style .title, .typing ["hello", "world"] true, .delay 1.0,
    .typing ["plain", "words"] false, .style .upper]

theorem perform_in_place_styled : Desk.quiet.Works ∧
    (∃ s, perform .quiet [] styledRow {} = .ok () s ∧
      s.record.map Effect.typed? = [none, some "HelloWorld", none, some "plain words"]) ∧
    stylesSince [.style .camel, .hotkey ["a"], .style .title] = [.camel, .title] ∧
    perform .quiet [] (styledRow ++ [.style .snake, .hotkey ["b"]])
      = perform .quiet [] (styledRow ++ [.hotkey ["b"]]) := by
  have hd : Desk.quiet.Works := plain_works _
  obtain ⟨-, hrun, hsince, -, htail⟩ := perform_in_place .quiet styledRow
  refine ⟨hd, ⟨_, hrun hd {}, by decide +kernel⟩, (hsince _ ?_).1, htail _ ?_⟩
  · simp [Command.types]
  · simp [Command.types]

end PadScribe
