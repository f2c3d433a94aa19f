import PadScribe.Proofs.Compiling
import PadScribe.Proofs.Overlooking

/-!
# `Proofs.Refusing` — configurations that are refused

A configuration that does not compile leaves everything as it was, except that recognizers may have been made for
its first blocks. They are added after those there were, and the modes and the work of a running program only have
numbers that were given before. So nothing that happens later meets the new recognizers, and the program runs on as
if the configuration had not been read.

## Contents

* `compileRules_numbered` — the numbers that a configuration gives
* `reload_numbered`, `run_numbered`, `run_more` — runs
* `refused_reload` — every run in which a configuration is refused
-/

namespace PadScribe

variable {desk : Desk} {n : Nat} {extra : List Recognizer} {s s' : Studio}

/-! ## Configurations -/

/-- The kind of a block's mode: its recognizer, if it has one, is the one that is made for it. -/
theorem kind_numbered {d : Declaration} {given : Bool} {made : Nat} {mode : Mode}
    (hd : ∀ line, d.kind = .speech line → line.recognizer = none)
    (hk : mode.kind = if given then Declaration.withRecognizer made d.kind else d.kind) :
    ∀ i, mode.recognizer? = some i → i < if given then made + 1 else made := by
  intro i hi
  unfold Mode.recognizer? at hi
  rw [hk] at hi
  cases hkind : d.kind with
  | speech line =>
      cases given with
      | true =>
          obtain rfl : made = i := by simpa [hkind, Declaration.withRecognizer] using hi
          exact Nat.lt_succ_self _
      | false => simp [hkind, hd line hkind] at hi
  | _ => cases given <;> simp [hkind, Declaration.withRecognizer] at hi

/-- The blocks of a configuration ask the recognizers that are made for them. -/
theorem blocks_numbered {cfg : Config} {recognizers : Bool} {made : Nat} {done modes : List Mode}
    {shifts shifts' : List Shift} {blocks : List ModeBlock}
    (hd : ∀ mode ∈ done, ∀ i, mode.recognizer? = some i → i < made)
    (h : Compile.blocks cfg recognizers made done shifts blocks = (n, .ok (modes, shifts'))) :
    made ≤ n ∧ ∀ mode ∈ modes, ∀ i, mode.recognizer? = some i → i < n := by
  induction blocks generalizing made done shifts with
  | nil =>
      obtain ⟨rfl, hr⟩ := Prod.mk.inj h
      obtain ⟨rfl, rfl⟩ := Prod.mk.inj (Except.ok.inj hr)
      exact ⟨Nat.le_refl _, hd⟩
  | cons block rest ih =>
      simp only [Compile.blocks] at h
      split at h
      · exact absurd (Prod.mk.inj h).2 (by simp)
      · rename_i d hdecl
        split at h
        · exact absurd (Prod.mk.inj h).2 (by simp)
        · rename_i start hstart
          split at h
          · exact absurd (Prod.mk.inj h).2 (by simp)
          · rename_i _ mode ks hrules
            have hmade : made ≤ if (recognizers && d.wantsRecognizer) = true then made + 1 else made := by
              split
              · exact Nat.le_succ _
              · exact Nat.le_refl _
            obtain ⟨id, _, _, rfl⟩ := startMode_ok_iff.mp hstart
            have hmode := kind_numbered (fun line hk => (readDeclaration_line hdecl hk).1) (addRules_kind hrules)
            have hdone : ∀ m ∈ done ++ [mode], ∀ i, m.recognizer? = some i →
                i < if (recognizers && d.wantsRecognizer) = true then made + 1 else made := by
              intro m hm i hi
              rcases List.mem_append.mp hm with hm | hm
              · exact Nat.lt_of_lt_of_le (hd m hm i hi) hmade
              · exact hmode i (List.mem_singleton.mp hm ▸ hi)
            obtain ⟨hle, hall⟩ := ih hdone h
            exact ⟨Nat.le_trans hmade hle, hall⟩

theorem compileRules_numbered {cfg : Config} {recognizers : Bool} {made : Nat} {modes : List Mode}
    {shifts : List Shift} (h : compileRules cfg recognizers made = (n, .ok (modes, shifts))) :
    made ≤ n ∧ ∀ mode ∈ modes, ∀ i, mode.recognizer? = some i → i < n := by
  unfold compileRules at h
  split at h
  · exact absurd (Prod.mk.inj h).2 (by simp)
  · exact blocks_numbered (fun mode hm => absurd hm (by simp)) h

/-- Numbers that were given stay numbers that were given. -/
theorem numbered_more (h : s.Numbered n) (fresh : List Recognizer) :
    (s.more fresh).Numbered (n + fresh.length) := by
  refine ⟨?_, fun mode hm i hi => ?_, fun t ht line hl i hi => ?_⟩
  · show (s.recognizers ++ fresh).length = n + fresh.length
    rw [List.length_append, h.count]
  · exact Nat.lt_add_right _ (h.manager mode hm i hi)
  · exact Nat.lt_add_right _ (h.pool t ht line hl i hi)

/-- The recognizers that a configuration makes are added after those there were. -/
theorem withRecognizers_eq (s : Studio) (made : Nat) :
    s.withRecognizers made
      = s.more (List.replicate (made - s.recognizers.length) { failing := s.failing }) := rfl

theorem installed_numbered {modes : List Mode} (shifts : List Shift) {first : Mode} (hf : first ∈ modes.head?)
    (hs : s.Numbered n) (hm : ∀ mode ∈ modes, ∀ i, mode.recognizer? = some i → i < n) :
    (s.installed modes shifts first).Numbered n := by
  have hfirst : first ∈ modes := List.mem_of_mem_head? hf
  refine ⟨hs.count, manager_numbered_enteredOf (m := Manager.fresh modes shifts first) hm first.id, ?_⟩
  refine pool_numbered_append (pool_numbered_append hs.pool (exitTasks_numbered hs.manager none)) ?_
  exact enterTasks_numbered (hm first hfirst) none

theorem reload_numbered (cfg : Config) (h : s.Numbered s.recognizers.length) :
    (after (reload cfg) s).Numbered (after (reload cfg) s).recognizers.length := by
  have hmade : ∀ made, (s.withRecognizers made).Numbered (s.withRecognizers made).recognizers.length := by
    intro made
    have hmore := numbered_more h (List.replicate (made - s.recognizers.length) { failing := s.failing })
    rw [← withRecognizers_eq] at hmore
    rwa [hmore.count]
  rcases reload_cases cfg s with ⟨made, fault, hr⟩ | ⟨made, modes, shifts, first, hf, hc, hr⟩
  · rw [after_error hr]
    exact hmade made
  · rw [after_ok hr]
    obtain ⟨hle, hmodes⟩ := compileRules_numbered hc
    have hcount : (s.withRecognizers made).recognizers.length = made := by
      rw [withRecognizers_eq]
      show (s.recognizers ++ List.replicate _ _).length = made
      rw [List.length_append, List.length_replicate]
      omega
    have hi := installed_numbered shifts hf (hmade made) (by rwa [hcount])
    exact ⟨rfl, hi.manager, hi.pool⟩

/-! ## Every run -/

theorem act_numbered (e : Event) (hw : Wired s) (h : s.Numbered s.recognizers.length) :
    (after (e.act desk) s).Numbered (after (e.act desk) s).recognizers.length := by
  have hknown : e.Known s.recognizers.length →
      (after (e.act desk) s).Numbered (after (e.act desk) s).recognizers.length := by
    intro he
    have hact : Overlooks s.recognizers.length [] (e.act desk) s := overlooks_act desk he hw
    obtain ⟨_, hn⟩ := hact h
    rwa [hn.count]
  cases e with
  | reload cfg => exact reload_numbered cfg h
  | result i text =>
      by_cases hi : i < s.recognizers.length
      · exact hknown hi
      · -- nobody listens to a recognizer that is not there
        have hnone : s.recognizers[i]? = none := List.getElem?_eq_none (Nat.le_of_not_lt hi)
        have hsame : after (hear i text) s = s := by
          unfold hear
          have hfail : recognizerAt i s = .error (.unknownRecognizer i) s := by
            unfold recognizerAt
            simp only [bind_apply, get_apply, hnone, throw_apply]
          exact after_bind_error hfail
        show (after (hear i text) s).Numbered (after (hear i text) s).recognizers.length
        rw [hsame]
        exact h
  | _ => exact hknown trivial

/-- **Every run keeps the numbers.** -/
theorem run_numbered (es : List Event) (hw : Wired s) (h : s.Numbered s.recognizers.length) :
    (run desk es s).Numbered (run desk es s).recognizers.length := by
  have hkeep : ∀ (e : Event) t, (Wired t ∧ t.Numbered t.recognizers.length) →
      Wired (after (e.act desk) t) ∧ (after (e.act desk) t).Numbered (after (e.act desk) t).recognizers.length :=
    fun e t ht => ⟨act_wired e ht.1, act_numbered e ht.1 ht.2⟩
  exact (afterAll_keep hkeep es ⟨hw, h⟩).2

theorem build_numbered {cfg : Config} {start : Studio} (hb : Studio.build cfg start = .ok s)
    (h : start.Numbered start.recognizers.length) : s.Numbered s.recognizers.length := by
  rw [← after_ok (build_reload hb)]
  exact reload_numbered cfg h

/-- A run of events that overlook more recognizers. -/
theorem run_more (desk : Desk) {es : List Event} (he : ∀ e ∈ es, e.Known n) (hw : Wired s) (h : s.Numbered n) :
    run desk es (s.more extra) = (run desk es s).more extra ∧ (run desk es s).Numbered n := by
  induction es generalizing s with
  | nil => exact ⟨rfl, h⟩
  | cons e rest ih =>
      obtain ⟨hmore, hn⟩ := overlooks_act desk (he e List.mem_cons_self) hw h
      have hstate : after (e.act desk) (s.more extra) = (after (e.act desk) s).more extra := by
        unfold after
        rw [hmore]
        cases e.act desk s <;> rfl
      have hrest := ih (fun e' h' => he e' (List.mem_cons_of_mem _ h')) (act_wired e hw) hn
      rw [← hstate] at hrest
      exact hrest

/-- **A configuration that is refused changes nothing.** In every run of the program, a configuration that is read
again and does not compile leaves the state as it was, except that recognizers may have been made, to which nobody
listens. And the program runs on as if the configuration had not been read: whatever events come later, apart from
further configurations and results of recognizers there were not, the state is the same with the new recognizers
in it, and so is the outcome of every event. -/
theorem refused_reload (desk : Desk) {cfg : Config} {start s : Studio} (hb : Studio.build cfg start = .ok s)
    (hn : start.Numbered start.recognizers.length) (es : List Event) {refused : Config} {fault : Fault}
    {s' : Studio} (h : reload refused (run desk es s) = .error fault s') :
    ∃ fresh : List Recognizer, (∀ r ∈ fresh, r = { failing := (run desk es s).failing }) ∧
      s' = (run desk es s).more fresh ∧
      ∀ later, (∀ e ∈ later, e.Known (run desk es s).recognizers.length) →
        run desk later s' = (run desk later (run desk es s)).more fresh ∧
        ∀ e : Event, e.Known (run desk es s).recognizers.length →
          e.act desk (run desk later s')
            = onState (Studio.more fresh) (e.act desk (run desk later (run desk es s))) := by
  have hnum : (run desk es s).Numbered (run desk es s).recognizers.length :=
    run_numbered es (build_wired hb) (build_numbered hb hn)
  have hwired : Wired (run desk es s) := run_wired es (build_wired hb)
  rcases reload_cases refused (run desk es s) with ⟨made, e, hr⟩ | ⟨made, modes, shifts, first, _, _, hr⟩
  · obtain ⟨_, rfl⟩ := EStateM.Result.error.inj (h.symm.trans hr)
    refine ⟨_, fun r hr => List.eq_of_mem_replicate hr, withRecognizers_eq _ made, fun later hlater => ?_⟩
    rw [withRecognizers_eq]
    obtain ⟨hmore, hkeep⟩ := run_more desk hlater hwired hnum
    refine ⟨hmore, fun e he => ?_⟩
    rw [hmore]
    exact (overlooks_act desk he (run_wired later hwired) hkeep).1
  · exact absurd (h.symm.trans hr) (by simp)

/-- A mode that types what its recognizer hears. -/
def dictation : Config :=
  { modes := [{ declaration := .str "[speech] -id a", rules := [.str "[trigger] speech -> [speech]"] }] }

/-- Two modes with recognizers, the second of which has a rule that does not compile. -/
def misspelled : Config :=
  { modes := [{ declaration := .str "[speech] -id a" },
      { declaration := .str "[speech] -id b", rules := [.str "[trigger] speach -> [speech]"] }] }

/-- Something is heard and typed. -/
def hearHello : List Event :=
  [.result 0 "hello", .work .pool, .work .speech]

theorem refused_reload_dictation : ∃ s s' fault, Studio.build dictation { hasRecognizers := true } = .ok s ∧
    Studio.Numbered 0 { hasRecognizers := true } ∧
    reload misspelled (run .quiet [.work .pool] s) = .error fault s' ∧
    s'.recognizers.length = (run .quiet [.work .pool] s).recognizers.length + 2 ∧
    ∃ fresh : List Recognizer, (∀ r ∈ fresh, r = { failing := (run .quiet [.work .pool] s).failing }) ∧
      s' = (run .quiet [.work .pool] s).more fresh ∧
      run .quiet hearHello s' = (run .quiet hearHello (run .quiet [.work .pool] s)).more fresh := by
  have h : (Studio.build dictation { hasRecognizers := true }).toOption.any (fun s =>
      (run .quiet [.work .pool] s).recognizers.length == 1 &&
      ((reload misspelled).run' (run .quiet [.work .pool] s)).isNone &&
      (after (reload misspelled) (run .quiet [.work .pool] s)).recognizers.length == 3) = true := by decide +kernel
  obtain ⟨s, hb, ht⟩ := exists_built h
  simp only [Bool.and_eq_true, beq_iff_eq, Option.isNone_iff_eq_none] at ht
  obtain ⟨⟨hone, hfails⟩, hthree⟩ := ht
  have hn : Studio.Numbered 0 { hasRecognizers := true } := ⟨rfl, by simp [Manager.Numbered], by simp⟩
  obtain ⟨fault, hr⟩ := exists_error hfails
  have hknown : ∀ e ∈ hearHello, e.Known (run .quiet [.work .pool] s).recognizers.length := by
    rw [hone]
    simp [hearHello, Event.Known]
  obtain ⟨fresh, hfresh, hs', hlater⟩ := refused_reload .quiet hb hn [.work .pool] hr
  refine ⟨s, _, fault, hb, hn, hr, ?_, fresh, hfresh, hs', (hlater hearHello hknown).1⟩
  rw [hthree, hone]

end PadScribe
