import PadScribe.Proofs.Latching

/-!
# `Proofs.Quiet` — what leaves the buttons of the pointer alone

Only three things touch the row of grips, those that reached the pointer and those that wait: an input that
passes the switches of a mode, the gate, and the head of the queue, which moves a grip from the row that waits to
the row that reached the pointer. Every other row of moves is quiet (`Mark.quiet`). Spoken text passes switches
quietly, and so the heads of both queues leave the whole row of grips as it is.

## Contents

* `Mark.quiet`, `move_quiet`, `moves_quiet` — rows of moves that are quiet
* `moves_entrances`, `unmarked_keep` — the modes that a row of moves enters
* `Still`, `runHead_quiet` — the heads of the queues
* `handle_quiet` — spoken text
* `reload_grips`, `build_grips` — configurations
-/

namespace PadScribe

/-- The marks that leave the buttons of the pointer and the flag of the user alone. -/
def Mark.quiet : Mark → Prop
  | speakAgain _ => True
  | enter _ => True
  | pass inp => inp.kind = .speech
  | grip _ => False
  | flag => False
  | take => False

variable {desk : Desk} {s s' : Studio}

theorem grips_append (s : Studio) {es : List Effect} (h : es.filterMap Effect.grip? = []) :
    (s.record ++ es).filterMap Effect.grip? = s.grips := by
  rw [List.filterMap_append, h, List.append_nil]
  rfl

theorem waitingGrips_append (s : Studio) {ts : List Task} (h : ∀ t ∈ ts, t.grip? = none) :
    (s.pool ++ ts).filterMap Task.grip? = s.waitingGrips := by
  rw [List.filterMap_append, List.filterMap_eq_nil_iff.mpr h, List.append_nil]
  rfl

/-- A quiet move leaves both rows of grips as they are. -/
theorem move_quiet (hd : desk.Shows) (hr : Running s) (h : Move desk Mark.quiet s s') :
    s'.grips = s.grips ∧ s'.waitingGrips = s.waitingGrips := by
  cases h with
  | enter id _ _ => exact ⟨grips_append s rfl, rfl⟩
  | pass id mode inp _ found _ allowed =>
      -- spoken text gives the switches no work
      have hread := hr.switches mode (find_mem found)
      refine ⟨rfl, waitingGrips_append s fun t ht => ?_⟩
      rw [(passAll_spoken hread allowed).2] at ht
      exact absurd ht (by simp)
  | putOff ts plain => exact ⟨rfl, waitingGrips_append s fun t ht => (plain t ht).2⟩
  | speak text _ => exact ⟨rfl, waitingGrips_append s (by simp [Task.grip?])⟩
  | replayLast _ => exact ⟨rfl, waitingGrips_append s (by simp [Task.grip?])⟩
  | replaySaid text _ _ => exact ⟨rfl, waitingGrips_append s (by simp [Task.grip?])⟩
  | understand v text _ _ es plain _ _ =>
      exact ⟨grips_append s (List.filterMap_eq_nil_iff.mpr fun e he => (plain e he).2.2), rfl⟩
  | note e plain => exact ⟨grips_append s (by simp [plain.2.2]), rfl⟩
  | answer r answers => exact ⟨grips_append s (hd.plain r answers).1, rfl⟩
  | grip q g _ allowed => exact allowed.elim
  | hear text _ => exact ⟨rfl, waitingGrips_append s (by simp [Task.grip?])⟩
  | takeWork allowed => exact allowed.elim
  | _ => exact ⟨rfl, rfl⟩

/-- **A quiet row of moves** leaves both rows of grips as they are. -/
theorem moves_quiet (hd : desk.Shows) (hr : Running s) (h : Moves desk Mark.quiet s s') :
    s'.grips = s.grips ∧ s'.waitingGrips = s.waitingGrips := by
  induction h with
  | refl => exact ⟨rfl, rfl⟩
  | tail hrow hm ih =>
      obtain ⟨hg, hw⟩ := move_quiet hd (moves_running hrow hr) hm
      exact ⟨hg.trans ih.1, hw.trans ih.2⟩

theorem moves_quiet_allGrips (hd : desk.Shows) (hr : Running s) (h : Moves desk Mark.quiet s s') :
    s'.allGrips = s.allGrips := by
  obtain ⟨hg, hw⟩ := moves_quiet hd hr h
  unfold Studio.allGrips
  rw [hg, hw]

/-! ## Entered modes -/

theorem entrances_append (s : Studio) {es : List Effect} (h : es.filterMap Effect.entered? = []) :
    (s.record ++ es).filterMap Effect.entered? = s.entrances := by
  rw [List.filterMap_append, h, List.append_nil]
  rfl

/-- A move enters a mode only under the mark of it. -/
theorem move_entrances {may : Mark → Prop} (hd : desk.Shows) (h : Move desk may s s') :
    ∃ ids, s'.entrances = s.entrances ++ ids ∧ ∀ id ∈ ids, may (.enter id) := by
  have hsame : s'.entrances = s.entrances →
      ∃ ids, s'.entrances = s.entrances ++ ids ∧ ∀ id ∈ ids, may (.enter id) :=
    fun he => ⟨[], by rw [he, List.append_nil], by simp⟩
  cases h with
  | enter id _ allowed => exact ⟨[id], List.filterMap_append, by simpa using allowed⟩
  | understand v text _ _ es plain _ _ =>
      exact hsame (entrances_append s (List.filterMap_eq_nil_iff.mpr fun e he => (plain e he).2.1))
  | note e plain => exact hsame (entrances_append s (by simp [plain.2.1]))
  | answer r answers => exact hsame (entrances_append s (hd.plain r answers).2)
  | grip q g told _ => exact hsame (entrances_append s (hd.grip q g told).2)
  | _ => exact hsame rfl

theorem moves_entrances {may : Mark → Prop} (hd : desk.Shows) (h : Moves desk may s s') :
    ∃ ids, s'.entrances = s.entrances ++ ids ∧ ∀ id ∈ ids, may (.enter id) := by
  induction h with
  | refl => exact ⟨[], by simp, by simp⟩
  | tail _ hm ih =>
      obtain ⟨ids, he, hmay⟩ := ih
      obtain ⟨ids', he', hmay'⟩ := move_entrances hd hm
      refine ⟨ids ++ ids', by rw [he', he, List.append_assoc], fun id hid => ?_⟩
      exact (List.mem_append.mp hid).elim (hmay id) (hmay' id)

/-- Moves without marks leave modes and entered modes as they are. -/
theorem unmarked_keep (hd : desk.Shows) (h : Moves desk (fun _ => False) s s') :
    s'.manager.modes = s.manager.modes ∧ s'.entrances = s.entrances := by
  refine ⟨?_, ?_⟩
  · induction h with
    | refl => rfl
    | tail _ hm ih =>
        cases hm with
        | latch m _ _ _ modes => exact modes.trans ih
        | enter id _ allowed => exact allowed.elim
        | pass id mode inp _ _ _ allowed => exact allowed.elim
        | _ => exact ih
  · obtain ⟨ids, he, hno⟩ := moves_entrances hd h
    rw [he, List.eq_nil_iff_forall_not_mem.mpr hno, List.append_nil]

/-- **Spoken text** is handed to the modes quietly. -/
theorem handle_quiet (hr : Running s) {inp : Input} (h : inp.kind = .speech) :
    Moves desk Mark.quiet (handed inp s) (after (handle desk inp) s) :=
  handle_moves (fun _ => trivial) h hr.wired.nodup

/-! ## The heads of the queues -/

/-- Two states between which nothing happens to modes, flags, buttons and entered modes. -/
structure Still (s t : Studio) : Prop where
  manager : t.manager = s.manager
  enabled : t.control.enabled = s.control.enabled
  observed : t.observedEnabled = s.observedEnabled
  grips : t.allGrips = s.allGrips
  entrances : t.entrances = s.entrances

theorem still_refl (s : Studio) : Still s s := ⟨rfl, rfl, rfl, rfl, rfl⟩

theorem still_trans {t u : Studio} (h : Still s t) (h' : Still t u) : Still s u :=
  ⟨h'.manager.trans h.manager, h'.enabled.trans h.enabled, h'.observed.trans h.observed,
    h'.grips.trans h.grips, h'.entrances.trans h.entrances⟩

/-- Noting that the modes are handed an input. -/
theorem handed_still (inp : Input) (s : Studio) : Still s (handed inp s) := by
  refine ⟨rfl, rfl, rfl, ?_, ?_⟩
  · have hgrips : (s.record ++ [Effect.delivered inp]).filterMap Effect.grip? = s.grips := grips_append s rfl
    exact congrArg (· ++ s.waitingGrips) hgrips
  · exact (List.filterMap_append).trans (List.append_nil _)

/-- Work that is a grip presses or releases one button. -/
theorem eq_of_grip {t : Task} {g : Grip} (h : t.grip? = some g) :
    ∃ button down, t = .toggle button down ∧ g = .toggle button down := by
  cases t with
  | toggle button down => exact ⟨button, down, rfl, (Option.some.inj h).symm⟩
  | _ => exact absurd h (by simp [Task.grip?])

/-- A grip at the head of the queue moves on to the row that reached the pointer. -/
theorem toggle_still (hd : desk.Shows) {button : Option PointerButton} {down : Bool} {rest : List Task}
    (h : s.pool = .toggle button down :: rest) :
    Still s (after ((Task.toggle button down).run desk) { s with pool := rest }) := by
  obtain ⟨hg, he⟩ := hd.grip (.toggle button down) (.toggle button down) rfl
  have hrun : after ((Task.toggle button down).run desk) { s with pool := rest } =
      { s with pool := rest, record := s.record ++ (desk.pointer (.toggle button down)).effects } :=
    after_respond _ _
  rw [hrun]
  refine ⟨rfl, rfl, rfl, ?_, ?_⟩
  · unfold Studio.allGrips Studio.grips Studio.waitingGrips
    rw [List.filterMap_append, hg, h, List.append_assoc]
    rfl
  · unfold Studio.entrances
    rw [List.filterMap_append, he, List.append_nil]

/-- **The head of the short work** runs quietly, once a grip has reached the pointer. -/
theorem runHead_pool_quiet (hd : desk.Shows) (hr : Running s) :
    ∃ t, Still s t ∧ Running t ∧ Moves desk Mark.quiet t (after (runHead desk .pool) s) := by
  cases hq : s.pool with
  | nil =>
      rw [runHead_pool_empty hq]
      exact ⟨s, still_refl s, hr, .refl⟩
  | cons t rest =>
      rw [runHead_pool hq]
      have hrest : Running { s with pool := rest } :=
        running_of_manager hr rfl fun t ht => hq ▸ List.mem_cons_of_mem _ ht
      have hstill : t.grip? = none → Still s { s with pool := rest } := by
        intro hnone
        refine ⟨rfl, rfl, rfl, ?_, rfl⟩
        unfold Studio.allGrips Studio.waitingGrips
        rw [hq, List.filterMap_cons_none hnone]
        rfl
      cases hg : t.grip? with
      | some g =>
          obtain ⟨button, down, rfl, _⟩ := eq_of_grip hg
          have hmove : Moves desk (fun _ => True) { s with pool := rest }
              (after ((Task.toggle button down).run desk) { s with pool := rest }) :=
            work_moves rfl (fun _ _ => trivial) _
          exact ⟨_, toggle_still hd hq, moves_running hmove hrest, recordFailure_note _ _⟩
      | none =>
          cases hi : t.input? with
          | none =>
              refine ⟨_, hstill hg, hrest, recordFailure_moves (work_moves hi (fun g h => ?_) _)⟩
              exact absurd (hg.symm.trans h) (by simp)
          | some inp =>
              have hspoken : inp.kind = .speech := hr.spoken t (hq ▸ List.mem_cons_self) inp hi
              refine ⟨_, still_trans (hstill hg) (handed_still inp _), handed_running inp hrest, ?_⟩
              rw [work_handles hi]
              exact recordFailure_moves (handle_quiet hrest hspoken)

/-- **The head of a queue** runs quietly, once a grip at the head has reached the pointer. -/
theorem runHead_quiet (hd : desk.Shows) (hr : Running s) (q : Queue) :
    ∃ t, Still s t ∧ Running t ∧ Moves desk Mark.quiet t (after (runHead desk q) s) := by
  cases q with
  | pool => exact runHead_pool_quiet hd hr
  | speech =>
      cases hq : s.speech with
      | nil =>
          rw [runHead_speech_empty hq]
          exact ⟨s, still_refl s, hr, .refl⟩
      | cons commands rest =>
          rw [runHead_speech hq]
          have hrest : Running { s with speech := rest } := running_of_manager hr rfl (List.Subset.refl _)
          refine ⟨{ s with speech := rest }, ⟨rfl, rfl, rfl, rfl, rfl⟩, hrest, ?_⟩
          exact recordFailure_moves (perform_moves commands [] (fun _ _ _ => trivial) _)

/-! ## Configurations -/

/-- Installing modes leaves the row of grips and the gate as they are. -/
theorem reload_grips (cfg : Config) (s : Studio) :
    (after (reload cfg) s).allGrips = s.allGrips ∧
      (after (reload cfg) s).observedEnabled = s.observedEnabled := by
  rcases reload_cases cfg s with ⟨made, fault, h⟩ | ⟨made, modes, shifts, first, _, _, h⟩
  · rw [after_error h]
    exact ⟨rfl, rfl⟩
  · rw [after_ok h]
    refine ⟨?_, rfl⟩
    have hgrips : (s.record ++ [Effect.switched none first.id]).filterMap Effect.grip? = s.grips :=
      grips_append s rfl
    have hwait : (s.pool ++ (s.manager.exitTasks none ++ first.enterTasks none)).filterMap Task.grip?
        = s.waitingGrips := by
      refine waitingGrips_append s fun t ht => ?_
      rcases List.mem_append.mp ht with ht | ht
      · exact (exitTasks_plain t ht).2
      · exact (enterTasks_plain t ht).2
    rw [← List.append_assoc] at hwait
    exact congrArg₂ (· ++ ·) hgrips hwait

theorem build_grips {cfg : Config} {start : Studio} (h : Studio.build cfg start = .ok s) :
    s.allGrips = start.allGrips ∧ s.observedEnabled = start.observedEnabled := by
  rw [← after_ok (build_reload h)]
  exact reload_grips cfg start

end PadScribe
