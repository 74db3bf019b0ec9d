import CockpitHud.Proofs.Boot.Step

namespace CockpitHud.Boot

/-- Frames that the message at a place of the sequence is shown; a place past the last message
lasts one frame. -/
def duration (place : Nat) : Nat :=
  ((messages[place]?).map (·.frames)).getD 1

/-- Frames that have been shown when a place is reached. -/
def framesBefore : Nat → Nat
  | 0 => 0
  | place + 1 => framesBefore place + duration place

theorem messages_inRange (place : Nat) :
    messages[min place (messages.length - 1)]? = some (messageAt place) := by
  have hlt : min place (messages.length - 1) < messages.length :=
    Nat.lt_of_le_of_lt (Nat.min_le_right _ _) (by decide)
  rw [messageAt, List.getElem?_eq_getElem hlt, Option.getD_some]

theorem messageAt_frames (place : Nat) : (messageAt place).frames = duration place := by
  by_cases h : place < messages.length
  · have hshown : ∀ i < messages.length, (messageAt i).frames = duration i := by decide
    exact hshown place h
  · have hpast : messages.length ≤ place := Nat.le_of_not_lt h
    have hlast : min place (messages.length - 1) = messages.length - 1 := by omega
    rw [messageAt, hlast, duration, List.getElem?_eq_none hpast]
    rfl

theorem duration_pos (place : Nat) : 0 < duration place := by
  by_cases h : place < messages.length
  · have hshown : ∀ i < messages.length, 0 < duration i := by decide
    exact hshown place h
  · rw [duration, List.getElem?_eq_none (Nat.le_of_not_lt h)]
    exact Nat.one_pos

theorem framesBefore_mono {place later : Nat} (h : place ≤ later) :
    framesBefore place ≤ framesBefore later := by
  induction h with
  | refl => exact Nat.le_refl _
  | step _ ih => exact Nat.le_trans ih (Nat.le_add_right _ _)

namespace Position

structure After (position : Position) (frames : Nat) : Prop where
  shown : framesBefore position.step + position.frame = frames
  frame_lt : position.frame < duration position.step

theorem After.advance {position : Position} {frames : Nat} (h : position.After frames) :
    position.advance.After (frames + 1) := by
  obtain ⟨hshown, hlt⟩ := h
  unfold Position.advance
  rw [messageAt_frames]
  split
  · refine ⟨?_, duration_pos _⟩
    change framesBefore position.step + duration position.step + 0 = frames + 1
    omega
  · refine ⟨?_, by assumption |> Nat.lt_of_not_le⟩
    change framesBefore position.step + (position.frame + 1) = frames + 1
    omega

/-- The place is the last one that the frames reach. -/
theorem After.le_step_iff {position : Position} {frames : Nat} (h : position.After frames)
    (place : Nat) : place ≤ position.step ↔ framesBefore place ≤ frames := by
  obtain ⟨hshown, hlt⟩ := h
  constructor
  · intro hle
    have hmono := framesBefore_mono hle
    omega
  · intro hframes
    by_contra hpast
    have hmono : framesBefore position.step + duration position.step ≤ framesBefore place :=
      framesBefore_mono (Nat.lt_of_not_le hpast)
    omega

/-- The animation takes 22 frames. -/
theorem After.isOver_iff {position : Position} {frames : Nat} (h : position.After frames) :
    position.isOver = true ↔ 22 ≤ frames := by
  have hlast : framesBefore (messages.length + trailingFrames) = 22 := by decide
  rw [isOver, decide_eq_true_iff, h.le_step_iff, hlast]

end Position

namespace Progress

variable {progress : Progress} {ship : Ship} {ticked : TickResult} {calls failed : Nat}

/-- The progress of a boot when a number of calls has been made, of which some have failed. -/
structure OnTime (progress : Progress) (calls failed : Nat) : Prop where
  failed_le : failed ≤ calls / frameLength
  waited : progress.waited = calls % frameLength
  completed : progress.completed = min (calls / frameLength - failed) Step.all.length
  position : progress.position.After (calls / frameLength - failed)
  display : 0 < progress.completed → progress.found.display.isSome
  controller : 4 < progress.completed → progress.found.controller.isSome

theorem start_onTime : OnTime {} 0 0 :=
  ⟨Nat.le_refl _, rfl, rfl, ⟨rfl, by decide⟩, nofun, nofun⟩

theorem OnTime.pendingStep?_eq_some_iff (h : progress.OnTime calls failed) (step : Step) :
    progress.pendingStep? = some step ↔ calls / frameLength - failed = Step.all.idxOf step := by
  have hplace : Step.all.idxOf step < Step.all.length := List.idxOf_lt_length_of_mem step.mem_all
  rw [pendingStep?, Step.getElem?_all_eq_some_iff, h.completed]
  omega

/-- Without failures every step has a call of its own. -/
theorem OnTime.call_of_pending (h : progress.OnTime calls 0) (hframe : frameLength ∣ calls + 1)
    {step : Step} (hnext : progress.pendingStep? = some step) :
    calls + 1 = frameLength * (Step.all.idxOf step + 1) := by
  have hplace := (h.pendingStep?_eq_some_iff step).mp hnext
  unfold frameLength at *
  omega

theorem OnTime.due_iff (h : progress.OnTime calls failed) :
    frameLength ≤ progress.waited + 1 ↔ frameLength ∣ calls + 1 := by
  rw [h.waited]
  unfold frameLength
  omega

theorem OnTime.due (h : progress.OnTime calls failed) (due : frameLength ≤ progress.waited + 1) :
    (calls + 1) / frameLength = calls / frameLength + 1 ∧ (calls + 1) % frameLength = 0 := by
  rw [h.waited] at due
  unfold frameLength at *
  omega

theorem OnTime.not_due (h : progress.OnTime calls failed)
    (early : progress.waited + 1 < frameLength) :
    (calls + 1) / frameLength = calls / frameLength ∧
      (calls + 1) % frameLength = progress.waited + 1 := by
  rw [h.waited] at early ⊢
  unfold frameLength at *
  omega

/-- The settings are not read before the display is found. -/
theorem OnTime.ne_readSettings (h : progress.OnTime calls failed) {step : Step} {error : Error}
    (next : progress.pendingStep? = some step)
    (hfailed : (step.run progress.found ship).error = some error) : step ≠ .readSettings := by
  rintro rfl
  have hcompleted : progress.completed = 1 := Step.getElem?_all_eq_some_iff.mp next
  have hdisplay : progress.found.display.isSome := h.display (by omega)
  have hran : (Step.readSettings.run progress.found ship).error = none :=
    Step.run_error_eq_none_iff.mpr ⟨nofun, fun _ => hdisplay, nofun⟩
  rw [hran] at hfailed
  contradiction

theorem completed_ne {step other : Step} (next : progress.pendingStep? = some step)
    (hother : step ≠ other) : progress.completed ≠ Step.all.idxOf other := by
  intro hplace
  have hpending : progress.pendingStep? = some other := Step.getElem?_all_eq_some_iff.mpr hplace
  exact hother (Option.some.inj (next.symm.trans hpending))

/-- The display is found by the first step, and no later one forgets it. -/
theorem OnTime.display_run (h : progress.OnTime calls failed) {step : Step}
    (next : progress.pendingStep? = some step)
    (succeeded : (step.run progress.found ship).error = none) :
    (step.run progress.found ship).found.display.isSome := by
  rw [Step.run_found succeeded, Step.learn_display]
  split
  · rename_i hstep
    exact (Step.run_error_eq_none_iff.mp succeeded).1 hstep
  · rename_i hother
    have hne : progress.completed ≠ 0 := completed_ne next hother
    exact h.display (Nat.pos_of_ne_zero hne)

/-- The controller is picked by the fifth step, and no later one forgets it. -/
theorem OnTime.controller_run (h : progress.OnTime calls failed) {step : Step}
    (next : progress.pendingStep? = some step)
    (succeeded : (step.run progress.found ship).error = none) (hlate : 4 ≤ progress.completed) :
    (step.run progress.found ship).found.controller.isSome := by
  rw [Step.run_found succeeded, Step.learn_controller]
  split
  · rename_i hstep
    exact (Step.run_error_eq_none_iff.mp succeeded).2.2 hstep
  · rename_i hother
    have hne : progress.completed ≠ 4 := completed_ne next hother
    exact h.controller (Nat.lt_of_le_of_ne hlate hne.symm)

theorem animate_done_iff (progress : Progress) (ship : Ship) :
    (progress.animate ship).result = .ok .done ↔
      (progress.animate ship).progress.position.isOver = true ∧
        (progress.animate ship).progress.completed = Step.all.length := by
  change _ ↔ progress.position.advance.isOver = true ∧ progress.completed = Step.all.length
  cases h : progress.position.advance.isOver <;> simp [animate, h]

theorem OnTime.over_iff (h : progress.OnTime calls failed) :
    progress.position.isOver = true ∧ progress.completed = Step.all.length ↔
      22 ≤ calls / frameLength - failed := by
  have hall : Step.all.length = 9 := rfl
  rw [h.position.isOver_iff, h.completed]
  omega

/-- The counters move on together at every call. -/
theorem Ticked.onTime (h : Ticked progress ship ticked) (hon : progress.OnTime calls failed) :
    ticked.progress.OnTime (calls + 1) (failed + if ticked.result.isOk then 0 else 1) := by
  have hle := hon.failed_le
  have hcompleted := hon.completed
  cases h with
  | wait early =>
    obtain ⟨hframes, hrest⟩ := hon.not_due early
    refine ⟨?_, hrest.symm, ?_, ?_, hon.display, hon.controller⟩
    · rw [hframes]
      exact hle
    · rw [hframes]
      exact hcompleted
    · rw [hframes]
      exact hon.position
  | idle due none_left =>
    obtain ⟨hframes, hrest⟩ := hon.due due
    have hall : Step.all.length ≤ progress.completed := List.getElem?_eq_none_iff.mp none_left
    refine ⟨?_, hrest.symm, ?_, ?_, hon.display, hon.controller⟩
    · change failed ≤ _
      omega
    · change progress.completed = min ((calls + 1) / frameLength - failed) _
      omega
    · change progress.position.advance.After ((calls + 1) / frameLength - failed)
      rw [hframes, Nat.sub_add_comm hle]
      exact hon.position.advance
  | fail due step error next hfailed =>
    obtain ⟨hframes, hrest⟩ := hon.due due
    have hlack := Step.run_of_lack hfailed (hon.ne_readSettings next hfailed)
    have hsame : (calls + 1) / frameLength - (failed + 1) = calls / frameLength - failed := by
      omega
    rw [hlack]
    -- a failed frame is one more frame and one more failure, so that nothing else moves
    refine ⟨?_, hrest.symm, ?_, ?_, hon.display, hon.controller⟩
    · change failed + 1 ≤ _
      omega
    · change progress.completed = min ((calls + 1) / frameLength - (failed + 1)) _
      rw [hsame, hcompleted]
    · change progress.position.After ((calls + 1) / frameLength - (failed + 1))
      rw [hsame]
      exact hon.position
  | advance due step next succeeded =>
    obtain ⟨hframes, hrest⟩ := hon.due due
    have hplace := (hon.pendingStep?_eq_some_iff step).mp next
    have hlt : Step.all.idxOf step < Step.all.length := List.idxOf_lt_length_of_mem step.mem_all
    refine ⟨?_, hrest.symm, ?_, ?_, ?_, ?_⟩
    · change failed ≤ _
      omega
    · change progress.completed + 1 = min ((calls + 1) / frameLength - failed) _
      omega
    · change progress.position.advance.After ((calls + 1) / frameLength - failed)
      rw [hframes, Nat.sub_add_comm hle]
      exact hon.position.advance
    · exact fun _ => hon.display_run next succeeded
    · exact fun hmore => hon.controller_run next succeeded (Nat.le_of_lt_succ hmore)

/-- The boot is over with the twenty-second frame that has not failed. -/
theorem Ticked.done_iff (h : Ticked progress ship ticked) (hon : progress.OnTime calls failed) :
    ticked.result = .ok .done ↔ frameLength ∣ calls + 1 ∧ ticked.result.isOk = true ∧
      22 ≤ (calls + 1) / frameLength - failed := by
  have hnow := h.onTime hon
  cases h with
  | wait early =>
    have hdue := hon.due_iff
    constructor
    · intro hdone
      cases hdone
    · rintro ⟨hframe, _⟩
      have hlate := hdue.mpr hframe
      omega
  | idle due none_left =>
    rw [animate_done_iff, hnow.over_iff]
    exact ⟨fun h => ⟨hon.due_iff.mp due, rfl, h⟩, fun h => h.2.2⟩
  | fail due step error next hfailed =>
    constructor
    · intro hdone
      contradiction
    · rintro ⟨_, hok, _⟩
      contradiction
  | advance due step next succeeded =>
    rw [animate_done_iff, hnow.over_iff]
    exact ⟨fun h => ⟨hon.due_iff.mp due, rfl, h⟩, fun h => h.2.2⟩

/-- A call fails in a frame that looks for the display or picks the controller, or not at all. -/
theorem Ticked.error_cases (h : Ticked progress ship ticked) (hon : progress.OnTime calls failed)
    {error : Error} (herror : ticked.result = .error error) :
    frameLength ∣ calls + 1 ∧
      (progress.pendingStep? = some .findDisplay ∧ error = .noDisplay ∨
        progress.pendingStep? = some .pickController ∧ error = .noController) := by
  cases h with
  | wait early => contradiction
  | idle due none_left => contradiction
  | advance due step next succeeded => contradiction
  | fail due step reason next hfailed =>
    cases herror
    refine ⟨hon.due_iff.mp due, ?_⟩
    have hother := hon.ne_readSettings next hfailed
    obtain ⟨rfl, rfl, _⟩ | ⟨hstep, _, _⟩ | ⟨rfl, rfl, _⟩ := Step.run_error_iff.mp hfailed
    · exact .inl ⟨next, rfl⟩
    · contradiction
    · exact .inr ⟨next, rfl⟩

/-- A call that fails starts a new wait, and apart from this leaves all as it was. -/
theorem Ticked.eq_of_error (h : Ticked progress ship ticked) (hon : progress.OnTime calls failed)
    {error : Error} (herror : ticked.result = .error error) :
    ticked = ⟨.error error, { progress with waited := 0 }, ship⟩ := by
  cases h with
  | wait early => contradiction
  | idle due none_left => contradiction
  | advance due step next succeeded => contradiction
  | fail due step reason next hfailed =>
    cases herror
    rw [Step.run_of_lack hfailed (hon.ne_readSettings next hfailed)]

/-- A step that fails leaves the ship as it was. -/
theorem Ticked.ship_of_error (h : Ticked progress ship ticked) (hon : progress.OnTime calls failed)
    {error : Error} (herror : ticked.result = .error error) : ticked.ship = ship := by
  rw [h.eq_of_error hon herror]

/-- A call fails only if it is a frame whose step does. -/
theorem Ticked.isOk_iff (h : Ticked progress ship ticked) :
    ticked.result.isOk = true ↔ (frameLength ≤ progress.waited + 1 → ∀ step,
      progress.pendingStep? = some step → (step.run progress.found ship).error = none) := by
  cases h with
  | wait early => exact ⟨fun _ due => absurd early (Nat.not_lt.mpr due), fun _ => rfl⟩
  | idle due none_left =>
    refine ⟨fun _ _ step next => ?_, fun _ => rfl⟩
    rw [none_left] at next
    contradiction
  | fail due step error next failed =>
    refine ⟨fun hok => ?_, fun hran => ?_⟩
    · contradiction
    · rw [hran due step next] at failed
      contradiction
  | advance due step next succeeded =>
    refine ⟨fun _ _ other hother => ?_, fun _ => rfl⟩
    rw [← Option.some.inj (next.symm.trans hother)]
    exact succeeded

def after (ships : Nat → Ship) : Nat → Progress
  | 0 => {}
  | calls + 1 => ((after ships calls).tick (ships (calls + 1))).progress

def next (ships : Nat → Ship) (calls : Nat) : TickResult :=
  (after ships calls).tick (ships (calls + 1))

/-- The number of calls that have failed. -/
def failures (ships : Nat → Ship) : Nat → Nat
  | 0 => 0
  | calls + 1 => failures ships calls + if (next ships calls).result.isOk then 0 else 1

/-- Every boot keeps to the schedule, whatever ships its calls find. -/
theorem after_onTime (ships : Nat → Ship) (calls : Nat) :
    (after ships calls).OnTime calls (failures ships calls) := by
  induction calls with
  | zero => exact start_onTime
  | succ calls ih => exact (tick_ticked _ (ships (calls + 1))).onTime ih

theorem onTime_of_none {ships : Nat → Ship} (h : failures ships calls = 0) :
    (after ships calls).OnTime calls 0 :=
  h ▸ after_onTime ships calls

theorem next_ticked (ships : Nat → Ship) (calls : Nat) :
    Ticked (after ships calls) (ships (calls + 1)) (next ships calls) :=
  tick_ticked _ _

/-- With a display and a controller there is something to hand over. -/
theorem finish_isOk (hdisplay : progress.found.display.isSome)
    (hcontroller : progress.found.controller.isSome) : ∃ hud, progress.finish = .ok hud := by
  obtain ⟨display, hdisplay⟩ := Option.isSome_iff_exists.mp hdisplay
  obtain ⟨controller, hcontroller⟩ := Option.isSome_iff_exists.mp hcontroller
  simp [finish, hdisplay, hcontroller]

/-- What the number of calls and of failures tells of a boot, whatever ships the calls found. -/
structure Timeline (ships : Nat → Ship) (calls : Nat) : Prop where
  failures_le : failures ships calls ≤ calls / 5
  waited : (after ships calls).waited = calls % 5
  /-- The first steps have run, nine at most, and none is looked up past the last. -/
  stepsRun : (after ships calls).stepsRun =
    Step.all.take (min (calls / 5 - failures ships calls) 9)
  completed_le : (after ships calls).completed ≤ Step.all.length
  /-- The place in the sequence of messages is the last one that the frames reach. -/
  place : framesBefore (after ships calls).position.step ≤ calls / 5 - failures ships calls
  last_place : ∀ place, framesBefore place ≤ calls / 5 - failures ships calls →
    place ≤ (after ships calls).position.step
  frame : (after ships calls).position.frame =
    calls / 5 - failures ships calls - framesBefore (after ships calls).position.step
  message : messages[min (after ships calls).position.step (messages.length - 1)]? =
    some (messageAt (after ships calls).position.step)
  done_iff : (next ships calls).result = .ok .done ↔ 5 ∣ calls + 1 ∧
    (next ships calls).result.isOk = true ∧ 22 ≤ (calls + 1) / 5 - failures ships (calls + 1)
  error_cases : ∀ error, (next ships calls).result = .error error → 5 ∣ calls + 1 ∧
    ((after ships calls).pendingStep? = some .findDisplay ∧ error = .noDisplay ∨
      (after ships calls).pendingStep? = some .pickController ∧ error = .noController)
  /-- What a boot that is over hands over is complete. -/
  finish_isOk : 22 ≤ calls / 5 - failures ships calls →
    ∃ hud, (after ships calls).finish = .ok hud

/-- The numbers of calls and of failures tell all about the course of a boot. -/
theorem boot_timeline (ships : Nat → Ship) (calls : Nat) : Timeline ships calls := by
  have hon := after_onTime ships calls
  have hticked := next_ticked ships calls
  have hall : Step.all.length = 9 := rfl
  have hcompleted := hon.completed
  refine ⟨hon.failed_le, hon.waited, ?_, ?_, ?_, ?_, ?_, messages_inRange _, ?_, ?_, ?_⟩
  · rw [stepsRun, hcompleted]
    rfl
  · omega
  · exact (hon.position.le_step_iff _).mp (Nat.le_refl _)
  · exact fun place => (hon.position.le_step_iff place).mpr
  · have hshown := hon.position.shown
    unfold frameLength at hshown
    omega
  · rw [hticked.done_iff hon]
    cases hok : (next ships calls).result.isOk with
    | false => simp
    | true => simp [failures, hok, frameLength]
  · exact fun error => hticked.error_cases hon
  · intro hover
    unfold frameLength at hcompleted
    exact finish_isOk (hon.display (by omega)) (hon.controller (by omega))

end Progress

end CockpitHud.Boot
