import CockpitHud.Proofs.Boot.Choice
import CockpitHud.Proofs.Boot.Timeline
import CockpitHud.Ship.Build

namespace CockpitHud.Boot.Progress

variable {progress : Progress} {ship : Ship} {ticked : TickResult} {error : Error}
  {ships : Nat → Ship} {calls made waiting later : Nat}

/-- A call between two frames only waits. -/
theorem tick_of_early (h : progress.waited + 1 < frameLength) (ship : Ship) :
    progress.tick ship =
      ⟨.ok .booting, { progress with waited := progress.waited + 1 }, ship⟩ := by
  rw [tick, if_pos h]

theorem tick_of_due (h : frameLength ≤ progress.waited + 1) (ship : Ship) :
    progress.tick ship = { progress with waited := 0 }.runFrame ship := by
  rw [tick, if_neg (Nat.not_lt.mpr h)]

/-- Calls between two frames count, and do nothing else. -/
theorem after_of_waits (h : (after ships calls).waited = 0) (hwaiting : waiting < frameLength) :
    after ships (calls + waiting) = { after ships calls with waited := waiting } := by
  induction waiting with
  | zero =>
    change after ships calls = { after ships calls with waited := 0 }
    rw [← h]
  | succ waiting ih =>
    have hnow := ih (Nat.lt_of_succ_lt hwaiting)
    rw [← Nat.add_assoc, after, hnow]
    exact congrArg TickResult.progress (tick_of_early hwaiting _)

/-- After a call that fails only the wait for the next frame is not as it was. -/
theorem next_of_error (h : (next ships calls).result = .error error) :
    next ships calls =
      ⟨.error error, { after ships calls with waited := 0 }, ships (calls + 1)⟩ :=
  (next_ticked ships calls).eq_of_error (after_onTime ships calls) h

/-- After a failed call a boot only waits, up to the next frame. -/
theorem after_of_error (h : (next ships calls).result = .error error)
    (hwaiting : waiting < frameLength) :
    after ships (calls + 1 + waiting) = { after ships calls with waited := waiting } := by
  have hafter : after ships (calls + 1) = { after ships calls with waited := 0 } :=
    congrArg TickResult.progress (next_of_error h)
  rw [after_of_waits (by rw [hafter]) hwaiting, hafter]

/-- A frame looks for the display among those of its ship, and takes the first that is ours. -/
theorem tick_findDisplay (hdue : frameLength ≤ progress.waited + 1)
    (hnext : progress.pendingStep? = some .findDisplay) (ship : Ship) :
    match ship.displays.find? isOurDisplay with
    | none => (progress.tick ship).result = .error .noDisplay
    | some display => (progress.tick ship).result = .ok .booting ∧
        (progress.tick ship).progress.found.display = some display.toDisplayIdentity ∧
        (progress.tick ship).progress.stepsRun = [.findDisplay] := by
  have hnext' : { progress with waited := 0 }.pendingStep? = some .findDisplay := hnext
  have hcompleted : progress.completed = 0 := Step.getElem?_all_eq_some_iff.mp hnext
  rw [tick_of_due hdue, runFrame, hnext']
  cases hfind : ship.displays.find? isOurDisplay with
  | none => simp [Step.run, hfind]
  | some display =>
    simp [Step.run, hfind, animate, stepsRun, hcompleted, Step.all]

/-- The controller is to be chosen, and there is none to choose. -/
structure Stranded (progress : Progress) : Prop where
  pending : progress.pendingStep? = some .pickController
  candidates : progress.found.candidates = []

theorem Ticked.stranded (h : Ticked progress ship ticked)
    (herror : ticked.result = .error .noController) : progress.Stranded := by
  cases h with
  | wait early => contradiction
  | idle due none_left => contradiction
  | advance due step next succeeded => contradiction
  | fail due step reason next hfailed =>
    cases herror
    obtain ⟨_, hother, _⟩ | ⟨_, hother, _⟩ | ⟨rfl, _, hnone⟩ := Step.run_error_iff.mp hfailed
    · contradiction
    · contradiction
    · exact ⟨next, chooseController?_eq_none_iff.mp hnone⟩

/-- Every frame of such a boot fails, and no call changes anything but the wait. -/
theorem Stranded.tick (h : progress.Stranded) (hwaited : progress.waited = made % frameLength)
    (ship : Ship) :
    progress.tick ship = ⟨if frameLength ∣ made + 1 then .error .noController else .ok .booting,
      { progress with waited := (made + 1) % frameLength }, ship⟩ := by
  have hpending : { progress with waited := 0 }.pendingStep? = some .pickController := h.pending
  have hnone : chooseController? progress.found.candidates = none :=
    chooseController?_eq_none_iff.mpr h.candidates
  by_cases hframe : frameLength ∣ made + 1
  · have hdue : frameLength ≤ progress.waited + 1 := by
      unfold frameLength at *
      omega
    rw [tick_of_due hdue, runFrame, hpending, if_pos hframe, Nat.mod_eq_zero_of_dvd hframe]
    simp [Step.run, hnone]
  · have hearly : progress.waited + 1 < frameLength ∧
        (made + 1) % frameLength = progress.waited + 1 := by
      unfold frameLength at *
      omega
    rw [tick_of_early hearly.1, if_neg hframe, hearly.2]

theorem Stranded.after (h : (after ships calls).Stranded) (hlater : calls ≤ later) :
    after ships later = { after ships calls with waited := later % frameLength } := by
  induction hlater with
  | refl => rw [← (after_onTime ships calls).waited]
  | @step later hlater ih =>
    have hstill : (Progress.after ships later).Stranded := by
      rw [ih]
      exact ⟨h.pending, h.candidates⟩
    rw [Progress.after, hstill.tick (after_onTime ships later).waited, ih]

/-- A stranded boot fails at every frame, whatever the ship has by then. -/
theorem Stranded.next (h : (Progress.after ships calls).Stranded) (hlater : calls ≤ later) :
    next ships later = ⟨if frameLength ∣ later + 1 then .error .noController else .ok .booting,
      { Progress.after ships calls with waited := (later + 1) % frameLength },
      ships (later + 1)⟩ := by
  have hafter := h.after hlater
  have hstill : (Progress.after ships later).Stranded := by
    rw [hafter]
    exact ⟨h.pending, h.candidates⟩
  rw [Progress.next, hstill.tick (after_onTime ships later).waited, hafter]

/-- A call that fails leaves the ship as it was, and the boot but for the wait for the next frame,
in which the same step is tried again: the display is looked for among those of the ship as it is
then; and the choice among no controllers fails in every frame from now on, whatever becomes of the
ship. -/
theorem failed_call_is_atomic (ships : Nat → Ship) (calls : Nat) {error : Error}
    (h : (next ships calls).result = .error error) :
    let progress := after ships calls
    next ships calls = ⟨.error error, { progress with waited := 0 }, ships (calls + 1)⟩ ∧
      (∀ waiting < 4, next ships (calls + 1 + waiting) =
        ⟨.ok .booting, { progress with waited := waiting + 1 }, ships (calls + 2 + waiting)⟩) ∧
      ((error = .noDisplay ∧ progress.pendingStep? = some .findDisplay ∧
          match (ships (calls + 6)).displays.find? isOurDisplay with
          | none => (next ships (calls + 5)).result = .error .noDisplay
          | some display => (next ships (calls + 5)).result = .ok .booting ∧
              (next ships (calls + 5)).progress.found.display = some display.toDisplayIdentity ∧
              (next ships (calls + 5)).progress.stepsRun = [.findDisplay]) ∨
        (error = .noController ∧ progress.pendingStep? = some .pickController ∧
          progress.found.candidates = [] ∧
          ∀ later, calls ≤ later → next ships later =
            ⟨if 5 ∣ later + 1 then .error .noController else .ok .booting,
              { progress with waited := (later + 1) % 5 }, ships (later + 1)⟩)) := by
  intro progress
  have hticked := next_ticked ships calls
  refine ⟨next_of_error h, fun waiting hwaiting => ?_, ?_⟩
  · have hearly : waiting + 1 < frameLength := Nat.succ_lt_succ hwaiting
    have hship : calls + 1 + waiting + 1 = calls + 2 + waiting := by omega
    rw [next, after_of_error h (Nat.lt_of_succ_lt hearly), tick_of_early hearly, hship]
  · obtain ⟨hpending, rfl⟩ | ⟨hpending, rfl⟩ :=
      (hticked.error_cases (after_onTime ships calls) h).2
    · have hagain : next ships (calls + 5) =
          { progress with waited := 4 }.tick (ships (calls + 6)) := by
        rw [next, show calls + 5 = calls + 1 + 4 from rfl, after_of_error h (by decide)]
      have hstill : { progress with waited := 4 }.pendingStep? = some .findDisplay := hpending
      have hdue : frameLength ≤ { progress with waited := 4 }.waited + 1 := Nat.le_refl 5
      rw [hagain]
      exact .inl ⟨rfl, hpending, tick_findDisplay hdue hstill _⟩
    · have hstranded := hticked.stranded h
      exact .inr ⟨rfl, hpending, hstranded.candidates, fun later => hstranded.next⟩

def fitted (call : Nat) : Ship :=
  if call ≤ 5 then { Ship.sample with displays := [] }
  else if call ≤ 30 then { Ship.sample with controllers := [] }
  else Ship.sample

/-- The display comes in time for the second frame; the controllers come too late for any. -/
theorem failed_call_is_atomic_late :
    (next fitted 4).result = .error .noDisplay ∧ (next fitted 9).result = .ok .booting ∧
      (next fitted 29).result = .error .noController ∧
      (∃ controller, controller ∈ (fitted 35).controllers ∧ canSteer controller = true) ∧
      (next fitted 34).result = .error .noController ∧
      ∀ later, 34 ≤ later → (next fitted later).ship = fitted (later + 1) := by
  have hdisplay : (next fitted 4).result = .error .noDisplay := by decide +kernel
  have hcontroller : (next fitted 29).result = .error .noController := by decide +kernel
  obtain ⟨_, _, ⟨_, _, hretry⟩ | ⟨hother, _⟩⟩ := failed_call_is_atomic fitted 4 hdisplay
  · obtain ⟨_, _, ⟨hother, _⟩ | ⟨_, _, _, hstuck⟩⟩ := failed_call_is_atomic fitted 29 hcontroller
    · cases hother
    · refine ⟨hdisplay, hretry.1, hcontroller, ?_, ?_, fun later hlater => ?_⟩
      · exact ⟨_, List.mem_cons_self, rfl⟩
      · rw [hstuck 34 (by decide)]
        rfl
      · rw [hstuck later (by omega)]
  · cases hother

end CockpitHud.Boot.Progress
