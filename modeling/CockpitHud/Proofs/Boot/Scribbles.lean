import CockpitHud.Proofs.Boot.Discovery
import CockpitHud.Proofs.Ship.Blanked

namespace CockpitHud

namespace Boot

variable {found : Findings} {ship : Ship} {id : BlockId}

/-- Only one step leaves more on the ship than scribbles. -/
theorem Step.run_blanked {step : Step} (hran : (step.run found ship).error = none)
    (hid : ∀ display, found.display = some display → display.id = id) :
    (step.run found ship).ship.blanked id =
      if step = .readSettings then (ship.styled id).blanked id else ship.blanked id := by
  cases step with
  | findDisplay => simp only [run]; split <;> rfl
  | readSettings =>
    cases hdisplay : found.display with
    | none => simp [run, hdisplay] at hran
    | some display =>
      simp only [run, hdisplay, hid display hdisplay]
      rfl
  | pickController => simp only [run]; split <;> rfl
  | greet =>
    simp only [run, foldl_echo]
    rfl
  | recallToggles | listControllers | listThrusters | listTanks | copyGroups => rfl

namespace Progress

variable {progress : Progress} {ticked : TickResult} {ships : Nat → Ship} {calls : Nat}

/-- Drawing a frame only scribbles on the display that is known. -/
theorem animate_blanked (hid : ∀ display,
    (progress.animate ship).progress.found.display = some display → display.id = id) :
    (progress.animate ship).ship.blanked id = ship.blanked id := by
  change (progress.drawFrame ship).blanked id = ship.blanked id
  unfold drawFrame
  split
  · rename_i display hdisplay
    rw [hid display hdisplay]
    exact ship.blanked_writeDisplay id _
  · rfl

/-- What a call that does not fail leaves, apart from scribbles. -/
theorem Ticked.blanked (h : Ticked progress ship ticked) (hok : ticked.result.isOk = true)
    (hbefore : ∀ display, progress.found.display = some display → display.id = id)
    (hafter : ∀ display, ticked.progress.found.display = some display → display.id = id) :
    ticked.ship.blanked id =
      if frameLength ≤ progress.waited + 1 ∧ progress.pendingStep? = some .readSettings
      then (ship.styled id).blanked id else ship.blanked id := by
  cases h with
  | wait early => rw [if_neg fun h => absurd early (Nat.not_lt.mpr h.1)]
  | idle due none_left =>
    have hother : progress.pendingStep? ≠ some .readSettings := by
      rw [none_left]
      nofun
    rw [if_neg fun h => hother h.2]
    exact animate_blanked hafter
  | fail due step error next failed => contradiction
  | advance due step next succeeded =>
    rw [animate_blanked hafter, Step.run_blanked succeeded hbefore]
    by_cases hstep : step = .readSettings
    · rw [if_pos hstep, if_pos ⟨due, hstep ▸ next⟩]
    · rw [if_neg hstep, if_neg fun h => hstep (Option.some.inj (next.symm.trans h.2))]

/-- The display of call 5 is the one that a boot works with. -/
theorem after_display (hnone : failures ships calls = 0) :
    (after ships calls).found.display = if calls < 5 then none else displayOn? (ships 5) := by
  rw [after_found hnone]
  by_cases hearly : calls < 5
  · have hframes : calls / frameLength = 0 := Nat.div_eq_of_lt hearly
    rw [if_pos hearly, hframes]
    rfl
  · obtain ⟨frame, hframes⟩ : ∃ frame, calls / frameLength = frame + 1 := by
      refine ⟨calls / 5 - 1, ?_⟩
      unfold frameLength
      omega
    rw [if_neg hearly, hframes, foundBy_display]
    rfl

/-- The settings are loaded and the display is styled in call 10, and in no other. -/
theorem next_blanked (hnone : failures ships (calls + 1) = 0)
    (hid : ∀ display, displayOn? (ships 5) = some display → display.id = id) :
    (next ships calls).ship.blanked id =
      if calls + 1 = 10 then ((ships (calls + 1)).styled id).blanked id
      else (ships (calls + 1)).blanked id := by
  obtain ⟨hbefore, hok⟩ := failures_succ_eq_zero_iff.mp hnone
  have hon := onTime_of_none hbefore
  have hshown : ∀ made, failures ships made = 0 → ∀ display,
      (after ships made).found.display = some display → display.id = id := by
    intro made hmade display hdisplay
    rw [after_display hmade] at hdisplay
    split at hdisplay
    · contradiction
    · exact hid display hdisplay
  have htenth : (frameLength ≤ (after ships calls).waited + 1 ∧
      (after ships calls).pendingStep? = some .readSettings) ↔ calls + 1 = 10 := by
    have hplace : Step.all.idxOf .readSettings = 1 := rfl
    rw [hon.due_iff, hon.pendingStep?_eq_some_iff, hplace]
    unfold frameLength
    omega
  rw [(next_ticked ships calls).blanked hok (hshown calls hbefore) (hshown (calls + 1) hnone)]
  simp only [htenth]

/-- On a ship that is left to the boot, nothing has changed before call 11 but for scribbles, and
nothing changes after it. -/
theorem blanked_of_undisturbed (hnone : ∀ made, failures ships made = 0)
    (hid : ∀ display, displayOn? (ships 5) = some display → display.id = id)
    (hstart : (ships 1).blanked id = ship.blanked id)
    (hleft : ∀ made, made + 1 < 110 → ships (made + 2) = (next ships made).ship)
    (hcalls : calls < 110) :
    (ships (calls + 1)).blanked id =
      if calls < 10 then ship.blanked id else (ship.styled id).blanked id := by
  induction calls with
  | zero => exact hstart
  | succ calls ih =>
    have hbefore := ih (Nat.lt_of_succ_lt hcalls)
    rw [hleft calls hcalls, next_blanked (hnone (calls + 1)) hid]
    by_cases htenth : calls + 1 = 10
    -- the call that styles the ship finds it as it was at first, those after it find it styled
    · rw [if_pos (by omega)] at hbefore
      rw [if_pos htenth, if_neg (by omega), Ship.blanked_styled, hbefore, ← Ship.blanked_styled]
    · rw [if_neg htenth, hbefore]
      have hsame : calls < 10 ↔ calls + 1 < 10 := by omega
      simp only [hsame]

end Progress

end Boot

end CockpitHud
