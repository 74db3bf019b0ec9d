import CockpitHud.Proofs.Boot.Timeline
import CockpitHud.Proofs.Ship.Footprint

namespace CockpitHud.Boot

variable {found : Findings} {progress : Progress} {ship : Ship} {ticked : TickResult}

/-- Two of the steps touch the ship: one loads the settings and styles the display, the other
greets. -/
theorem Step.run_ship (found : Findings) (ship : Ship) (step : Step) :
    (step.run found ship).ship =
      match step with
      | .readSettings => (found.display.map fun d => ship.styled d.id).getD ship.loadSettings.2
      | .greet => { ship with echoes := ship.echoes ++ greeting found }
      | _ => ship := by
  cases step with
  | findDisplay => simp only [run]; split <;> rfl
  | readSettings => simp only [run]; split <;> simp_all [Ship.styled]
  | pickController => simp only [run]; split <;> rfl
  | greet => rw [run, foldl_echo]
  | recallToggles | listControllers | listThrusters | listTanks | copyGroups => rfl

/-- Only the search for the display changes which display is known. -/
theorem Step.run_display {step : Step} (h : step ≠ .findDisplay) (found : Findings) (ship : Ship) :
    (step.run found ship).found.display = found.display := by
  cases step with
  | findDisplay => contradiction
  | readSettings => simp only [run]; split <;> simp_all
  | pickController => simp only [run]; split <;> rfl
  | recallToggles | listControllers | listThrusters | listTanks | copyGroups | greet => rfl

@[simp] theorem greeting_length (found : Findings) : (greeting found).length = 6 := rfl

namespace Progress

/-- The step that a call runs, if it is a frame and a step is left. -/
def dueStep? (progress : Progress) : Option Step :=
  if frameLength ≤ progress.waited + 1 then progress.pendingStep? else none

def stepped (progress : Progress) (ship : Ship) : Ship :=
  (progress.dueStep?.map fun step => (step.run progress.found ship).ship).getD ship

def displayAfter (progress : Progress) (ship : Ship) : Option DisplayIdentity :=
  (progress.dueStep?.map fun step => (step.run progress.found ship).found.display).getD
    progress.found.display

theorem drawFrame_cases (progress : Progress) (ship : Ship) :
    progress.drawFrame ship = ship ∨ ∃ display text, progress.found.display = some display ∧
      progress.drawFrame ship = ship.writeDisplay display.id text := by
  unfold drawFrame
  split
  · rename_i display hdisplay
    exact .inr ⟨display, _, hdisplay, rfl⟩
  · exact .inl rfl

/-- Behind its step a call draws a frame on the display, or nothing. -/
theorem Ticked.drawn (h : Ticked progress ship ticked) :
    ticked.progress.found.display = progress.displayAfter ship ∧
      (ticked.ship = progress.stepped ship ∨
        ∃ display text, ticked.progress.found.display = some display ∧
          ticked.ship = (progress.stepped ship).writeDisplay display.id text) := by
  unfold stepped displayAfter dueStep?
  cases h with
  | wait early =>
    rw [if_neg (Nat.not_le.mpr early)]
    exact ⟨rfl, .inl rfl⟩
  | idle due none_left =>
    rw [if_pos due, none_left]
    exact ⟨rfl, drawFrame_cases _ ship⟩
  | fail due step error next failed =>
    rw [if_pos due, next]
    exact ⟨rfl, .inl rfl⟩
  | advance due step next succeeded =>
    rw [if_pos due, next]
    exact ⟨rfl, drawFrame_cases _ (step.run progress.found ship).ship⟩

/-- What the step of a call does to the ship, and which display is known then. -/
theorem stepped_cases (progress : Progress) (ship : Ship) :
    (progress.dueStep? = some .readSettings ∧
      progress.displayAfter ship = progress.found.display ∧
      progress.stepped ship =
        (progress.found.display.map fun d => ship.styled d.id).getD ship.loadSettings.2) ∨
    (progress.dueStep? = some .greet ∧
      progress.stepped ship = { ship with echoes := ship.echoes ++ greeting progress.found }) ∨
    (progress.dueStep? ≠ some .readSettings ∧ progress.dueStep? ≠ some .greet ∧
      progress.stepped ship = ship) := by
  unfold stepped displayAfter
  cases hdue : progress.dueStep? with
  | none => exact .inr (.inr ⟨nofun, nofun, rfl⟩)
  | some step =>
    have hship := step.run_ship progress.found ship
    cases step with
    | readSettings =>
      have hother : Step.readSettings ≠ .findDisplay := by decide
      exact .inl ⟨rfl, Step.run_display hother progress.found ship, hship⟩
    | greet => exact .inr (.inl ⟨rfl, hship⟩)
    | findDisplay | recallToggles | listControllers | pickController | listThrusters | listTanks
    | copyGroups => exact .inr (.inr ⟨by decide, by decide, hship⟩)

/-- All that a call of a boot does to the ship, when it knows a display afterwards. -/
structure Marks (progress : Progress) (chosen : Option DisplayIdentity) (before after : Ship) :
    Prop where
  confined : Ship.Confined (chosen.map (·.id)) before after
  notes : after.notes = before.notes
  styles : progress.dueStep? ≠ some .readSettings → after.styles = before.styles
  settingsText : after.settingsText =
    if progress.dueStep? = some .readSettings then before.loadSettings.2.settingsText
    else before.settingsText
  echoes : after.echoes = before.echoes ++
    if progress.dueStep? = some .greet then greeting progress.found else []

theorem stepped_marks (progress : Progress) (ship : Ship) :
    Marks progress (progress.displayAfter ship) ship (progress.stepped ship) := by
  obtain ⟨hdue, hdisplay, hship⟩ | ⟨hdue, hship⟩ | ⟨hread, hgreet, hship⟩ :=
    progress.stepped_cases ship
  · have hechoes : ship.loadSettings.2.echoes = ship.echoes := by rw [Ship.loadSettings_frame]
    rw [hdisplay, hship]
    -- the step comes after the search, so that there is a display to style, but nothing hangs on it
    cases progress.found.display with
    | none =>
      exact ⟨ship.loadSettings_confined _, ship.notes_loadSettings, fun h => absurd hdue h,
        by rw [if_pos hdue]; rfl, by simp [hdue, hechoes]⟩
    | some display =>
      have hstyled : (ship.styled display.id).echoes = ship.echoes := hechoes
      exact ⟨ship.styled_confined display.id, ship.notes_styled display.id,
        fun h => absurd hdue h, by rw [if_pos hdue]; rfl, by simp [hdue, hstyled]⟩
  · rw [hship]
    have hsame :
        Ship.SameBlocks ship { ship with echoes := ship.echoes ++ greeting progress.found } :=
      ⟨rfl, rfl, rfl, rfl, rfl, rfl⟩
    exact ⟨hsame.confined rfl, rfl, fun _ => rfl, by simp [hdue], by simp [hdue]⟩
  · rw [hship]
    exact ⟨.refl _ ship, rfl, fun _ => rfl, by rw [if_neg hread], by simp [hgreet]⟩

/-- The step of a call and the frame that it draws leave no mark on the ship but these. -/
theorem Ticked.marks (h : Ticked progress ship ticked) :
    Marks progress ticked.progress.found.display ship ticked.ship := by
  have hstepped := progress.stepped_marks ship
  obtain ⟨hdisplay, hship | ⟨display, text, hchosen, hship⟩⟩ := h.drawn
  · rw [hdisplay, hship]
    exact hstepped
  · have hwritten := (progress.stepped ship).writeDisplay_confined display.id text
    rw [← hdisplay, hchosen] at hstepped
    rw [hchosen, hship]
    refine ⟨hstepped.confined.trans hwritten, ?_, ?_, hstepped.settingsText, hstepped.echoes⟩
    · rw [Ship.notes_writeDisplay, hstepped.notes]
    · intro hother
      rw [Ship.styles_writeDisplay, hstepped.styles hother]

/-- A step that fails is none of those that touch the ship. -/
theorem Ticked.due_of_error {calls : Nat} (h : Ticked progress ship ticked)
    (hon : progress.OnTime calls 0) {error : Error} (herror : ticked.result = .error error) :
    progress.dueStep? ≠ some .readSettings ∧ progress.dueStep? ≠ some .greet := by
  unfold dueStep?
  split
  · obtain ⟨_, ⟨hnext, _⟩ | ⟨hnext, _⟩⟩ := h.error_cases hon herror <;> simp [hnext]
  · simp

/-- In a boot on time, each step has a call of its own. -/
theorem OnTime.dueStep?_eq_some_iff {calls : Nat} (h : progress.OnTime calls 0) (step : Step) :
    progress.dueStep? = some step ↔ calls + 1 = frameLength * (Step.all.idxOf step + 1) := by
  have hdue := h.due_iff
  have hnext := h.pendingStep?_eq_some_iff step
  unfold dueStep?
  split
  · rename_i hframe
    rw [hnext]
    have hlast := hdue.mp hframe
    unfold frameLength at *
    omega
  · rename_i hframe
    have hother : ¬ frameLength ∣ calls + 1 := mt hdue.mpr hframe
    simp only [reduceCtorEq, false_iff]
    rintro hcall
    exact hother ⟨_, hcall⟩

end Progress

end CockpitHud.Boot
