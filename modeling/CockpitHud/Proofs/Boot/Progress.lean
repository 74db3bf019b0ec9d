import CockpitHud.Boot.Progress
import CockpitHud.Proofs.Hud.Tick

namespace CockpitHud.Boot

variable {found : Findings} {progress : Progress} {ship : Ship} {ticked : TickResult}

theorem foldl_echo (lines : List String) (ship : Ship) :
    lines.foldl Ship.echo ship = { ship with echoes := ship.echoes ++ lines } := by
  induction lines generalizing ship with
  | nil => simp
  | cons line rest ih => simp [ih, Ship.echo]

/-- A step touches the displays, the settings text and the echoes, and nothing else. -/
theorem Step.run_frame (found : Findings) (ship : Ship) (step : Step) :
    (step.run found ship).ship = { ship with
      displays := (step.run found ship).ship.displays
      settingsText := (step.run found ship).ship.settingsText
      echoes := (step.run found ship).ship.echoes } := by
  cases step with
  | findDisplay => simp only [run]; split <;> rfl
  | readSettings =>
    simp only [run, Ship.loadSettings]
    split <;> split <;> rfl
  | pickController => simp only [run]; split <;> rfl
  | greet => rw [run, foldl_echo]
  | recallToggles | listControllers | listThrusters | listTanks | copyGroups => rfl

theorem Step.run_sameBlocks (found : Findings) (ship : Ship) (step : Step) :
    Ship.SameBlocks ship (step.run found ship).ship := by
  cases step with
  | findDisplay => simp only [run]; split <;> exact .refl ship
  | readSettings =>
    simp only [run]
    split
    · exact ship.loadSettings_sameBlocks.trans (Ship.styleDisplay_sameBlocks _ _ _)
    · exact ship.loadSettings_sameBlocks
  | pickController => simp only [run]; split <;> exact .refl ship
  | greet =>
    simp only [run, foldl_echo]
    exact ⟨rfl, rfl, rfl, rfl, rfl, rfl⟩
  | recallToggles | listControllers | listThrusters | listTanks | copyGroups => exact .refl ship

theorem Step.run_settings (found : Findings) (ship : Ship) (step : Step) :
    (step.run found ship).found.settings =
      if step = .readSettings then ship.loadSettings.1 else found.settings := by
  cases step with
  | findDisplay => simp only [run]; split <;> rfl
  | readSettings => simp only [run]; split <;> rfl
  | pickController => simp only [run]; split <;> rfl
  | recallToggles | listControllers | listThrusters | listTanks | copyGroups | greet => rfl

theorem Step.run_toggles (found : Findings) (ship : Ship) (step : Step) :
    (step.run found ship).found.toggles =
      if step = .recallToggles then .restore ship.storedState else found.toggles := by
  cases step with
  | findDisplay => simp only [run]; split <;> rfl
  | readSettings => simp only [run]; split <;> rfl
  | pickController => simp only [run]; split <;> rfl
  | recallToggles | listControllers | listThrusters | listTanks | copyGroups | greet => rfl

theorem Step.run_storable (h : found.settings.Storable) (ship : Ship) (step : Step) :
    (step.run found ship).found.settings.Storable := by
  rw [run_settings]
  split
  · rw [Ship.loadSettings_settings]
    exact Settings.read_storable ship.settingsText
  · exact h

structure Findings.HandsOver (found : Findings) (hud : Hud) : Prop where
  display : found.display = some hud.display
  controller : found.controller = some hud.controller
  settings : hud.settings = found.settings
  toggles : hud.toggles = found.toggles
  thrusters : hud.thrusters = found.thrusters
  tanks : hud.tanks = found.tanks
  groups : hud.groups = found.groups
  status : hud.status = []

namespace Progress

/-- A call waits for the next frame, or shows one when all steps have run, or tries a step in vain,
or runs it and shows the frame. -/
inductive Ticked (progress : Progress) (ship : Ship) : TickResult → Prop
  | wait (early : progress.waited + 1 < frameLength) :
      Ticked progress ship ⟨.ok .booting, { progress with waited := progress.waited + 1 }, ship⟩
  | idle (due : frameLength ≤ progress.waited + 1) (none_left : progress.pendingStep? = none) :
      Ticked progress ship ({ progress with waited := 0 }.animate ship)
  | fail (due : frameLength ≤ progress.waited + 1) (step : Step) (error : Error)
      (next : progress.pendingStep? = some step)
      (failed : (step.run progress.found ship).error = some error) :
      Ticked progress ship ⟨.error error,
        { progress with waited := 0, found := (step.run progress.found ship).found },
        (step.run progress.found ship).ship⟩
  | advance (due : frameLength ≤ progress.waited + 1) (step : Step)
      (next : progress.pendingStep? = some step)
      (succeeded : (step.run progress.found ship).error = none) :
      Ticked progress ship ({ progress with
        waited := 0
        completed := progress.completed + 1
        found := (step.run progress.found ship).found }.animate
          (step.run progress.found ship).ship)

/-- Every call is of one of these kinds, whatever ship it finds. -/
theorem tick_ticked (progress : Progress) (ship : Ship) :
    Ticked progress ship (progress.tick ship) := by
  unfold tick
  split
  · rename_i hearly
    exact .wait hearly
  · rename_i hlate
    have hdue := Nat.le_of_not_lt hlate
    have hpending : { progress with waited := 0 }.pendingStep? = progress.pendingStep? := rfl
    rw [runFrame, hpending]
    cases hnext : progress.pendingStep? with
    | none => exact .idle hdue hnext
    | some step =>
      cases herror : (step.run progress.found ship).error with
      | none =>
        simp only [herror]
        exact .advance hdue step hnext herror
      | some error =>
        simp only [herror]
        exact .fail hdue step error hnext herror

theorem animate_frame (progress : Progress) (ship : Ship) :
    (progress.animate ship).ship = { ship with
      displays := (progress.animate ship).ship.displays
      writes := (progress.animate ship).ship.writes } := by
  change progress.drawFrame ship = _
  simp only [animate]
  unfold drawFrame
  split <;> rfl

theorem animate_sameBlocks (progress : Progress) (ship : Ship) :
    Ship.SameBlocks ship (progress.animate ship).ship := by
  change Ship.SameBlocks ship (progress.drawFrame ship)
  unfold drawFrame
  split
  · exact Ship.writeDisplay_sameBlocks ship _ _
  · exact .refl ship

/-- The boot is over only once every step has run. -/
theorem completed_of_animate_done (h : (progress.animate ship).result = .ok .done) :
    (progress.animate ship).progress.completed = Step.all.length := by
  change progress.completed = Step.all.length
  by_contra hne
  simp [animate, hne] at h

/-- A call of a boot touches no more than its step and its frame do. -/
theorem Ticked.frame (h : Ticked progress ship ticked) :
    ticked.ship = { ship with
      displays := ticked.ship.displays
      settingsText := ticked.ship.settingsText
      echoes := ticked.ship.echoes
      writes := ticked.ship.writes } := by
  cases h with
  | wait early => rfl
  | idle due none_left => rw [animate_frame]
  | fail due step error next failed =>
    change (step.run progress.found ship).ship = _
    rw [Step.run_frame]
  | advance due step next succeeded => rw [animate_frame, Step.run_frame]

/-- A boot reads the stored text and never writes it. -/
theorem Ticked.storedState (h : Ticked progress ship ticked) :
    ticked.ship.storedState = ship.storedState := by
  rw [h.frame]

theorem Ticked.frequency (h : Ticked progress ship ticked) :
    ticked.ship.frequency = ship.frequency := by
  rw [h.frame]

/-- No call of a boot touches what tells the ship's blocks apart. -/
theorem Ticked.sameBlocks (h : Ticked progress ship ticked) :
    Ship.SameBlocks ship ticked.ship := by
  cases h with
  | wait early => exact .refl ship
  | idle due none_left => exact animate_sameBlocks _ ship
  | fail due step error next failed => exact step.run_sameBlocks _ ship
  | advance due step next succeeded =>
    exact (step.run_sameBlocks _ ship).trans (animate_sameBlocks _ _)

theorem Ticked.completed_of_done (h : Ticked progress ship ticked)
    (hdone : ticked.result = .ok .done) : ticked.progress.completed = Step.all.length := by
  cases h with
  | wait early => cases hdone
  | idle due none_left => exact completed_of_animate_done hdone
  | fail due step error next failed => cases hdone
  | advance due step next succeeded => exact completed_of_animate_done hdone

theorem Ticked.storable (h : Ticked progress ship ticked)
    (hfound : progress.found.settings.Storable) : ticked.progress.found.settings.Storable := by
  cases h with
  | wait early => exact hfound
  | idle due none_left => exact hfound
  | fail due step error next failed => exact step.run_storable hfound ship
  | advance due step next succeeded => exact step.run_storable hfound ship

/-- Once the toggles have been recalled, they are those of the stored text. -/
def Recalls (progress : Progress) (stored : String) : Prop :=
  .recallToggles ∈ progress.stepsRun → progress.found.toggles = .restore stored

theorem Recalls.advance (h : progress.Recalls ship.storedState) {step : Step}
    (next : progress.pendingStep? = some step) :
    { progress with
      completed := progress.completed + 1
      found := (step.run progress.found ship).found }.Recalls ship.storedState := by
  have hsteps : Step.all.take (progress.completed + 1) = progress.stepsRun ++ [step] := by
    rw [List.take_add_one, show Step.all[progress.completed]? = some step from next]
    rfl
  intro hmem
  change (step.run progress.found ship).found.toggles = _
  rw [Step.run_toggles]
  split
  · rfl
  · rename_i hother
    apply h
    change _ ∈ Step.all.take (progress.completed + 1) at hmem
    rw [hsteps] at hmem
    exact (List.mem_append.mp hmem).resolve_right fun hlast =>
      hother (List.mem_singleton.mp hlast).symm

theorem Ticked.recalls (h : Ticked progress ship ticked)
    (hrecalls : progress.Recalls ship.storedState) :
    ticked.progress.Recalls ship.storedState := by
  cases h with
  | wait early => exact hrecalls
  | idle due none_left => exact hrecalls
  | fail due step error next failed =>
    intro hmem
    change (step.run progress.found ship).found.toggles = _
    rw [Step.run_toggles]
    split
    · rfl
    · exact hrecalls hmem
  | advance due step next succeeded => exact hrecalls.advance next

/-- The toggles that a finished boot hands over are the stored ones. -/
theorem Ticked.toggles_of_done (h : Ticked progress ship ticked)
    (hrecalls : progress.Recalls ship.storedState) (hdone : ticked.result = .ok .done) :
    ticked.progress.found.toggles = .restore ship.storedState := by
  apply h.recalls hrecalls
  rw [stepsRun, h.completed_of_done hdone]
  decide

/-- A boot hands over if and only if nothing is missing. -/
theorem finish_eq_ok_iff {hud : Hud} :
    progress.finish = .ok hud ↔ progress.found.HandsOver hud := by
  constructor
  · intro h
    unfold finish at h
    simp only at h
    split at h
    · contradiction
    · contradiction
    · rename_i display controller hdisplay hcontroller
      cases h
      exact ⟨hdisplay, hcontroller, rfl, rfl, rfl, rfl, rfl, rfl⟩
  · rintro ⟨hdisplay, hcontroller, hsettings, htoggles, hthrusters, htanks, hgroups, hstatus⟩
    simp only [finish, hdisplay, hcontroller, ← hsettings, ← htoggles, ← hthrusters, ← htanks,
      ← hgroups, ← hstatus]

end Progress

end CockpitHud.Boot
