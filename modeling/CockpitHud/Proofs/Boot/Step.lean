import CockpitHud.Proofs.Boot.Progress

namespace CockpitHud.Boot

variable {found : Findings} {ship : Ship} {step : Step} {error : Error}

def displayOn? (ship : Ship) : Option DisplayIdentity :=
  (ship.displays.find? isOurDisplay).map Display.toDisplayIdentity

def controllerOn? (ship : Ship) : Option Controller :=
  chooseController? (ship.controllers.filter canSteer)

/-- Which display is found depends on what tells displays apart, not on what they show. -/
theorem displayOn?_congr {before after : Ship}
    (h : after.displays.map Display.toDisplayIdentity =
      before.displays.map Display.toDisplayIdentity) : displayOn? after = displayOn? before := by
  have hview : ∀ ship : Ship, displayOn? ship =
      (ship.displays.map Display.toDisplayIdentity).find? fun d =>
        d.functional && d.onGrid && nameHas d.name (Text.lower displayTag.toList) := by
    intro ship
    rw [List.find?_map]
    rfl
  rw [hview, hview, h]

namespace Step

theorem mem_all (step : Step) : step ∈ Step.all := by
  cases step <;> decide

theorem getElem?_all_eq_some_iff {place : Nat} :
    Step.all[place]? = some step ↔ place = Step.all.idxOf step := by
  constructor
  · intro h
    obtain ⟨hlt, hget⟩ := List.getElem?_eq_some_iff.mp h
    rw [← hget]
    exact (List.Nodup.idxOf_getElem (by decide) place hlt).symm
  · rintro rfl
    exact List.getElem?_idxOf (mem_all step)

/-- Only three steps can fail: two for what the ship lacks, and one if it came too early. -/
theorem run_error_iff :
    (step.run found ship).error = some error ↔
      (step = .findDisplay ∧ error = .noDisplay ∧ displayOn? ship = none) ∨
      (step = .readSettings ∧ error = .settingsBeforeDisplay ∧ found.display = none) ∨
      (step = .pickController ∧ error = .noController ∧
        chooseController? found.candidates = none) := by
  cases step with
  | findDisplay =>
    cases h : ship.displays.find? isOurDisplay <;> simp [run, displayOn?, h, @eq_comm _ error]
  | readSettings => cases h : found.display <;> simp [run, h, @eq_comm _ error]
  | pickController =>
    cases h : chooseController? found.candidates <;> simp [run, h, @eq_comm _ error]
  | recallToggles | listControllers | listThrusters | listTanks | copyGroups | greet =>
    simp [run]

/-- A step that lacks something on the ship leaves all as it was. -/
theorem run_of_lack (h : (step.run found ship).error = some error) (hstep : step ≠ .readSettings) :
    step.run found ship = ⟨some error, found, ship⟩ := by
  obtain ⟨rfl, rfl, hnone⟩ | ⟨rfl, _, _⟩ | ⟨rfl, rfl, hnone⟩ := run_error_iff.mp h
  · have hfind := Option.map_eq_none_iff.mp hnone
    simp [run, hfind]
  · contradiction
  · simp [run, hnone]

/-- A step fails only for want of what it works on. -/
theorem run_error_eq_none_iff :
    (step.run found ship).error = none ↔
      (step = .findDisplay → (displayOn? ship).isSome) ∧
      (step = .readSettings → found.display.isSome) ∧
      (step = .pickController → (chooseController? found.candidates).isSome) := by
  cases step with
  | findDisplay =>
    cases h : ship.displays.find? isOurDisplay <;> simp [run, displayOn?, h]
  | readSettings => cases h : found.display <;> simp [run, h]
  | pickController => cases h : chooseController? found.candidates <;> simp [run, h]
  | recallToggles | listControllers | listThrusters | listTanks | copyGroups | greet =>
    simp [run]

/-- What is known after a step that has not failed. -/
def learn (found : Findings) (ship : Ship) : Step → Findings
  | .findDisplay => { found with display := displayOn? ship }
  | .readSettings => { found with settings := (Settings.read ship.settingsText).settings }
  | .recallToggles => { found with toggles := .restore ship.storedState }
  | .listControllers => { found with candidates := ship.controllers.filter canSteer }
  | .pickController =>
    { found with controller := chooseController? found.candidates, candidates := [] }
  | .listThrusters => { found with thrusters := thrusterIds ship }
  | .listTanks => { found with tanks := tankIds ship }
  | .copyGroups => { found with groups := ship.groups }
  | .greet => found

theorem learn_display (step : Step) (found : Findings) (ship : Ship) :
    (step.learn found ship).display =
      if step = .findDisplay then displayOn? ship else found.display := by
  cases step <;> rfl

theorem learn_controller (step : Step) (found : Findings) (ship : Ship) :
    (step.learn found ship).controller =
      if step = .pickController then chooseController? found.candidates
      else found.controller := by
  cases step <;> rfl

theorem run_found (h : (step.run found ship).error = none) :
    (step.run found ship).found = step.learn found ship := by
  cases step with
  | findDisplay =>
    cases hfind : ship.displays.find? isOurDisplay with
    | none => simp [run, hfind] at h
    | some display => simp [run, learn, displayOn?, hfind]
  | readSettings =>
    have hread := ship.loadSettings_settings
    cases hdisplay : found.display with
    | none => simp [run, hdisplay] at h
    | some display => simp [run, learn, hdisplay, hread]
  | pickController =>
    cases hchoice : chooseController? found.candidates with
    | none => simp [run, hchoice] at h
    | some controller => simp [run, learn, hchoice]
  | recallToggles | listControllers | listThrusters | listTanks | copyGroups | greet => rfl

end Step

end CockpitHud.Boot
