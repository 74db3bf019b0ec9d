import CockpitHud.Proofs.Hud.Tick
import CockpitHud.Proofs.Ship.Footprint

namespace CockpitHud.Hud

variable {hud : Hud} {ship : Ship} {command : Command}

theorem adjusted_confined (hud : Hud) (ship : Ship) (command : Command) :
    Ship.Confined (some hud.display.id) ship (hud.adjusted ship command) := by
  cases command with
  | toggle switch => exact (hud.adjusted_sameBlocks ship _).confined rfl
  | reload => exact ship.styled_confined hud.display.id
  | noop => exact .refl _ ship

theorem adjusted_settingsText (hud : Hud) (ship : Ship) (command : Command) :
    (hud.adjusted ship command).settingsText =
      if command = .reload then ship.loadSettings.2.settingsText else ship.settingsText := by
  cases command <;> rfl

theorem adjusted_styles (h : command ≠ .reload) (hud : Hud) (ship : Ship) :
    (hud.adjusted ship command).styles = ship.styles := by
  cases command with
  | toggle switch => rfl
  | reload => contradiction
  | noop => rfl

theorem prepared_confined (hud : Hud) (ship : Ship) (command : Command) :
    Ship.Confined (some hud.display.id) ship (hud.prepared ship command) := by
  rw [prepared, prepare_eq]
  exact (hud.adjusted_confined ship command).trans (Placement.refresh_confined _ _ _)

/-- A call leaves its mark on its own display, if anywhere. -/
theorem tick_confined (hud : Hud) (ship : Ship) (command : Command) :
    Ship.Confined (some hud.display.id) ship (hud.tick ship command).2 := by
  cases hworks : ship.displayWorks hud.display.id with
  | false => rw [tick_of_dead hworks]; exact .refl _ ship
  | true =>
    rw [tick_ship hworks]
    exact (hud.prepared_confined ship command).trans (Ship.writeDisplay_confined _ _ _)

/-- A display is given another style by a reload alone. -/
theorem tick_styles (h : command ≠ .reload) (hud : Hud) (ship : Ship) :
    (hud.tick ship command).2.styles = ship.styles := by
  cases hworks : ship.displayWorks hud.display.id with
  | false => rw [tick_of_dead hworks]
  | true =>
    rw [tick_ship hworks, Ship.styles_writeDisplay, prepared, prepare_eq,
      Placement.styles_refresh, adjusted_styles h]

/-- Only a reload writes the settings text. -/
theorem tick_settingsText (hud : Hud) (ship : Ship) (command : Command) :
    (hud.tick ship command).2.settingsText =
      if ship.displayWorks hud.display.id = true ∧ command = .reload then
        ship.loadSettings.2.settingsText
      else ship.settingsText := by
  cases hworks : ship.displayWorks hud.display.id with
  | false =>
    rw [tick_of_dead hworks, if_neg]
    exact fun h => Bool.false_ne_true h.1
  | true =>
    have hprepared : (hud.prepared ship command).settingsText =
        (hud.adjusted ship command).settingsText := by
      rw [prepared, prepare_eq, Placement.refresh_frame]
    rw [tick_ship hworks]
    change (hud.prepared ship command).settingsText = _
    rw [hprepared, adjusted_settingsText]
    simp only [true_and]

/-- A running display echoes nothing. -/
theorem tick_echoes (hud : Hud) (ship : Ship) (command : Command) :
    (hud.tick ship command).2.echoes = ship.echoes := by
  cases hworks : ship.displayWorks hud.display.id with
  | false => rw [tick_of_dead hworks]
  | true =>
    rw [tick_ship hworks]
    change (hud.prepared ship command).echoes = _
    rw [prepared, prepare_eq, Placement.refresh_frame, adjusted_frame]

end CockpitHud.Hud
