import CockpitHud.Proofs.Hud.Idle
import CockpitHud.Proofs.Ship.Blanked

namespace CockpitHud

namespace Hud

variable {hud : Hud} {ship before after : Ship} {command : Command}

def reloaded (hud : Hud) (ship : Ship) : Hud :=
  { hud with settings := (Settings.read ship.settingsText).settings, groups := ship.groups }

theorem updated_reload (h : hud.status = []) (ship : Ship) :
    hud.updated ship .reload = hud.reloaded ship := by
  have hsettings := ship.loadSettings_settings
  simp [updated, reloaded, events, Command.switch?, h, hsettings]

theorem adjusted_reload (hud : Hud) (ship : Ship) :
    hud.adjusted ship .reload = ship.styled hud.display.id := rfl

theorem prepared_reload (h : hud.status = []) (ship : Ship) :
    hud.prepared ship .reload =
      Placement.refresh (ship.styled hud.display.id) hud.display.id
        (hud.reloaded ship).settings := by
  rw [prepared, prepare_eq, updated_reload h, adjusted_reload]

/-- With no event left to show, a reload leaves the display as it was read from the ship. -/
theorem tick_reload (h : hud.status = []) (hworks : ship.displayWorks hud.display.id = true) :
    (hud.tick ship .reload).1 = hud.reloaded ship := by
  have hevents : hud.events .reload = [] := rfl
  rw [tick_hud hworks, updated_reload h, h, hevents, List.append_nil, ite_self]
  cases hud
  simp_all [reloaded]

/-- A reload leaves what an idle call of the reloaded display leaves on a ship whose settings are
loaded and whose display is styled already, scribbles or not. -/
theorem tick_noop_of_styled {scribbled : Ship} (h : hud.status = [])
    (hworks : ship.displayWorks hud.display.id = true)
    (hship : scribbled.blanked hud.display.id =
      (ship.styled hud.display.id).blanked hud.display.id) :
    ((hud.reloaded ship).tick scribbled .noop).2.displays = (hud.tick ship .reload).2.displays ∧
      ((hud.reloaded ship).tick scribbled .noop).2.settingsText =
        (hud.tick ship .reload).2.settingsText ∧
      ((hud.reloaded ship).tick scribbled .noop).2.storedState =
        (hud.tick ship .reload).2.storedState := by
  have hsame : Ship.SameBlocks ship scribbled :=
    (ship.styled_sameBlocks _).trans (Ship.sameBlocks_of_blanked hship.symm)
  have hworks' : scribbled.displayWorks (hud.reloaded ship).display.id = true :=
    (hsame.displayWorks _).trans hworks
  have hprepared : ((hud.reloaded ship).prepared scribbled .noop).blanked hud.display.id =
      (hud.prepared ship .reload).blanked hud.display.id := by
    rw [prepared_noop, prepared_reload h]
    change (Placement.refresh scribbled hud.display.id _).blanked _ = _
    rw [Placement.blanked_refresh, Placement.blanked_refresh, hship]
  have hshown : (hud.reloaded ship).shown scribbled .noop = hud.shown ship .reload := by
    rw [shown, shown, updated_noop, updated_reload h]
    exact screen_congr _ (Ship.sameBlocks_of_blanked hprepared).symm
  have hsettings := congrArg Ship.settingsText hprepared
  have hstored := congrArg Ship.storedState hprepared
  rw [tick_ship hworks', tick_ship hworks, hshown]
  exact ⟨Ship.displays_writeDisplay_congr hprepared _, hsettings, hstored⟩

end Hud

end CockpitHud
