import CockpitHud.Proofs.Hud.Tick
import CockpitHud.Proofs.Placement

namespace CockpitHud

variable {α : Type} {fits : α → Bool} {change : α → α}

/-- A change that does nothing to the element that it is made on does nothing at all. -/
theorem modifyFirst_eq_self {xs : List α} (h : ∀ a, xs.find? fits = some a → change a = a) :
    modifyFirst fits change xs = xs := by
  induction xs with
  | nil => rfl
  | cons x rest ih =>
    cases hx : fits x with
    | true =>
      have hsame := h x (List.find?_cons_of_pos hx)
      simp [modifyFirst, hx, hsame]
    | false =>
      have hrest := ih fun a ha => h a (by simpa [hx] using ha)
      simp [modifyFirst, hx, hrest]

/-- Writing what is shown already only counts. -/
theorem Ship.writeDisplay_shown (ship : Ship) (id : BlockId) :
    ship.writeDisplay id (ship.displayText id) = { ship with writes := ship.writes + 1 } := by
  have hsame : ship.updateDisplay id (fun d => { d with text := ship.displayText id }) = ship := by
    rw [updateDisplay, modifyFirst_eq_self]
    intro display hdisplay
    have htext : ship.displayText id = display.text := by
      rw [displayText, display?, hdisplay]
      rfl
    rw [htext]
  rw [writeDisplay, hsame]

namespace Hud

variable {hud : Hud} {ship : Ship} {command : Command}

theorem updated_noop (hud : Hud) (ship : Ship) : hud.updated ship .noop = hud := by
  simp [updated, events, Command.switch?]

theorem adjusted_noop (hud : Hud) (ship : Ship) : hud.adjusted ship .noop = ship := rfl

theorem prepared_noop (hud : Hud) (ship : Ship) :
    hud.prepared ship .noop = Placement.refresh ship hud.display.id hud.settings := by
  rw [prepared, prepare_eq, updated_noop, adjusted_noop]

/-- A call leaves the placement line as the settings ask for it, those just read included. -/
theorem tick_upToDate (h : hud.settings.Storable)
    (hworks : ship.displayWorks hud.display.id = true) (command : Command) :
    Placement.UpToDate (hud.tick ship command).2 hud.display.id
      (hud.tick ship command).1.settings := by
  have hscale := (updated_storable h ship command).scale.2
  have hadjusted := (hud.adjusted_sameBlocks ship command).displayWorks hud.display.id
  have hprepared : Placement.UpToDate (hud.prepared ship command) hud.display.id
      (hud.updated ship command).settings := by
    rw [prepared, prepare_eq]
    exact Placement.refresh_upToDate hscale (hadjusted.trans hworks)
  rw [tick_ship hworks, tick_hud hworks]
  exact hprepared.congr (Ship.customData_writeDisplay _ _ _)

/-- A display and a ship that a call without a command leaves as they are. -/
structure AtRest (hud : Hud) (ship : Ship) : Prop where
  works : ship.displayWorks hud.display.id = true
  calm : hud.Calm ship
  placement : Placement.UpToDate ship hud.display.id hud.settings
  shown : ship.displayText hud.display.id = hud.screen ship

/-- At rest an idle call writes the display once more, and nothing comes of it. -/
theorem AtRest.tick (h : hud.AtRest ship) :
    hud.tick ship .noop = (hud, { ship with writes := ship.writes + 1 }) := by
  have hprepared : hud.prepared ship .noop = ship := by
    rw [prepared_noop, Placement.refresh_of_upToDate h.placement]
  have hshown : hud.shown ship .noop = ship.displayText hud.display.id := by
    rw [Hud.shown, updated_noop, hprepared, h.shown]
  apply Prod.ext
  · exact tick_noop_of_calm h.calm
  · rw [tick_ship h.works, hprepared, hshown, Ship.writeDisplay_shown]

/-- How often the display was written is no part of it. -/
theorem AtRest.counted (h : hud.AtRest ship) (writes : Nat) :
    hud.AtRest { ship with writes := writes } :=
  ⟨h.works, h.calm, h.placement, h.shown⟩

/-- A call without a command that finds nothing pending leaves the display and the ship at rest. -/
theorem Calm.tick_atRest (h : hud.Calm ship) (hlegible : hud.Legible)
    (hworks : ship.displayWorks hud.display.id = true) :
    hud.AtRest (hud.tick ship .noop).2 := by
  have hsame := hud.tick_sameBlocks ship .noop
  have hplacement := tick_upToDate hlegible.settings hworks .noop
  rw [tick_noop_of_calm h] at hplacement
  refine ⟨(hsame.displayWorks _).trans hworks, h.congr hsame, hplacement, ?_⟩
  rw [tick_displayText hworks, shown, updated_noop, hud.screen_congr hsame]
  exact hud.screen_congr (hud.prepared_sameBlocks ship .noop)

/-- Two calls without a command bring a display and its ship to rest. -/
theorem atRest_of_idle (hlegible : hud.Legible) (hworks : ship.displayWorks hud.display.id = true) :
    (hud.tick ship .noop).1.AtRest
      ((hud.tick ship .noop).1.tick (hud.tick ship .noop).2 .noop).2 := by
  apply (tick_calm hworks .noop).tick_atRest (hlegible.tick ship .noop)
  rw [tick_hud hworks]
  exact ((hud.tick_sameBlocks ship .noop).displayWorks hud.display.id).trans hworks

end Hud

end CockpitHud
