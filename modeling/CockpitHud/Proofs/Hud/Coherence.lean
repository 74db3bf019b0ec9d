import CockpitHud.Proofs.Hud.Idle
import CockpitHud.Ship.Mass

namespace CockpitHud.Hud

variable {hud : Hud} {ship : Ship} {flipped : List Switch}

/-- What a display took from the ship at boot or at a reload is what the ship has. -/
structure Current (hud : Hud) (ship : Ship) : Prop where
  works : ship.displayWorks hud.display.id = true
  settings : Settings.read ship.settingsText = ⟨hud.settings, false⟩
  style : ship.displayStyle hud.display.id = some hud.settings.style
  groups : hud.groups = ship.groups
  thrusters : ∀ id, hud.thrusters.contains id = true ↔ ∃ thruster ∈ ship.thrusters,
    thruster.functional = true ∧ thruster.onGrid = true ∧ thruster.id = id
  tanks : ∀ id, hud.tanks.contains id = true ↔ ∃ tank ∈ ship.tanks,
    tank.functional = true ∧ tank.onGrid = true ∧ tank.holdsHydrogen = true ∧ tank.id = id

/-- Events wait to be shown if and only if a switch has been flipped and the mass sample cannot be
used. -/
def Waits (hud : Hud) (ship : Ship) (flipped : List Switch) : Prop :=
  hud.status = [] ↔ (hud.sample ship).isValid = true ∨ flipped = []

/-- What a report leaves, when these switches have been flipped since the boot. -/
structure Coherent (hud : Hud) (ship : Ship) (flipped : List Switch) : Prop
    extends hud.Current ship where
  placement : Placement.UpToDate ship hud.display.id hud.settings
  status : hud.Waits ship flipped

namespace Current

theorem storable (h : hud.Current ship) : hud.settings.Storable := by
  have hread := Settings.read_storable ship.settingsText
  rw [h.settings] at hread
  exact hread

/-- There is nothing new to read. -/
theorem loadSettings (h : hud.Current ship) : ship.loadSettings = (hud.settings, ship) := by
  simp only [Ship.loadSettings, h.settings]
  rfl

/-- A reload finds nothing new on a ship that the display is current with. -/
theorem updated (h : hud.Current ship) (command : Command) :
    hud.updated ship command = { hud with
      toggles := command.switch?.elim hud.toggles hud.toggles.flip
      status := hud.status ++ hud.events command } := by
  rw [Hud.updated, h.loadSettings, ← h.groups, ite_self, ite_self]

theorem settingsText_adjusted (h : hud.Current ship) (command : Command) :
    (hud.adjusted ship command).settingsText = ship.settingsText := by
  cases command with
  | toggle switch => rfl
  | reload =>
    rw [adjusted, h.loadSettings]
    rfl
  | noop => rfl

theorem style_adjusted (h : hud.Current ship) (command : Command) :
    (hud.adjusted ship command).displayStyle hud.display.id = some hud.settings.style := by
  cases command with
  | toggle switch => exact h.style
  | reload =>
    rw [adjusted, h.loadSettings]
    exact Ship.displayStyle_styleDisplay h.works hud.settings.style
  | noop => exact h.style

/-- Whatever the command, a call leaves the display with what the ship has. -/
theorem tick (h : hud.Current ship) (command : Command) :
    (hud.tick ship command).1.Current (hud.tick ship command).2 := by
  have hsame := hud.tick_sameBlocks ship command
  have htext : (hud.tick ship command).2.settingsText = ship.settingsText := by
    rw [tick_ship h.works]
    change (hud.prepared ship command).settingsText = _
    rw [prepared, prepare_eq, Placement.refresh_frame]
    exact h.settingsText_adjusted command
  have hstyle : (hud.tick ship command).2.displayStyle hud.display.id =
      some hud.settings.style := by
    rw [tick_ship h.works, Ship.displayStyle_writeDisplay, prepared, prepare_eq,
      Placement.displayStyle_refresh]
    exact h.style_adjusted command
  rw [tick_hud h.works, h.updated]
  refine ⟨(hsame.displayWorks _).trans h.works, ?_, hstyle, ?_, ?_, ?_⟩
  · rw [htext]
    exact h.settings
  · rw [hsame.groups]
    exact h.groups
  · rw [hsame.thrusters]
    exact h.thrusters
  · rw [hsame.tanks]
    exact h.tanks

end Current

theorem events_eq_nil_iff (hud : Hud) (command : Command) :
    hud.events command = [] ↔ command.switch? = none := by
  rw [events, Option.toList_eq_nil_iff, Option.map_eq_none_iff]

/-- A call drops the events that it shows, and keeps them where it cannot show them. -/
theorem Waits.tick (h : hud.Waits ship flipped) (hworks : ship.displayWorks hud.display.id = true)
    (command : Command) :
    (hud.tick ship command).1.Waits (hud.tick ship command).2
      (flipped ++ command.switch?.toList) := by
  have hsample : (hud.tick ship command).1.sample (hud.tick ship command).2 = hud.sample ship := by
    rw [tick_hud hworks]
    exact hud.sample_congr (hud.tick_sameBlocks ship command)
  rw [Waits, hsample, tick_status, if_pos hworks]
  by_cases hvalid : (hud.sample ship).isValid = true
  · rw [if_pos hvalid]
    exact ⟨fun _ => .inl hvalid, fun _ => rfl⟩
  · rw [Waits, or_iff_right hvalid] at h
    rw [if_neg hvalid, or_iff_right hvalid, List.append_eq_nil_iff, List.append_eq_nil_iff, h,
      events_eq_nil_iff, Option.toList_eq_nil_iff]

/-- Whatever the command, what was current before a report is coherent after it. -/
theorem Current.tick_coherent (h : hud.Current ship) (hstatus : hud.Waits ship flipped)
    (command : Command) :
    (hud.tick ship command).1.Coherent (hud.tick ship command).2
      (flipped ++ command.switch?.toList) := by
  have hplacement := tick_upToDate h.storable h.works command
  rw [← hud.tick_display ship command] at hplacement
  exact ⟨h.tick command, hplacement, hstatus.tick h.works command⟩

end CockpitHud.Hud
