import CockpitHud.Hud
import CockpitHud.Proofs.Report.Status
import CockpitHud.Proofs.Settings.Storable
import CockpitHud.Proofs.Ship.Blocks

namespace CockpitHud

def Command.switch? : Command → Option Switch
  | .toggle switch => some switch
  | .reload => none
  | .noop => none

theorem Toggles.event_no_feed (toggles : Toggles) (switch : Switch) :
    '\n' ∉ (toggles.event switch).toList := by
  have hmaneuvering : ∀ value, '\n' ∉ ("[Toggle] RCS: " ++ onOff value).toList := by decide
  have hburnTimes : ∀ value, '\n' ∉ ("[Toggle] Burn Times: " ++ onOff value).toList := by decide
  have hdirections : ∀ value,
      '\n' ∉ ("[Toggle] All Directions: " ++ allOrForward value).toList := by decide
  cases switch with
  | maneuvering => exact hmaneuvering toggles.maneuvering
  | burnTimes => exact hburnTimes toggles.burnTimes
  | allDirections => exact hdirections toggles.allDirections

namespace Hud

variable {hud : Hud} {ship before after : Ship} {command : Command}

theorem sample_congr (hud : Hud) (h : Ship.SameBlocks before after) :
    hud.sample after = hud.sample before := by
  rw [sample, sample, h.massAt, h.tanks]

theorem screen_congr (hud : Hud) (h : Ship.SameBlocks before after) :
    hud.screen after = hud.screen before := by
  rw [screen, screen, report, report, h.thrusters, hud.sample_congr h]

def events (hud : Hud) (command : Command) : List String :=
  (command.switch?.map fun switch => (hud.toggles.flip switch).event switch).toList

/-- The state that a command leaves, before anything is drawn. -/
def updated (hud : Hud) (ship : Ship) (command : Command) : Hud :=
  { hud with
    toggles := command.switch?.elim hud.toggles hud.toggles.flip
    settings := if command = .reload then ship.loadSettings.1 else hud.settings
    groups := if command = .reload then ship.groups else hud.groups
    status := hud.status ++ hud.events command }

/-- The ship after a command, before the placement line is looked at. -/
def adjusted (hud : Hud) (ship : Ship) : Command → Ship
  | .toggle switch => { ship with storedState := (hud.toggles.flip switch).store }
  | .reload => ship.loadSettings.2.styleDisplay hud.display.id ship.loadSettings.1.style
  | .noop => ship

theorem prepare_eq (hud : Hud) (ship : Ship) (command : Command) :
    hud.prepare ship command = (hud.updated ship command, Placement.refresh
      (hud.adjusted ship command) hud.display.id (hud.updated ship command).settings) := by
  cases command with
  | toggle switch =>
    simp [prepare, applyToggle, Toggles.apply, updated, events, adjusted, Command.switch?]
  | reload =>
    simp [prepare, applyToggle, Toggles.apply, reload, updated, events, adjusted, Command.switch?]
  | noop => simp [prepare, applyToggle, Toggles.apply, updated, events, adjusted, Command.switch?]

theorem adjusted_sameBlocks (hud : Hud) (ship : Ship) (command : Command) :
    Ship.SameBlocks ship (hud.adjusted ship command) := by
  cases command with
  | toggle switch => exact ⟨rfl, rfl, rfl, rfl, rfl, rfl⟩
  | reload => exact ship.loadSettings_sameBlocks.trans (Ship.styleDisplay_sameBlocks _ _ _)
  | noop => exact .refl ship

theorem adjusted_storedState (hud : Hud) (ship : Ship) (command : Command) :
    (hud.adjusted ship command).storedState =
      command.switch?.elim ship.storedState fun switch => (hud.toggles.flip switch).store := by
  cases command with
  | toggle switch => rfl
  | reload =>
    change ship.loadSettings.2.storedState = ship.storedState
    rw [Ship.loadSettings_frame]
  | noop => rfl

/-- A command touches the displays and the two texts that are kept on the ship, and nothing else. -/
theorem adjusted_frame (hud : Hud) (ship : Ship) (command : Command) :
    hud.adjusted ship command = { ship with
      displays := (hud.adjusted ship command).displays
      settingsText := (hud.adjusted ship command).settingsText
      storedState := (hud.adjusted ship command).storedState } := by
  cases command with
  | toggle switch => rfl
  | reload =>
    simp only [adjusted, Ship.loadSettings]
    split <;> rfl
  | noop => rfl

def prepared (hud : Hud) (ship : Ship) (command : Command) : Ship :=
  (hud.prepare ship command).2

theorem prepared_sameBlocks (hud : Hud) (ship : Ship) (command : Command) :
    Ship.SameBlocks ship (hud.prepared ship command) := by
  rw [prepared, prepare_eq]
  exact (hud.adjusted_sameBlocks ship command).trans (Placement.refresh_sameBlocks _ _ _)

theorem prepared_storedState (hud : Hud) (ship : Ship) (command : Command) :
    (hud.prepared ship command).storedState =
      command.switch?.elim ship.storedState fun switch => (hud.toggles.flip switch).store := by
  rw [prepared, prepare_eq, Placement.refresh_frame]
  exact hud.adjusted_storedState ship command

theorem prepared_writes (hud : Hud) (ship : Ship) (command : Command) :
    (hud.prepared ship command).writes = ship.writes := by
  rw [prepared, prepare_eq, Placement.refresh_frame, adjusted_frame]

theorem prepared_frequency (hud : Hud) (ship : Ship) (command : Command) :
    (hud.prepared ship command).frequency = ship.frequency := by
  rw [prepared, prepare_eq, Placement.refresh_frame, adjusted_frame]

/-- Nothing is shown before the report is drawn. -/
theorem prepared_captions (hud : Hud) (ship : Ship) (command : Command) :
    (hud.prepared ship command).captions = ship.captions := by
  rw [prepared, prepare_eq, Placement.captions_refresh]
  cases command with
  | toggle switch => rfl
  | reload => exact (Ship.captions_styleDisplay _ _ _).trans ship.captions_loadSettings
  | noop => rfl

def shown (hud : Hud) (ship : Ship) (command : Command) : String :=
  (hud.updated ship command).screen (hud.prepared ship command)

/-- A display that does not work is left alone, and so is the ship. -/
theorem tick_of_dead (h : ship.displayWorks hud.display.id = false) :
    hud.tick ship command = (hud, ship) := by
  rw [tick, h]
  rfl

theorem tick_of_works (h : ship.displayWorks hud.display.id = true) :
    hud.tick ship command = (hud.updated ship command).draw (hud.prepared ship command) := by
  rw [tick, if_pos h, prepared, prepare_eq]

/-- A call leaves what its command leaves, less the events that have been shown. -/
theorem tick_hud (h : ship.displayWorks hud.display.id = true) :
    (hud.tick ship command).1 = { hud.updated ship command with
      status := if (hud.sample ship).isValid then [] else hud.status ++ hud.events command } := by
  have hsample : (hud.updated ship command).sample (hud.prepared ship command) = hud.sample ship :=
    hud.sample_congr (hud.prepared_sameBlocks ship command)
  rw [tick_of_works h, draw, hsample]
  split <;> rfl

/-- A display never changes places. -/
theorem tick_display (hud : Hud) (ship : Ship) (command : Command) :
    (hud.tick ship command).1.display = hud.display := by
  cases h : ship.displayWorks hud.display.id with
  | false => rw [tick_of_dead h]
  | true => rw [tick_hud h]; rfl

/-- The report is the last thing written. -/
theorem tick_ship (h : ship.displayWorks hud.display.id = true) :
    (hud.tick ship command).2 =
      (hud.prepared ship command).writeDisplay hud.display.id (hud.shown ship command) := by
  rw [tick_of_works h, draw]
  split <;> rfl

theorem tick_sameBlocks (hud : Hud) (ship : Ship) (command : Command) :
    Ship.SameBlocks ship (hud.tick ship command).2 := by
  cases hworks : ship.displayWorks hud.display.id with
  | false => rw [tick_of_dead hworks]; exact .refl ship
  | true =>
    rw [tick_ship hworks]
    exact (hud.prepared_sameBlocks ship command).trans (Ship.writeDisplay_sameBlocks _ _ _)

/-- A call writes a display once, or not at all. -/
theorem tick_writes (hud : Hud) (ship : Ship) (command : Command) :
    (hud.tick ship command).2.writes =
      ship.writes + if ship.displayWorks hud.display.id then 1 else 0 := by
  cases h : ship.displayWorks hud.display.id with
  | false => rw [tick_of_dead h]; rfl
  | true => rw [tick_ship h, Ship.writeDisplay, prepared_writes]; rfl

theorem tick_displayText (h : ship.displayWorks hud.display.id = true) :
    (hud.tick ship command).2.displayText hud.display.id = hud.shown ship command := by
  rw [tick_ship h]
  apply Ship.displayText_writeDisplay
  rw [(hud.prepared_sameBlocks ship command).displayWorks, h]

def written (hud : Hud) (ship : Ship) (command : Command) : List String :=
  if ship.displayWorks hud.display.id then [hud.shown ship command] else []

/-- A call writes these texts to the display, in order, and nothing to any display besides. -/
structure Writes (hud : Hud) (ship : Ship) (command : Command) (texts : List String) : Prop where
  count : (hud.tick ship command).2.writes = ship.writes + texts.length
  captions : (hud.tick ship command).2.captions =
    (texts.foldl (fun ship text => ship.writeDisplay hud.display.id text) ship).captions

/-- A call writes one text at most, its report. -/
theorem writes_written (hud : Hud) (ship : Ship) (command : Command) :
    hud.Writes ship command (hud.written ship command) := by
  cases hworks : ship.displayWorks hud.display.id with
  | false =>
    rw [written, hworks]
    constructor <;> rw [tick_of_dead hworks] <;> rfl
  | true =>
    rw [written, hworks]
    constructor
    · rw [tick_writes, hworks]
      rfl
    · rw [tick_ship hworks, Ship.captions_writeDisplay, prepared_captions]
      exact (ship.captions_writeDisplay hud.display.id (hud.shown ship command)).symm

/-- Flipping a switch stores the toggles, and nothing else does. -/
theorem tick_storedState (hud : Hud) (ship : Ship) (command : Command) :
    (hud.tick ship command).2.storedState =
      if ship.displayWorks hud.display.id then
        command.switch?.elim ship.storedState fun switch => (hud.toggles.flip switch).store
      else ship.storedState := by
  cases h : ship.displayWorks hud.display.id with
  | false => rw [tick_of_dead h]; rfl
  | true => rw [tick_ship h]; exact hud.prepared_storedState ship command

/-- The ship goes on calling as often as before. -/
theorem tick_frequency (hud : Hud) (ship : Ship) (command : Command) :
    (hud.tick ship command).2.frequency = ship.frequency := by
  cases h : ship.displayWorks hud.display.id with
  | false => rw [tick_of_dead h]
  | true => rw [tick_ship h]; exact hud.prepared_frequency ship command

theorem tick_toggles (hud : Hud) (ship : Ship) (command : Command) :
    (hud.tick ship command).1.toggles =
      if ship.displayWorks hud.display.id then command.switch?.elim hud.toggles hud.toggles.flip
      else hud.toggles := by
  cases h : ship.displayWorks hud.display.id with
  | false => rw [tick_of_dead h]; rfl
  | true => rw [tick_hud h]; rfl

/-- Events are kept until a report has room for them. -/
theorem tick_status (hud : Hud) (ship : Ship) (command : Command) :
    (hud.tick ship command).1.status =
      if ship.displayWorks hud.display.id then
        if (hud.sample ship).isValid then [] else hud.status ++ hud.events command
      else hud.status := by
  cases h : ship.displayWorks hud.display.id with
  | false => rw [tick_of_dead h]; rfl
  | true => rw [tick_hud h]; rfl

/-- No event waits that the next report would show. -/
def Calm (hud : Hud) (ship : Ship) : Prop :=
  (hud.sample ship).isValid = true → hud.status = []

theorem Calm.congr (h : hud.Calm before) (hsame : Ship.SameBlocks before after) :
    hud.Calm after := by
  rw [Calm, hud.sample_congr hsame]
  exact h

/-- A report leaves no event behind. -/
theorem tick_calm (h : ship.displayWorks hud.display.id = true) (command : Command) :
    (hud.tick ship command).1.Calm (hud.tick ship command).2 := by
  have hsample : (hud.tick ship command).1.sample (hud.tick ship command).2 = hud.sample ship := by
    rw [tick_hud h]
    exact hud.sample_congr (hud.tick_sameBlocks ship command)
  intro hvalid
  rw [hsample] at hvalid
  rw [tick_status, if_pos h, if_pos hvalid]

/-- A call without a command changes nothing of a display that has nothing to show. -/
theorem tick_noop_of_calm (h : hud.Calm ship) : (hud.tick ship .noop).1 = hud := by
  cases hworks : ship.displayWorks hud.display.id with
  | false => rw [tick_of_dead hworks]
  | true =>
    have hstatus : (if (hud.sample ship).isValid then [] else hud.status ++ hud.events .noop) =
        hud.status := by
      split
      · rename_i hvalid
        exact (h hvalid).symm
      · exact List.append_nil hud.status
    rw [tick_hud hworks, hstatus]
    rfl

theorem tick_noop_of_quiet (h : hud.status = []) (ship : Ship) :
    (hud.tick ship .noop).1 = hud :=
  tick_noop_of_calm fun _ => h

structure Legible (hud : Hud) : Prop where
  settings : hud.settings.Storable
  status : ∀ entry ∈ hud.status, '\n' ∉ entry.toList

theorem events_no_feed (hud : Hud) (command : Command) :
    ∀ entry ∈ hud.events command, '\n' ∉ entry.toList := by
  intro entry hentry
  obtain ⟨switch, _, rfl⟩ := Option.map_eq_some_iff.mp (Option.mem_toList.mp hentry)
  exact Toggles.event_no_feed _ switch

theorem updated_storable (h : hud.settings.Storable) (ship : Ship) (command : Command) :
    (hud.updated ship command).settings.Storable := by
  change Settings.Storable (if command = .reload then ship.loadSettings.1 else hud.settings)
  split
  · rw [Ship.loadSettings_settings]
    exact Settings.read_storable ship.settingsText
  · exact h

theorem Legible.updated (h : hud.Legible) (ship : Ship) (command : Command) :
    (hud.updated ship command).Legible := by
  refine ⟨updated_storable h.settings ship command, ?_⟩
  intro entry hentry
  rcases List.mem_append.mp hentry with hentry | hentry
  · exact h.status entry hentry
  · exact hud.events_no_feed command entry hentry

theorem Legible.tick (h : hud.Legible) (ship : Ship) (command : Command) :
    (hud.tick ship command).1.Legible := by
  have hupdated := h.updated ship command
  cases hworks : ship.displayWorks hud.display.id with
  | false => rw [tick_of_dead hworks]; exact h
  | true =>
    rw [tick_hud hworks]
    refine ⟨hupdated.settings, ?_⟩
    intro entry hentry
    split at hentry
    · contradiction
    · exact hupdated.status entry hentry

/-- What is read off a display after a call is all that was pending, the call's own event included,
if the sample can be used, and nothing otherwise. -/
theorem Legible.statusEntries_shown (h : hud.Legible) (ship : Ship) (command : Command) :
    Report.statusEntries (hud.shown ship command) =
      if (hud.sample ship).isValid then hud.status ++ hud.events command else [] := by
  have hupdated := h.updated ship command
  have hsample := hud.sample_congr (hud.prepared_sameBlocks ship command)
  rw [← hsample]
  apply Report.statusEntries_text
  · intro entry hentry
    obtain ⟨name, hname, rfl⟩ := List.mem_map.mp hentry
    exact (hupdated.settings.names name hname).1.2
  · exact hupdated.status

end Hud

end CockpitHud
