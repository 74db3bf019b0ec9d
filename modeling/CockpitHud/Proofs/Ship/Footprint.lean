import CockpitHud.Proofs.Ship.Blanked

namespace CockpitHud

/-- What is no longer the same was the first that fits. -/
theorem findIdx?_of_modifyFirst_ne {α : Type} {fits : α → Bool} {change : α → α} {xs : List α}
    {i : Nat} (h : (modifyFirst fits change xs)[i]? ≠ xs[i]?) : xs.findIdx? fits = some i := by
  induction xs generalizing i with
  | nil => exact absurd rfl h
  | cons x rest ih =>
    by_cases hx : fits x = true
    · cases i with
      | zero => rw [List.findIdx?_cons, if_pos hx]
      | succ i => simp [modifyFirst, hx] at h
    · cases i with
      | zero => simp [modifyFirst, hx] at h
      | succ i =>
        have hrest : (modifyFirst fits change rest)[i]? ≠ rest[i]? := by
          simpa [modifyFirst, hx] using h
        rw [List.findIdx?_cons, if_neg hx, ih hrest]
        rfl

namespace Ship

variable {ship before after last : Ship} {chosen : Option BlockId}

/-- The blocks are the same, and no display but the first one with the chosen id differs at all. -/
structure Confined (chosen : Option BlockId) (before after : Ship) : Prop
    extends SameBlocks before after where
  place : ∀ i, after.displays[i]? ≠ before.displays[i]? →
    ∃ id, chosen = some id ∧ before.displays.findIdx? (·.id = id) = some i

/-- Where a display stands depends on what tells the displays apart, and on nothing else. -/
theorem SameBlocks.findIdx? (h : SameBlocks before after) (id : BlockId) :
    after.displays.findIdx? (·.id = id) = before.displays.findIdx? (·.id = id) := by
  have hview : ∀ ship : Ship, ship.displays.findIdx? (·.id = id) =
      (ship.displays.map Display.toDisplayIdentity).findIdx? (·.id = id) := by
    intro ship
    rw [List.findIdx?_map]
    rfl
  rw [hview, hview, h.displays]

theorem SameBlocks.confined (h : SameBlocks before after)
    (hdisplays : after.displays = before.displays) : Confined chosen before after :=
  ⟨h, fun i hi => absurd (congrArg (·[i]?) hdisplays) hi⟩

theorem Confined.refl (chosen : Option BlockId) (ship : Ship) : Confined chosen ship ship :=
  (SameBlocks.refl ship).confined rfl

theorem Confined.trans (h : Confined chosen before after) (g : Confined chosen after last) :
    Confined chosen before last := by
  refine ⟨h.toSameBlocks.trans g.toSameBlocks, ?_⟩
  intro i hi
  by_cases hfirst : after.displays[i]? = before.displays[i]?
  · obtain ⟨id, hid, hplace⟩ := g.place i (hfirst ▸ hi)
    exact ⟨id, hid, (h.toSameBlocks.findIdx? id).symm.trans hplace⟩
  · exact h.place i hfirst

/-- A change to a display marks the first one with its id, if any. -/
theorem updateDisplay_confined (ship : Ship) (id : BlockId) {change : Display → Display}
    (h : ∀ d, (change d).toDisplayIdentity = d.toDisplayIdentity) :
    Confined (some id) ship (ship.updateDisplay id change) :=
  ⟨ship.updateDisplay_sameBlocks id h, fun _ hi => ⟨id, rfl, findIdx?_of_modifyFirst_ne hi⟩⟩

theorem writeDisplay_confined (ship : Ship) (id : BlockId) (text : String) :
    Confined (some id) ship (ship.writeDisplay id text) := by
  have h : Confined (some id) ship (ship.updateDisplay id fun d => { d with text := text }) :=
    updateDisplay_confined ship id fun _ => rfl
  exact ⟨ship.writeDisplay_sameBlocks id text, h.place⟩

theorem setCustomData_confined (ship : Ship) (id : BlockId) (data : String) :
    Confined (some id) ship (ship.setCustomData id data) :=
  updateDisplay_confined ship id fun _ => rfl

theorem styleDisplay_confined (ship : Ship) (id : BlockId) (style : DisplayStyle) :
    Confined (some id) ship (ship.styleDisplay id style) :=
  updateDisplay_confined ship id fun _ => rfl

theorem loadSettings_confined (chosen : Option BlockId) (ship : Ship) :
    Confined chosen ship ship.loadSettings.2 := by
  apply ship.loadSettings_sameBlocks.confined
  rw [loadSettings_frame]

theorem styled_confined (ship : Ship) (id : BlockId) : Confined (some id) ship (ship.styled id) :=
  (ship.loadSettings_confined (some id)).trans (styleDisplay_confined _ id _)

def notes (ship : Ship) : List String :=
  ship.displays.map (·.customData)

def styles (ship : Ship) : List (Option DisplayStyle) :=
  ship.displays.map (·.style)

theorem notes_updateDisplay (ship : Ship) (id : BlockId) {change : Display → Display}
    (h : ∀ d, (change d).customData = d.customData) :
    (ship.updateDisplay id change).notes = ship.notes :=
  map_modifyFirst h ship.displays

theorem notes_writeDisplay (ship : Ship) (id : BlockId) (text : String) :
    (ship.writeDisplay id text).notes = ship.notes :=
  ship.notes_updateDisplay id fun _ => rfl

theorem notes_loadSettings (ship : Ship) : ship.loadSettings.2.notes = ship.notes := by
  rw [loadSettings_frame]
  rfl

theorem notes_styleDisplay (ship : Ship) (id : BlockId) (style : DisplayStyle) :
    (ship.styleDisplay id style).notes = ship.notes :=
  ship.notes_updateDisplay id fun _ => rfl

theorem notes_styled (ship : Ship) (id : BlockId) : (ship.styled id).notes = ship.notes := by
  rw [styled, notes_styleDisplay, notes_loadSettings]

theorem styles_updateDisplay (ship : Ship) (id : BlockId) {change : Display → Display}
    (h : ∀ d, (change d).style = d.style) :
    (ship.updateDisplay id change).styles = ship.styles :=
  map_modifyFirst h ship.displays

theorem styles_writeDisplay (ship : Ship) (id : BlockId) (text : String) :
    (ship.writeDisplay id text).styles = ship.styles :=
  ship.styles_updateDisplay id fun _ => rfl

/-- A settings text that is right stays as it is, any other gives way to what was read from it. -/
theorem loadSettings_settingsText (ship : Ship) :
    ship.loadSettings.2.settingsText = if (Settings.read ship.settingsText).isStale then
      (Settings.read ship.settingsText).settings.write else ship.settingsText := by
  simp only [loadSettings]
  split <;> rfl

end Ship

namespace Placement

theorem refresh_confined (ship : Ship) (id : BlockId) (settings : Settings) :
    Ship.Confined (some id) ship (refresh ship id settings) := by
  unfold refresh
  split
  · exact Ship.setCustomData_confined ship id _
  · exact .refl _ ship

theorem styles_refresh (ship : Ship) (id : BlockId) (settings : Settings) :
    (refresh ship id settings).styles = ship.styles := by
  unfold refresh
  split
  · exact ship.styles_updateDisplay id fun _ => rfl
  · rfl

end Placement

end CockpitHud
