import CockpitHud.Placement
import CockpitHud.Settings.Load

namespace CockpitHud

variable {α β : Type} {fits : α → Bool} {change : α → α}

theorem find?_modifyFirst (h : ∀ a, fits a = true → fits (change a) = true) (xs : List α) :
    (modifyFirst fits change xs).find? fits = (xs.find? fits).map change := by
  induction xs with
  | nil => rfl
  | cons x rest ih =>
    by_cases hx : fits x = true
    · simp [modifyFirst, hx, h x hx]
    · simp [modifyFirst, hx, ih]

theorem map_modifyFirst {view : α → β} (h : ∀ a, view (change a) = view a) (xs : List α) :
    (modifyFirst fits change xs).map view = xs.map view := by
  induction xs with
  | nil => rfl
  | cons x rest ih =>
    by_cases hx : fits x = true
    · simp [modifyFirst, hx, h]
    · simp [modifyFirst, hx, ih]

/-- A view that keeps apart what is told apart sees the change where it was made. -/
theorem map_modifyFirst_comm {view : α → β} {seen : β → Bool} {alter : β → β}
    (hfits : ∀ a, seen (view a) = fits a) (hchange : ∀ a, view (change a) = alter (view a))
    (xs : List α) :
    (modifyFirst fits change xs).map view = modifyFirst seen alter (xs.map view) := by
  induction xs with
  | nil => rfl
  | cons x rest ih =>
    by_cases hx : fits x = true
    · simp [modifyFirst, hfits, hx, hchange]
    · simp [modifyFirst, hfits, hx, ih]

namespace Ship

variable {ship before after last : Ship} {id : BlockId}

theorem display?_updateDisplay {change : Display → Display} (h : ∀ d, (change d).id = d.id) :
    (ship.updateDisplay id change).display? id = (ship.display? id).map change := by
  apply find?_modifyFirst
  intro d hd
  rw [h d]
  exact hd

theorem display?_of_works (h : ship.displayWorks id = true) :
    ∃ display, ship.display? id = some display := by
  obtain ⟨display, hmem, hfits⟩ := List.any_eq_true.mp h
  apply Option.isSome_iff_exists.mp
  exact List.find?_isSome.mpr ⟨display, hmem, ((Bool.and_eq_true _ _).mp hfits).1⟩

/-- What is written to a display that works can be read off it. -/
theorem displayText_writeDisplay (h : ship.displayWorks id = true) (text : String) :
    (ship.writeDisplay id text).displayText id = text := by
  obtain ⟨display, hfound⟩ := display?_of_works h
  have hwritten : (ship.writeDisplay id text).display? id =
      (ship.display? id).map fun d => { d with text := text } :=
    display?_updateDisplay fun _ => rfl
  rw [displayText, hwritten, hfound]
  rfl

/-- What a change leaves of the display that it is made on. -/
theorem map_display?_updateDisplay {change : Display → Display} {view : Display → β}
    (hid : ∀ d, (change d).id = d.id) (hview : ∀ d, view (change d) = view d) :
    ((ship.updateDisplay id change).display? id).map view = (ship.display? id).map view := by
  rw [display?_updateDisplay hid, Option.map_map]
  exact Option.map_congr fun d _ => hview d

theorem customData_writeDisplay (ship : Ship) (id : BlockId) (text : String) :
    (ship.writeDisplay id text).customData id = ship.customData id := by
  have hview : ((ship.writeDisplay id text).display? id).map (·.customData) =
      (ship.display? id).map (·.customData) :=
    map_display?_updateDisplay (fun _ => rfl) fun _ => rfl
  rw [customData, hview, customData]

theorem customData_setCustomData (h : ship.displayWorks id = true) (data : String) :
    (ship.setCustomData id data).customData id = data := by
  obtain ⟨display, hfound⟩ := display?_of_works h
  have hset : (ship.setCustomData id data).display? id =
      (ship.display? id).map fun d => { d with customData := data } :=
    display?_updateDisplay fun _ => rfl
  rw [customData, hset, hfound]
  rfl

def displayStyle (ship : Ship) (id : BlockId) : Option DisplayStyle :=
  ((ship.display? id).map (·.style)).join

theorem displayStyle_updateDisplay (ship : Ship) (id : BlockId) {change : Display → Display}
    (hid : ∀ d, (change d).id = d.id) (hstyle : ∀ d, (change d).style = d.style) :
    (ship.updateDisplay id change).displayStyle id = ship.displayStyle id := by
  rw [displayStyle, map_display?_updateDisplay hid hstyle, displayStyle]

theorem displayStyle_writeDisplay (ship : Ship) (id : BlockId) (text : String) :
    (ship.writeDisplay id text).displayStyle id = ship.displayStyle id :=
  ship.displayStyle_updateDisplay id (fun _ => rfl) fun _ => rfl

theorem displayStyle_setCustomData (ship : Ship) (id : BlockId) (data : String) :
    (ship.setCustomData id data).displayStyle id = ship.displayStyle id :=
  ship.displayStyle_updateDisplay id (fun _ => rfl) fun _ => rfl

theorem displayStyle_styleDisplay (h : ship.displayWorks id = true) (style : DisplayStyle) :
    (ship.styleDisplay id style).displayStyle id = some style := by
  obtain ⟨display, hfound⟩ := display?_of_works h
  have hstyled : (ship.styleDisplay id style).display? id =
      (ship.display? id).map fun d => { d with style := some style } :=
    display?_updateDisplay fun _ => rfl
  rw [displayStyle, hstyled, hfound]
  rfl

def captions (ship : Ship) : List (BlockId × String) :=
  ship.displays.map fun display => (display.id, display.text)

theorem captions_updateDisplay (ship : Ship) (id : BlockId) {change : Display → Display}
    (hid : ∀ d, (change d).id = d.id) (htext : ∀ d, (change d).text = d.text) :
    (ship.updateDisplay id change).captions = ship.captions :=
  map_modifyFirst (fun d => Prod.ext (hid d) (htext d)) ship.displays

theorem captions_styleDisplay (ship : Ship) (id : BlockId) (style : DisplayStyle) :
    (ship.styleDisplay id style).captions = ship.captions :=
  ship.captions_updateDisplay id (fun _ => rfl) fun _ => rfl

theorem captions_setCustomData (ship : Ship) (id : BlockId) (data : String) :
    (ship.setCustomData id data).captions = ship.captions :=
  ship.captions_updateDisplay id (fun _ => rfl) fun _ => rfl

/-- Writing a display changes the text of the first one with its id. -/
theorem captions_writeDisplay (ship : Ship) (id : BlockId) (text : String) :
    (ship.writeDisplay id text).captions =
      modifyFirst (·.1 = id) (fun caption => (caption.1, text)) ship.captions := by
  refine map_modifyFirst_comm ?_ ?_ ship.displays
  · exact fun _ => rfl
  · exact fun _ => rfl

theorem captions_loadSettings (ship : Ship) : ship.loadSettings.2.captions = ship.captions := by
  simp only [loadSettings]
  split <;> rfl

/-- The blocks are the same, but for what the displays show. -/
structure SameBlocks (before after : Ship) : Prop where
  displays : after.displays.map Display.toDisplayIdentity =
    before.displays.map Display.toDisplayIdentity
  controllers : after.controllers = before.controllers
  thrusters : after.thrusters = before.thrusters
  tanks : after.tanks = before.tanks
  groups : after.groups = before.groups
  totalMass : after.totalMass = before.totalMass

theorem SameBlocks.refl (ship : Ship) : SameBlocks ship ship :=
  ⟨rfl, rfl, rfl, rfl, rfl, rfl⟩

theorem SameBlocks.trans (h : SameBlocks before after) (g : SameBlocks after last) :
    SameBlocks before last :=
  ⟨g.displays.trans h.displays, g.controllers.trans h.controllers,
    g.thrusters.trans h.thrusters, g.tanks.trans h.tanks, g.groups.trans h.groups,
    g.totalMass.trans h.totalMass⟩

theorem SameBlocks.displayWorks (h : SameBlocks before after) (id : BlockId) :
    after.displayWorks id = before.displayWorks id := by
  have hview : ∀ ship : Ship, ship.displayWorks id =
      (ship.displays.map Display.toDisplayIdentity).any fun d => d.id = id && d.functional := by
    intro ship
    rw [List.any_map]
    rfl
  rw [hview, hview, h.displays]

theorem SameBlocks.massAt (h : SameBlocks before after) (id : BlockId) :
    after.massAt id = before.massAt id := by
  rw [Ship.massAt, Ship.massAt, h.controllers, h.totalMass]

theorem updateDisplay_sameBlocks (ship : Ship) (id : BlockId) {change : Display → Display}
    (h : ∀ d, (change d).toDisplayIdentity = d.toDisplayIdentity) :
    SameBlocks ship (ship.updateDisplay id change) :=
  ⟨map_modifyFirst h ship.displays, rfl, rfl, rfl, rfl, rfl⟩

theorem writeDisplay_sameBlocks (ship : Ship) (id : BlockId) (text : String) :
    SameBlocks ship (ship.writeDisplay id text) := by
  have h : SameBlocks ship (ship.updateDisplay id fun d => { d with text := text }) :=
    updateDisplay_sameBlocks ship id fun _ => rfl
  exact ⟨h.displays, rfl, rfl, rfl, rfl, rfl⟩

theorem styleDisplay_sameBlocks (ship : Ship) (id : BlockId) (style : DisplayStyle) :
    SameBlocks ship (ship.styleDisplay id style) :=
  updateDisplay_sameBlocks ship id fun _ => rfl

theorem setCustomData_sameBlocks (ship : Ship) (id : BlockId) (data : String) :
    SameBlocks ship (ship.setCustomData id data) :=
  updateDisplay_sameBlocks ship id fun _ => rfl

/-- Loading the settings changes nothing but the settings text. -/
theorem loadSettings_frame (ship : Ship) :
    ship.loadSettings.2 = { ship with settingsText := ship.loadSettings.2.settingsText } := by
  simp only [loadSettings]
  split <;> rfl

theorem loadSettings_settings (ship : Ship) :
    ship.loadSettings.1 = (Settings.read ship.settingsText).settings := by
  simp only [loadSettings]
  split <;> rfl

theorem loadSettings_sameBlocks (ship : Ship) : SameBlocks ship ship.loadSettings.2 := by
  rw [loadSettings_frame]
  exact ⟨rfl, rfl, rfl, rfl, rfl, rfl⟩

end Ship

namespace Placement

/-- The placement line is kept on the displays, and nowhere else. -/
theorem refresh_frame (ship : Ship) (id : BlockId) (settings : Settings) :
    refresh ship id settings =
      { ship with displays := (refresh ship id settings).displays } := by
  unfold refresh
  split <;> rfl

theorem refresh_sameBlocks (ship : Ship) (id : BlockId) (settings : Settings) :
    Ship.SameBlocks ship (refresh ship id settings) := by
  unfold refresh
  split
  · exact Ship.setCustomData_sameBlocks ship id _
  · exact .refl ship

theorem displayStyle_refresh (ship : Ship) (id : BlockId) (settings : Settings) :
    (refresh ship id settings).displayStyle id = ship.displayStyle id := by
  unfold refresh
  split
  · exact ship.displayStyle_setCustomData id _
  · rfl

theorem captions_refresh (ship : Ship) (id : BlockId) (settings : Settings) :
    (refresh ship id settings).captions = ship.captions := by
  unfold refresh
  split
  · exact Ship.captions_setCustomData ship id _
  · rfl

end Placement

end CockpitHud
