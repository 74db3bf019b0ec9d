import CockpitHud.Proofs.Hud.Tick

namespace CockpitHud

theorem modifyFirst_modifyFirst {α : Type} {fits : α → Bool} (change again : α → α)
    (h : ∀ a, fits (change a) = fits a) (xs : List α) :
    modifyFirst fits again (modifyFirst fits change xs) = modifyFirst fits (again ∘ change) xs := by
  induction xs with
  | nil => rfl
  | cons x rest ih =>
    by_cases hx : fits x = true
    · simp [modifyFirst, hx, h]
    · simp [modifyFirst, hx, ih]

def Display.cleared (display : Display) : Display :=
  { display with text := "" }

namespace Ship

variable {ship before after : Ship} {id : BlockId}

theorem updateDisplay_updateDisplay (ship : Ship) (id : BlockId) (change again : Display → Display)
    (hid : ∀ d, (change d).id = d.id) :
    (ship.updateDisplay id change).updateDisplay id again =
      ship.updateDisplay id (again ∘ change) := by
  have hfits : ∀ d, decide ((change d).id = id) = decide (d.id = id) := fun d => by rw [hid d]
  rw [updateDisplay, updateDisplay, updateDisplay,
    modifyFirst_modifyFirst change again hfits ship.displays]

/-- The ship with a blank text on a display, and nothing to tell of the calls made. -/
def blanked (ship : Ship) (id : BlockId) : Ship :=
  { ship.updateDisplay id Display.cleared with echoes := [], frequency := none, writes := 0 }

/-- What is changed on the display but its text can be changed before or after it is blanked. -/
theorem blanked_updateDisplay (ship : Ship) (id : BlockId) (change : Display → Display)
    (hid : ∀ d, (change d).id = d.id) (hclear : ∀ d, (change d).cleared = change d.cleared) :
    (ship.updateDisplay id change).blanked id = (ship.blanked id).updateDisplay id change := by
  have hswap : Display.cleared ∘ change = change ∘ Display.cleared := funext hclear
  rw [blanked, updateDisplay_updateDisplay ship id change _ hid, hswap,
    ← updateDisplay_updateDisplay ship id Display.cleared change fun _ => rfl]
  rfl

theorem blanked_styleDisplay (ship : Ship) (id : BlockId) (style : DisplayStyle) :
    (ship.styleDisplay id style).blanked id = (ship.blanked id).styleDisplay id style :=
  ship.blanked_updateDisplay id _ (fun _ => rfl) fun _ => rfl

theorem blanked_setCustomData (ship : Ship) (id : BlockId) (data : String) :
    (ship.setCustomData id data).blanked id = (ship.blanked id).setCustomData id data :=
  ship.blanked_updateDisplay id _ (fun _ => rfl) fun _ => rfl

theorem blanked_writeDisplay (ship : Ship) (id : BlockId) (text : String) :
    (ship.writeDisplay id text).blanked id = ship.blanked id := by
  have hclear := ship.updateDisplay_updateDisplay id (fun d => { d with text := text })
    Display.cleared fun _ => rfl
  exact congrArg (fun s : Ship => { s with echoes := [], frequency := none, writes := 0 }) hclear

/-- Where the same text is written, ships that agreed apart from it agree. -/
theorem displays_writeDisplay_congr (h : before.blanked id = after.blanked id) (text : String) :
    (before.writeDisplay id text).displays = (after.writeDisplay id text).displays := by
  have hview : ∀ ship : Ship, ((ship.blanked id).writeDisplay id text).displays =
      (ship.writeDisplay id text).displays := by
    intro ship
    have hwrite := ship.updateDisplay_updateDisplay id Display.cleared
      (fun d => { d with text := text }) fun _ => rfl
    have hdisplays := congrArg Ship.displays hwrite
    exact hdisplays
  rw [← hview before, h, hview after]

theorem blanked_sameBlocks (ship : Ship) (id : BlockId) : SameBlocks ship (ship.blanked id) :=
  have h : SameBlocks ship (ship.updateDisplay id Display.cleared) :=
    ship.updateDisplay_sameBlocks id fun _ => rfl
  ⟨h.displays, rfl, rfl, rfl, rfl, rfl⟩

theorem SameBlocks.symm (h : SameBlocks before after) : SameBlocks after before :=
  ⟨h.displays.symm, h.controllers.symm, h.thrusters.symm, h.tanks.symm, h.groups.symm,
    h.totalMass.symm⟩

/-- Ships apart in scribbles only have the same blocks. -/
theorem sameBlocks_of_blanked (h : before.blanked id = after.blanked id) :
    SameBlocks before after := by
  have hbefore := blanked_sameBlocks before id
  rw [h] at hbefore
  exact hbefore.trans (blanked_sameBlocks after id).symm

theorem blanked_customData (ship : Ship) (id : BlockId) :
    (ship.blanked id).customData id = ship.customData id := by
  have hfound : (ship.updateDisplay id Display.cleared).display? id =
      (ship.display? id).map Display.cleared := display?_updateDisplay fun _ => rfl
  change (((ship.updateDisplay id Display.cleared).display? id).map (·.customData)).getD "" = _
  rw [hfound, customData]
  cases ship.display? id <;> rfl

theorem blanked_displayStyle (ship : Ship) (id : BlockId) :
    (ship.blanked id).displayStyle id = ship.displayStyle id :=
  ship.displayStyle_updateDisplay id (fun _ => rfl) fun _ => rfl

theorem blanked_loadSettings (ship : Ship) (id : BlockId) :
    (ship.blanked id).loadSettings = (ship.loadSettings.1, ship.loadSettings.2.blanked id) := by
  have htext : (ship.blanked id).settingsText = ship.settingsText := rfl
  simp only [loadSettings, htext]
  split <;> rfl

/-- The ship with its settings loaded and a display in their style. -/
def styled (ship : Ship) (id : BlockId) : Ship :=
  ship.loadSettings.2.styleDisplay id ship.loadSettings.1.style

theorem blanked_styled (ship : Ship) (id : BlockId) :
    (ship.styled id).blanked id = (ship.blanked id).styled id := by
  rw [styled, styled, blanked_styleDisplay, blanked_loadSettings]

theorem styled_sameBlocks (ship : Ship) (id : BlockId) : SameBlocks ship (ship.styled id) :=
  ship.loadSettings_sameBlocks.trans (styleDisplay_sameBlocks _ id _)

end Ship

namespace Placement

/-- What is scribbled on a display has no say in its placement line. -/
theorem blanked_refresh (ship : Ship) (id : BlockId) (settings : Settings) :
    (refresh ship id settings).blanked id = refresh (ship.blanked id) id settings := by
  unfold refresh
  rw [Ship.blanked_customData]
  split
  · exact Ship.blanked_setCustomData ship id _
  · rfl

end Placement

end CockpitHud
