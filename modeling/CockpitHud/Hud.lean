import CockpitHud.Placement
import CockpitHud.Report
import CockpitHud.Settings.Load
import CockpitHud.Ship.IdSet

namespace CockpitHud

structure Hud where
  display : DisplayIdentity
  controller : Controller
  settings : Settings
  toggles : Toggles
  /-- The thrusters found at boot. -/
  thrusters : IdSet
  /-- The hydrogen tanks found at boot. -/
  tanks : IdSet
  /-- The groups as they were at boot or at the last reload. -/
  groups : List Group
  /-- Events not yet shown. -/
  status : List String
  deriving DecidableEq

namespace Hud

def sample (hud : Hud) (ship : Ship) : MassSample :=
  .ofTanks (ship.massAt hud.controller.id)
    (ship.tanks.filter fun tank => hud.tanks.contains tank.id)

def report (hud : Hud) (ship : Ship) : Report where
  settings := hud.settings
  toggles := hud.toggles
  groups := Propulsion.groupTotals hud.settings.groupNames hud.groups
    (Propulsion.readingsById ship.thrusters) hud.toggles.maneuvering
  directions :=
    if hud.toggles.burnTimes then
      some (Propulsion.directionTotals
        (ship.thrusters.filter fun thruster => hud.thrusters.contains thruster.id)
        hud.toggles.maneuvering hud.toggles.allDirections hud.controller.forward)
    else none
  sample := hud.sample ship
  status := hud.status

def screen (hud : Hud) (ship : Ship) : String :=
  (hud.report ship).text

def applyToggle (hud : Hud) (ship : Ship) (command : Command) : Hud × Ship :=
  match hud.toggles.apply command with
  | (toggles, some event) =>
    ({ hud with toggles := toggles, status := hud.status ++ [event] },
      { ship with storedState := toggles.store })
  | (_, none) => (hud, ship)

def reload (hud : Hud) (ship : Ship) : Hud × Ship :=
  let (settings, loaded) := ship.loadSettings
  ({ hud with settings := settings, groups := ship.groups },
    loaded.styleDisplay hud.display.id settings.style)

def prepare (hud : Hud) (ship : Ship) (command : Command) : Hud × Ship :=
  let (toggled, kept) := hud.applyToggle ship command
  let (current, loaded) :=
    if command = .reload then toggled.reload kept else (toggled, kept)
  (current, Placement.refresh loaded current.display.id current.settings)

/-- Writes the report. Events are dropped once they have been shown. -/
def draw (hud : Hud) (ship : Ship) : Hud × Ship :=
  let drawn := ship.writeDisplay hud.display.id (hud.screen ship)
  if (hud.sample ship).isValid then ({ hud with status := [] }, drawn) else (hud, drawn)

/-- One call. Nothing happens while the display does not work. -/
def tick (hud : Hud) (ship : Ship) (command : Command) : Hud × Ship :=
  if ship.displayWorks hud.display.id then
    let (current, prepared) := hud.prepare ship command
    current.draw prepared
  else (hud, ship)

end Hud

end CockpitHud
