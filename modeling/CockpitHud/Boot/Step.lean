import CockpitHud.Hud

namespace CockpitHud.Boot

inductive Error where
  | noDisplay
  | noController
  | settingsBeforeDisplay
  | finishedWithoutDisplay
  | finishedWithoutController
  deriving DecidableEq

/-- A display with this in its name, in any case, is ours. -/
def displayTag : String := "DeltaV"

/-- A controller with this in its name, in any case, comes before all others. -/
def cockpitTag : String := "deltavcockpit"

def Error.message : Error → String
  | .noDisplay => "No LCD with '" ++ displayTag ++ "' in its name found or not functional."
  | .noController => "No valid cockpit found.\n\n" ++
      "To fix: Place a Cockpit on the grid oriented in your preferred direction."
  | .settingsBeforeDisplay => "settings parsed before the display was found"
  | .finishedWithoutDisplay => "boot finished without a display"
  | .finishedWithoutController => "boot finished without a controller"

inductive Step where
  | findDisplay
  | readSettings
  | recallToggles
  | listControllers
  | pickController
  | listThrusters
  | listTanks
  | copyGroups
  | greet
  deriving DecidableEq

def Step.all : List Step :=
  [.findDisplay, .readSettings, .recallToggles, .listControllers, .pickController,
    .listThrusters, .listTanks, .copyGroups, .greet]

def nameHas (name : String) (tag : List Char) : Bool :=
  Text.contains (Text.lower name.toList) tag

/-- A tagged controller first, then one that someone sits in, then a main one, then any. -/
def chooseController? (candidates : List Controller) : Option Controller :=
  (candidates.find? fun c => nameHas c.name cockpitTag.toList).or
    ((candidates.find? (·.underControl)).or
      ((candidates.find? (·.isMain)).or candidates.head?))

structure Findings where
  display : Option DisplayIdentity := none
  settings : Settings := {}
  toggles : Toggles := {}
  /-- The controllers to choose from. -/
  candidates : List Controller := []
  controller : Option Controller := none
  thrusters : IdSet := .empty
  tanks : IdSet := .empty
  groups : List Group := []
  deriving DecidableEq

def isOurDisplay (display : Display) : Bool :=
  display.functional && display.onGrid &&
    nameHas display.name (Text.lower displayTag.toList)

def canSteer (controller : Controller) : Bool :=
  controller.onGrid && controller.canControlShip

def thrusterIds (ship : Ship) : IdSet :=
  .ofList ((ship.thrusters.filter fun t => t.functional && t.onGrid).map (·.id))

def tankIds (ship : Ship) : IdSet :=
  .ofList ((ship.tanks.filter fun t => t.functional && t.onGrid && t.holdsHydrogen).map (·.id))

def greeting (found : Findings) : List String :=
  "ΔV HUD Loaded" :: found.toggles.echoLines ++
    ["LCD Found: " ++ (found.display.map (·.name)).getD "NOT FOUND",
      "Controller: " ++ (found.controller.map (·.name)).getD "NOT FOUND"]

structure Outcome where
  error : Option Error := none
  found : Findings
  ship : Ship

def Step.run (found : Findings) (ship : Ship) : Step → Outcome
  | .findDisplay =>
    match ship.displays.find? isOurDisplay with
    | some display =>
      { found := { found with display := some display.toDisplayIdentity }, ship := ship }
    | none => { error := some .noDisplay, found := found, ship := ship }
  | .readSettings =>
    let (settings, loaded) := ship.loadSettings
    let known := { found with settings := settings }
    match found.display with
    | some display =>
      { found := known, ship := loaded.styleDisplay display.id settings.style }
    | none => { error := some .settingsBeforeDisplay, found := known, ship := loaded }
  | .recallToggles =>
    { found := { found with toggles := .restore ship.storedState }, ship := ship }
  | .listControllers =>
    { found := { found with candidates := ship.controllers.filter canSteer }, ship := ship }
  | .pickController =>
    match chooseController? found.candidates with
    | some controller =>
      { found := { found with controller := some controller, candidates := [] }, ship := ship }
    | none => { error := some .noController, found := found, ship := ship }
  | .listThrusters =>
    { found := { found with thrusters := thrusterIds ship }, ship := ship }
  | .listTanks => { found := { found with tanks := tankIds ship }, ship := ship }
  | .copyGroups => { found := { found with groups := ship.groups }, ship := ship }
  | .greet => { found := found, ship := (greeting found).foldl Ship.echo ship }

end CockpitHud.Boot
