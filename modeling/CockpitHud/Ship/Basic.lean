import CockpitHud.Ship.Block

namespace CockpitHud

/-- A ship as the program sees it. Where two blocks share an id, the first in the list is meant. -/
structure Ship where
  displays : List Display := []
  controllers : List Controller := []
  thrusters : List Thruster := []
  tanks : List Tank := []
  groups : List Group := []
  /-- Kilograms. -/
  totalMass : Float
  settingsText : String := ""
  /-- A short text that outlives a restart of the program. -/
  storedState : String := ""
  echoes : List String := []
  frequency : Option CallRate := none
  /-- The number of times a display was written. -/
  writes : Nat := 0
  deriving DecidableEq

def modifyFirst {α : Type} (fits : α → Bool) (change : α → α) : List α → List α
  | [] => []
  | a :: rest => if fits a then change a :: rest else a :: modifyFirst fits change rest

namespace Ship

def display? (ship : Ship) (id : BlockId) : Option Display :=
  ship.displays.find? (·.id = id)

def updateDisplay (ship : Ship) (id : BlockId) (change : Display → Display) : Ship :=
  { ship with displays := modifyFirst (·.id = id) change ship.displays }

def displayText (ship : Ship) (id : BlockId) : String :=
  ((ship.display? id).map (·.text)).getD ""

def customData (ship : Ship) (id : BlockId) : String :=
  ((ship.display? id).map (·.customData)).getD ""

/-- Replaces the text of a display. A write counts even if no display has the id. -/
def writeDisplay (ship : Ship) (id : BlockId) (text : String) : Ship :=
  { ship.updateDisplay id fun display => { display with text := text } with
    writes := ship.writes + 1 }

def setCustomData (ship : Ship) (id : BlockId) (data : String) : Ship :=
  ship.updateDisplay id fun display => { display with customData := data }

def styleDisplay (ship : Ship) (id : BlockId) (style : DisplayStyle) : Ship :=
  ship.updateDisplay id fun display => { display with style := some style }

def echo (ship : Ship) (line : String) : Ship :=
  { ship with echoes := ship.echoes ++ [line] }

/-- The mass as a controller reports it; without the controller there is none. -/
def massAt (ship : Ship) (controller : BlockId) : Float :=
  if ship.controllers.any (·.id = controller) then ship.totalMass else 0.0

def displayWorks (ship : Ship) (id : BlockId) : Bool :=
  ship.displays.any fun display => display.id = id && display.functional

end Ship

end CockpitHud
