import CockpitHud.Ship.Basic

namespace CockpitHud.Ship

/-- The ids of all blocks, groups having none. -/
def ids (ship : Ship) : List BlockId :=
  ship.displays.map (·.id) ++ ship.controllers.map (·.id) ++ ship.thrusters.map (·.id) ++
    ship.tanks.map (·.id)

/-- The id after the greatest on the ship. -/
def freshId (ship : Ship) : BlockId :=
  match (ship.ids.map (·.number.toNat)).max? with
  | none => ⟨1⟩
  | some greatest => ⟨UInt64.ofNat (greatest + 1)⟩

def addDisplay (ship : Ship) (name : String) : BlockId × Ship :=
  let id := ship.freshId
  (id, { ship with displays := ship.displays ++ [{ id := id, name := name }] })

def addController (ship : Ship) (name : String) (facing : Direction) : BlockId × Ship :=
  let id := ship.freshId
  (id, { ship with
    controllers := ship.controllers ++ [{ id := id, name := name, forward := facing }] })

def addThruster (ship : Ship) (model : String) (facing : Direction) (maxThrust : Float) :
    BlockId × Ship :=
  let id := ship.freshId
  (id, { ship with
    thrusters := ship.thrusters ++
      [{ id := id, model := model, facing := facing, maxThrust := maxThrust }] })

def addTank (ship : Ship) (definition : String) (capacity filled : Float) : BlockId × Ship :=
  let id := ship.freshId
  (id, { ship with
    tanks := ship.tanks ++
      [{ id := id, definition := definition, capacity := capacity, filled := filled }] })

def addGroup (ship : Ship) (name : String) (members : List BlockId) : Ship :=
  { ship with groups := ship.groups ++ [⟨name, members⟩] }

/-- A small ship: two main drives that push forward, a maneuvering thruster that pushes back, a
drive that is in no list of models, and a full hydrogen tank. -/
def sample : Ship where
  displays := [{ id := ⟨1⟩, name := "LCD DeltaV" }, { id := ⟨2⟩, name := "LCD Status" }]
  controllers := [
    { id := ⟨3⟩, name := "Cockpit", isMain := true },
    { id := ⟨4⟩, name := "Helm", underControl := true }]
  thrusters := [
    { id := ⟨5⟩, model := "LargeBlockLargeHydrogenThrust", facing := .backward,
      maxThrust := 5000000.0 },
    { id := ⟨6⟩, model := "LargeBlockLargeHydrogenThrust", facing := .backward,
      maxThrust := 5000000.0 },
    { id := ⟨7⟩, model := "LynxRcsThruster1", facing := .forward, maxThrust := 390625.0 },
    { id := ⟨8⟩, model := "SmallBlockSmallThrust", facing := .backward, maxThrust := 12000.0 }]
  tanks := [
    { id := ⟨9⟩, definition := "LargeHydrogenTank", capacity := 200000.0, filled := 1.0 },
    { id := ⟨10⟩, definition := "LargeOxygenTank", capacity := 100000.0, filled := 1.0 }]
  groups := [
    ⟨"All Drives", [⟨5⟩, ⟨6⟩, ⟨7⟩, ⟨8⟩]⟩,
    ⟨"boost", [⟨5⟩, ⟨6⟩]⟩]
  totalMass := 10000.0

end CockpitHud.Ship
