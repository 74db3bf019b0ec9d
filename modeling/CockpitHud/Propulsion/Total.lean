import CockpitHud.Propulsion.Burn
import CockpitHud.Ship.Mass

namespace CockpitHud.Propulsion

structure Total where
  /-- Newtons. -/
  thrust : Float
  /-- Liters per second. -/
  flow : Float
  contributors : Nat
  deriving DecidableEq

namespace Total

def zero : Total :=
  ⟨0.0, 0.0, 0⟩

def add (total : Total) (thrust flow : Float) : Total :=
  ⟨total.thrust + thrust, total.flow + flow, total.contributors + 1⟩

def addThruster (withManeuvering : Bool) (total : Total) (thruster : Thruster) : Total :=
  match counted? thruster.model withManeuvering with
  | some flow => total.add thruster.maxThrust flow
  | none => total

def deltaV? (total : Total) (sample : MassSample) : Option Float :=
  if total.contributors = 0 then none
  else Propulsion.deltaV? total.thrust total.flow sample.total sample.dry

def burnTime? (total : Total) (sample : MassSample) : Option Float :=
  if total.contributors = 0 then none else Propulsion.burnTime? sample.fuel total.flow

end Total

structure NamedTotal where
  /-- The name as configured. -/
  name : String
  /-- There is none when the ship has no group of this name. -/
  total : Option Total
  deriving DecidableEq

/-- The first group of a name, whatever the case of its letters. -/
def groupNamed? (groups : List Group) (name : String) : Option Group :=
  let wanted := Text.lower name.toList
  groups.find? fun group => Text.lower group.name.toList == wanted

/-- The thrusters by id, the last of equal ids. -/
def readingsById (thrusters : List Thruster) (id : BlockId) : Option Thruster :=
  thrusters.reverse.find? (·.id = id)

/-- The sum over the members of a group in their order, whether switched on or not. A member without
a reading is passed over. -/
def groupTotal (readings : BlockId → Option Thruster) (withManeuvering : Bool)
    (members : List BlockId) : Total :=
  (members.filterMap readings).foldl (Total.addThruster withManeuvering) .zero

def groupTotals (names : List String) (groups : List Group) (readings : BlockId → Option Thruster)
    (withManeuvering : Bool) : List NamedTotal :=
  names.map fun name =>
    ⟨name, (groupNamed? groups name).map fun group =>
      groupTotal readings withManeuvering group.members⟩

/-- The sums by the way the ship is pushed. A direction without an entry is not shown. -/
abbrev DirectionTable := PerDirection (Option Total)

/-- Adds a thruster to the direction it pushes in, if it is switched on, its model counts, and that
direction is wanted. -/
def addByPush (withManeuvering allDirections : Bool) (ahead : Direction)
    (table : DirectionTable) (thruster : Thruster) : DirectionTable :=
  if thruster.enabled then
    match counted? thruster.model withManeuvering with
    | none => table
    | some flow =>
      if !allDirections && thruster.push ≠ ahead then table
      else table.modify thruster.push fun entry =>
        entry.map fun total => total.add thruster.maxThrust flow
  else table

def directionTotals (thrusters : List Thruster) (withManeuvering allDirections : Bool)
    (ahead : Direction) : DirectionTable :=
  thrusters.foldl (addByPush withManeuvering allDirections ahead)
    (.replicate (some .zero))

end CockpitHud.Propulsion
