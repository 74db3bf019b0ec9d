import CockpitHud.Propulsion.Model
import CockpitHud.Ship.Block
import CockpitHud.Text.LowerCase
import CockpitHud.Text.Search

namespace CockpitHud

/-- A tank is known for a hydrogen tank by its definition. -/
def Tank.holdsHydrogen (tank : Tank) : Bool :=
  Text.contains (Text.lower tank.definition.toList) "hydrogen".toList

def Tank.fuelMass (tank : Tank) : Float :=
  tank.capacity * tank.filled * Propulsion.hydrogenDensity

/-- The fuel of all tanks, added in order. No tanks hold a negative zero, which adds to nothing. -/
def fuelMass (tanks : List Tank) : Float :=
  tanks.foldl (fun sum tank => sum + tank.fuelMass) (-0.0)

structure MassSample where
  /-- Kilograms, with the fuel. -/
  total : Float
  fuel : Float
  deriving DecidableEq

namespace MassSample

def dry (sample : MassSample) : Float :=
  sample.total - sample.fuel

/-- A sample is usable only with a dry mass above zero and below the whole. -/
def isValid (sample : MassSample) : Bool :=
  0.0 < sample.total ∧ 0.0 < sample.dry ∧ sample.dry < sample.total

def ofTanks (total : Float) (tanks : List Tank) : MassSample :=
  ⟨total, CockpitHud.fuelMass tanks⟩

end MassSample

end CockpitHud
