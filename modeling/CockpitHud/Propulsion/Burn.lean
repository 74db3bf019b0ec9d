import CockpitHud.Logarithm
import CockpitHud.Propulsion.Model

namespace CockpitHud.Propulsion

def massFlow (flow : Float) : Float :=
  flow * hydrogenDensity

/-- Thrust over mass flow, in meters per second. Both must be above zero. -/
def exhaustVelocity? (thrust flow : Float) : Option Float :=
  if thrust ≤ 0.0 ∨ flow ≤ 0.0 ∨ thrust.isNaN ∨ flow.isNaN then none
  else some (thrust / massFlow flow)

/-- The change of velocity between two masses, both above zero and the dry one smaller. -/
def deltaV? (thrust flow wet dry : Float) : Option Float :=
  match exhaustVelocity? thrust flow with
  | none => none
  | some velocity =>
    if 0.0 < wet ∧ 0.0 < dry ∧ dry < wet then some (velocity * logarithm (wet / dry)) else none

def burnTime? (fuel flow : Float) : Option Float :=
  if flow ≤ 0.0 ∨ flow.isNaN then none else some (fuel / massFlow flow)

end CockpitHud.Propulsion
