import CockpitHud.Ship.Basic

namespace CockpitHud

structure Scenario where
  ship : Ship
  /-- Milliseconds in a simulation tick. -/
  tickMs : Nat := 16
  /-- The number of calls; without one the run ends with its input. -/
  invocations : Option Nat := none
  /-- Arguments with the number of the call they are for, in the order given. -/
  commands : List (Nat × String) := []
  deriving DecidableEq

/-- Arguments by the number of their call, in ascending order. -/
abbrev Script := List (Nat × String)

namespace Script

/-- Puts an argument in its place; of two for one call the later given stays. -/
def insert (count : Nat) (argument : String) : Script → Script
  | [] => [(count, argument)]
  | (other, kept) :: rest =>
    if count < other then (count, argument) :: (other, kept) :: rest
    else if count = other then (count, argument) :: rest
    else (other, kept) :: insert count argument rest

def ofList (commands : List (Nat × String)) : Script :=
  commands.foldl (fun script (count, argument) => script.insert count argument) []

def popDue? (count : Nat) : Script → Option (String × Script)
  | [] => none
  | (due, argument) :: rest => if due ≤ count then some (argument, rest) else none

end Script

end CockpitHud
