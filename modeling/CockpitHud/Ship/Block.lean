import CockpitHud.Direction

namespace CockpitHud

structure BlockId where
  number : UInt64
  deriving DecidableEq

structure Color where
  red : UInt8
  green : UInt8
  blue : UInt8
  deriving DecidableEq

def Color.text (color : Color) : List Char :=
  Nat.toDigits 10 color.red.toNat ++ ',' :: Nat.toDigits 10 color.green.toNat ++
    ',' :: Nat.toDigits 10 color.blue.toNat

structure DisplayStyle where
  font : String
  color : Color
  deriving DecidableEq

/-- What tells one display from another. -/
structure DisplayIdentity where
  id : BlockId
  name : String
  functional : Bool := true
  onGrid : Bool := true
  deriving DecidableEq

structure Display extends DisplayIdentity where
  text : String := ""
  /-- A second text, where the overlay's placement line is kept among the player's notes. -/
  customData : String := ""
  style : Option DisplayStyle := none
  deriving DecidableEq

structure Controller where
  id : BlockId
  name : String
  onGrid : Bool := true
  canControlShip : Bool := true
  /-- Someone is sitting in it. -/
  underControl : Bool := false
  isMain : Bool := false
  /-- The way it faces. -/
  forward : Direction := .forward
  deriving DecidableEq

structure Thruster where
  id : BlockId
  model : String
  enabled : Bool := true
  functional : Bool := true
  onGrid : Bool := true
  /-- The way the nozzle points; the push is the other way. -/
  facing : Direction
  /-- Newtons, under the conditions of the moment. -/
  maxThrust : Float
  deriving DecidableEq

def Thruster.push (thruster : Thruster) : Direction :=
  thruster.facing.opposite

structure Tank where
  id : BlockId
  definition : String
  functional : Bool := true
  onGrid : Bool := true
  /-- Liters. -/
  capacity : Float
  filled : Float
  deriving DecidableEq

structure Group where
  name : String
  members : List BlockId
  deriving DecidableEq

inductive CallRate where
  | fast
  | slow
  deriving DecidableEq

/-- Simulation ticks from one call to the next. -/
def CallRate.ticks : CallRate → Nat
  | .fast => 10
  | .slow => 100

end CockpitHud
