namespace CockpitHud.Propulsion

def hydrogenDensity : Float := 0.01

structure Model where
  name : String
  /-- Liters per second at full throttle. -/
  consumption : Float
  maneuvering : Bool

def models : List Model := [
  ⟨"ARYLYNX_SILVERSMITH_DRIVE", 1560.0, false⟩,
  ⟨"ARYLNX_QUADRA_Epstein_Drive", 521.74, false⟩,
  ⟨"LargeBlockLargeHydrogenThrust", 2000.0, false⟩,
  ⟨"LargeBlockSmallHydrogenThrust", 388.89, false⟩,
  ⟨"ARYLNX_RAIDER_Epstein_Drive", 1120.0, false⟩,
  ⟨"ARYLNX_DRUMMER_Epstein_Drive", 1750.0, false⟩,
  ⟨"ARYLNX_PNDR_Epstein_Drive", 645.16, false⟩,
  ⟨"ARYLNX_Mega_Epstein_Drive", 4000.0, false⟩,
  ⟨"ARYLNX_Epstein_Drive", 1030.0, false⟩,
  ⟨"ARYLNX_ROCI_Epstein_Drive", 2110.0, false⟩,
  ⟨"ARYLNX_SCIRCOCCO_Epstein_Drive", 3110.0, false⟩,
  ⟨"ARYLNX_MUNR_Epstein_Drive", 833.33, false⟩,
  ⟨"2x2ThrusterZAC", 933.33, false⟩,
  ⟨"Large5x5RocketThruster", 3000.0, false⟩,
  ⟨"LargeTripleThrusterHeat", 1500.0, false⟩,
  ⟨"LargeTripleThrusterHeatNoShroud", 1500.0, false⟩,
  ⟨"LynxRcsThruster1", 156.25, true⟩,
  ⟨"AryxRCSRamp", 156.25, true⟩,
  ⟨"AryxRCSHalfRamp", 156.25, true⟩,
  ⟨"AryxRCSSlant", 156.25, true⟩,
  ⟨"AryxRCS", 156.25, true⟩,
  ⟨"RCS2Bare", 227.27, true⟩,
  ⟨"RCS2Cube", 227.27, true⟩,
  ⟨"RCS2Half", 227.27, true⟩,
  ⟨"RCS2Slope", 227.27, true⟩,
  ⟨"RCS2SlopeTip1", 227.27, true⟩,
  ⟨"RCS2SlopeTip2", 227.27, true⟩,
  ⟨"RCS21x2Slope1", 227.27, true⟩,
  ⟨"RCS21x2Slope2", 227.27, true⟩]

def model? (name : String) : Option Model :=
  models.find? fun model => model.name == name

def consumption? (name : String) : Option Float :=
  (model? name).map (·.consumption)

def isManeuvering (name : String) : Bool :=
  (model? name).any (·.maneuvering)

/-- The consumption of a model that counts: listed, and not a maneuvering thruster while those are
left out. -/
def counted? (name : String) (withManeuvering : Bool) : Option Float :=
  if !withManeuvering && isManeuvering name then none else consumption? name

end CockpitHud.Propulsion
