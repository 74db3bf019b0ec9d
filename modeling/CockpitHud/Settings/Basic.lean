import CockpitHud.Ship.Block

namespace CockpitHud

def Color.gray (value : UInt8) : Color :=
  ⟨value, value, value⟩

structure Settings where
  /-- The groups to report on, in the order shown. -/
  groupNames : List String := ["All Drives", "Boost", "Efficient", "Braking"]
  /-- The overlay's place across, from -1 at the left to 1 at the right. -/
  anchorX : Float := 0.6
  /-- The overlay's place in height, from -1 at the bottom to 1 at the top. -/
  anchorY : Float := 0.98
  showHeader : Bool := true
  showBorders : Bool := true
  color : Color := .gray 225
  font : String := "Monospace"
  /-- Handed to the overlay as it is. -/
  scale : String := "0.8"
  deriving DecidableEq

namespace Settings

/-- Equality as of numbers: a zero equals its negative, and what is no number equals nothing. -/
def agrees (s t : Settings) : Bool :=
  s.groupNames == t.groupNames && s.anchorX == t.anchorX && s.anchorY == t.anchorY &&
    s.showHeader == t.showHeader && s.showBorders == t.showBorders && s.color == t.color &&
    s.font == t.font && s.scale == t.scale

def style (settings : Settings) : DisplayStyle :=
  ⟨settings.font, settings.color⟩

def sectionName : String := "DeltaV"

inductive Key where
  | groups
  | positionX
  | positionY
  | header
  | color
  | font
  | borders
  | size
  deriving DecidableEq

namespace Key

def all : List Key :=
  [.groups, .positionX, .positionY, .header, .color, .font, .borders, .size]

def name : Key → String
  | .groups => "Groups"
  | .positionX => "HudPositionX"
  | .positionY => "HudPositionY"
  | .header => "ShowHeaderAndSettings"
  | .color => "LcdColor"
  | .font => "LcdFont"
  | .borders => "ShowBorders"
  | .size => "LcdHudSize"

def comment : Key → String
  | .groups => "------- Group Names are seperated by comma --------"
  | .positionX => "------- Value from -1 to 1, -1 is left, 1 is right -------"
  | .positionY => "------- Value from -1 to 1, -1 is bottom, 1 is top -------"
  | .header => "------- True, or False -------"
  | .color => "------- R,G,B -------"
  | .font => "------- Monospace, Debug -------"
  | .borders => "------- True, or False -------"
  | .size => "------- LCD Size (0.5 - 2.0) -------"

end Key

end Settings

end CockpitHud
