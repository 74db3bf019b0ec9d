import CockpitHud.Settings.Document
import CockpitHud.Settings.Value

namespace CockpitHud.Settings

structure Reading where
  settings : Settings
  /-- The text is to be written anew. -/
  isStale : Bool
  deriving DecidableEq

def Reading.default : Reading :=
  ⟨{}, true⟩

abbrev Values := Key → Option (List Char)

def readGroups (values : Values) : List String :=
  match values .groups with
  | some text => Value.readNames text
  | none => ({} : Settings).groupNames

def readNumber (value : Option (List Char)) (missing : Float) : Float :=
  (value.bind Decimal.read).getD missing

def readFlag (value : Option (List Char)) (missing : Bool) : Bool :=
  (value.bind Value.readBool?).getD missing

def readText (value : Option (List Char)) (missing : String) : String :=
  (value.map String.ofList).getD missing

/-- The settings that the values give. A field keeps its default where its value is missing or says
nothing. -/
def ofValues (values : Values) : Settings :=
  let missing : Settings := {}
  { groupNames := readGroups values
    anchorX := readNumber (values .positionX) missing.anchorX
    anchorY := readNumber (values .positionY) missing.anchorY
    showHeader := readFlag (values .header) missing.showHeader
    showBorders := readFlag (values .borders) missing.showBorders
    color := ((values .color).bind Value.readColor?).getD missing.color
    font := readText (values .font) missing.font
    scale := readText (values .size) missing.scale }

def badColor (values : Values) : Bool :=
  (values .color).any fun text => (Value.readColor? text).isNone

def missesKey (values : Values) : Bool :=
  Key.all.any fun key => (values key).isNone

def Section.values (part : Section) : Values :=
  fun key => part.value? key.name.toList

/-- Reads the settings from the first section of ours. A text that is bad or without it, lacks a
key, or has an unreadable color is stale. -/
def read (text : String) : Reading :=
  match Document.read? text.toList with
  | none => .default
  | some sections =>
    match sections.find? (·.hasName sectionName.toList) with
    | none => .default
    | some part => ⟨ofValues part.values, badColor part.values || missesKey part.values⟩

end CockpitHud.Settings
