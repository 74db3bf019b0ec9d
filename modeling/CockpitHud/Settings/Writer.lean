import CockpitHud.Settings.Value

namespace CockpitHud.Settings

def value (settings : Settings) : Key → List Char
  | .groups => Value.writeNames settings.groupNames
  | .positionX => Decimal.plain settings.anchorX
  | .positionY => Decimal.plain settings.anchorY
  | .header => Value.writeBool settings.showHeader
  | .color => settings.color.text
  | .font => settings.font.toList
  | .borders => Value.writeBool settings.showBorders
  | .size => settings.scale.toList

def commentLine (key : Key) : List Char :=
  ';' :: ' ' :: key.comment.toList

def entryLine (settings : Settings) (key : Key) : List Char :=
  key.name.toList ++ '=' :: settings.value key

def headerLine : List Char :=
  '[' :: sectionName.toList ++ [']']

def writtenLines (settings : Settings) : List (List Char) :=
  headerLine :: Key.all.flatMap fun key => [commentLine key, settings.entryLine key]

def write (settings : Settings) : String :=
  String.ofList (settings.writtenLines.flatMap (· ++ ['\n']))

end CockpitHud.Settings
