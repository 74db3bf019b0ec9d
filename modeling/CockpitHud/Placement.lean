import CockpitHud.Decimal.Plain
import CockpitHud.Settings.Basic
import CockpitHud.Ship.Basic
import CockpitHud.Text.Blank
import CockpitHud.Text.LowerCase
import CockpitHud.Text.Pieces
import CockpitHud.Text.Search

namespace CockpitHud.Placement

def mark : List Char := "hudlcd:".toList

def desired (settings : Settings) : List Char :=
  mark ++ Decimal.plain settings.anchorX ++ ':' :: Decimal.plain settings.anchorY ++
    ':' :: settings.scale.toList

def isPlacement (line : List Char) : Bool :=
  Text.startsWith (Text.lower (Text.trim line)) mark

/-- The notes with the placement line set to `line`, or nothing if it is there already. Only the
first such line counts; a missing one goes to the top. -/
def update? (notes line : List Char) : Option (List Char) :=
  let found := Text.lines notes
  match found.findIdx? isPlacement with
  | none => some (Text.join '\n' (line :: found))
  | some i =>
    if (found[i]?).map Text.trim = some (Text.trim line) then none
    else some (Text.join '\n' (found.set i line))

def refresh (ship : Ship) (id : BlockId) (settings : Settings) : Ship :=
  match update? (ship.customData id).toList (desired settings) with
  | some notes => ship.setCustomData id (String.ofList notes)
  | none => ship

end CockpitHud.Placement
