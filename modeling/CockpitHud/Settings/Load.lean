import CockpitHud.Settings.Reader
import CockpitHud.Settings.Writer
import CockpitHud.Ship.Basic

namespace CockpitHud.Ship

def loadSettings (ship : Ship) : Settings × Ship :=
  let reading := Settings.read ship.settingsText
  if reading.isStale then
    (reading.settings, { ship with settingsText := reading.settings.write })
  else (reading.settings, ship)

end CockpitHud.Ship
