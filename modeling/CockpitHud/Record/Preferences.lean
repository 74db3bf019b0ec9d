import CockpitHud.Record.Value
import CockpitHud.Settings.Basic
import CockpitHud.Toggles

namespace CockpitHud

open Record

namespace Color

def shape : Shape :=
  .record "Color" (.ofList [("r", .unsigned), ("g", .unsigned), ("b", .unsigned)])

def partOfValue? (value : Value) : Option UInt8 :=
  value.asId?.bind fun n => if n < 256 then some n.toUInt8 else none

def ofValue? (value : Value) : Option Color := do
  let red ← value.required "r" partOfValue?
  let green ← value.required "g" partOfValue?
  let blue ← value.required "b" partOfValue?
  return ⟨red, green, blue⟩

end Color

namespace Settings

def shape : Shape :=
  .record "Settings" (.ofList [
    ("group_names", .list .text), ("hud_anchor_x", .decimal), ("hud_anchor_y", .decimal),
    ("show_header_and_settings", .flag), ("show_borders", .flag), ("display_color", Color.shape),
    ("font_name", .text), ("hud_scale", .text)])

def ofValue? (value : Value) : Option Settings := do
  let groupNames ← value.required "group_names" (Value.listOf? Value.asText?)
  let anchorX ← value.required "hud_anchor_x" Value.asFloat?
  let anchorY ← value.required "hud_anchor_y" Value.asFloat?
  let showHeader ← value.required "show_header_and_settings" Value.asFlag?
  let showBorders ← value.required "show_borders" Value.asFlag?
  let color ← value.required "display_color" Color.ofValue?
  let font ← value.required "font_name" Value.asText?
  let scale ← value.required "hud_scale" Value.asText?
  return {
    groupNames := groupNames, anchorX := anchorX, anchorY := anchorY, showHeader := showHeader,
    showBorders := showBorders, color := color, font := font, scale := scale }

end Settings

namespace Toggles

def shape : Shape :=
  .record "RuntimeToggles" (.ofList [
    ("include_maneuvering", .flag), ("show_burn_times", .flag), ("show_all_directions", .flag)])

def ofValue? (value : Value) : Option Toggles := do
  let maneuvering ← value.required "include_maneuvering" Value.asFlag?
  let burnTimes ← value.required "show_burn_times" Value.asFlag?
  let allDirections ← value.required "show_all_directions" Value.asFlag?
  return ⟨maneuvering, burnTimes, allDirections⟩

end Toggles

end CockpitHud
