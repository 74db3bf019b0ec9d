import CockpitHud.Record.Reader
import CockpitHud.Scenario.Basic

namespace CockpitHud

open Record

def BlockId.ofValue? (value : Value) : Option BlockId :=
  value.asId?.map BlockId.mk

def Direction.ofValue? (value : Value) : Option Direction :=
  value.asText?.bind Direction.ofName?

def directionShape : Shape :=
  .word (Direction.all.map Direction.name)

namespace Display

def shape : Shape :=
  .record "MemoryDisplay" (.ofList [
    ("id", .unsigned), ("name", .text), ("functional", .flag), ("on_grid", .flag),
    ("text", .text), ("custom_data", .text)])

def ofValue? (value : Value) : Option Display := do
  let id ← value.required "id" BlockId.ofValue?
  let name ← value.required "name" Value.asText?
  let functional ← value.optional "functional" Value.asFlag? true
  let onGrid ← value.optional "on_grid" Value.asFlag? true
  let text ← value.optional "text" Value.asText? ""
  let customData ← value.optional "custom_data" Value.asText? ""
  return {
    id := id, name := name, functional := functional, onGrid := onGrid, text := text,
    customData := customData }

end Display

namespace Controller

def shape : Shape :=
  .record "ControllerInfo" (.ofList [
    ("id", .unsigned), ("name", .text), ("on_grid", .flag), ("can_control_ship", .flag),
    ("under_control", .flag), ("is_main", .flag), ("forward", directionShape)])

def ofValue? (value : Value) : Option Controller := do
  let id ← value.required "id" BlockId.ofValue?
  let name ← value.required "name" Value.asText?
  let onGrid ← value.optional "on_grid" Value.asFlag? true
  let canControlShip ← value.optional "can_control_ship" Value.asFlag? true
  let underControl ← value.optional "under_control" Value.asFlag? false
  let isMain ← value.optional "is_main" Value.asFlag? false
  let facing ← value.optional "forward" Direction.ofValue? .forward
  return {
    id := id, name := name, onGrid := onGrid, canControlShip := canControlShip,
    underControl := underControl, isMain := isMain, forward := facing }

end Controller

namespace Thruster

def shape : Shape :=
  .record "ActuatorReading" (.ofList [
    ("id", .unsigned), ("model_id", .text), ("enabled", .flag), ("functional", .flag),
    ("on_grid", .flag), ("facing", directionShape), ("max_thrust_n", .decimal)])

def ofValue? (value : Value) : Option Thruster := do
  let id ← value.required "id" BlockId.ofValue?
  let model ← value.required "model_id" Value.asText?
  let enabled ← value.optional "enabled" Value.asFlag? true
  let functional ← value.optional "functional" Value.asFlag? true
  let onGrid ← value.optional "on_grid" Value.asFlag? true
  let facing ← value.required "facing" Direction.ofValue?
  let maxThrust ← value.required "max_thrust_n" Value.asFloat?
  return {
    id := id, model := model, enabled := enabled, functional := functional, onGrid := onGrid,
    facing := facing, maxThrust := maxThrust }

end Thruster

namespace Tank

def shape : Shape :=
  .record "TankReading" (.ofList [
    ("id", .unsigned), ("definition_name", .text), ("functional", .flag), ("on_grid", .flag),
    ("capacity_l", .decimal), ("filled_ratio", .decimal)])

def ofValue? (value : Value) : Option Tank := do
  let id ← value.required "id" BlockId.ofValue?
  let definition ← value.required "definition_name" Value.asText?
  let functional ← value.optional "functional" Value.asFlag? true
  let onGrid ← value.optional "on_grid" Value.asFlag? true
  let capacity ← value.required "capacity_l" Value.asFloat?
  let filled ← value.required "filled_ratio" Value.asFloat?
  return {
    id := id, definition := definition, functional := functional, onGrid := onGrid,
    capacity := capacity, filled := filled }

end Tank

namespace Group

def shape : Shape :=
  .record "TerminalGroup" (.ofList [("name", .text), ("members", .list .unsigned)])

def ofValue? (value : Value) : Option Group := do
  let name ← value.required "name" Value.asText?
  let members ← value.required "members" (Value.listOf? BlockId.ofValue?)
  return ⟨name, members⟩

end Group

namespace Ship

def shape : Shape :=
  .record "MemoryHost" (.ofList [
    ("displays", .list Display.shape), ("controllers", .list Controller.shape),
    ("actuators", .list Thruster.shape), ("tanks", .list Tank.shape),
    ("groups", .list Group.shape), ("total_mass_kg", .decimal), ("settings_blob", .text),
    ("stored_state", .text)])

def ofValue? (value : Value) : Option Ship := do
  let displays ← value.optional "displays" (Value.listOf? Display.ofValue?) []
  let controllers ← value.optional "controllers" (Value.listOf? Controller.ofValue?) []
  let thrusters ← value.optional "actuators" (Value.listOf? Thruster.ofValue?) []
  let tanks ← value.optional "tanks" (Value.listOf? Tank.ofValue?) []
  let groups ← value.optional "groups" (Value.listOf? Group.ofValue?) []
  let totalMass ← value.required "total_mass_kg" Value.asFloat?
  let settingsText ← value.optional "settings_blob" Value.asText? ""
  let storedState ← value.optional "stored_state" Value.asText? ""
  return {
    displays := displays, controllers := controllers, thrusters := thrusters, tanks := tanks,
    groups := groups, totalMass := totalMass, settingsText := settingsText,
    storedState := storedState }

end Ship

namespace Scenario

def commandShape : Shape :=
  .pair .unsigned .text

def commandOfValue? (value : Value) : Option (Nat × String) :=
  match value.asList? with
  | some [count, argument] => do
    let count ← count.asId?
    let argument ← argument.asText?
    return (count.toNat, argument)
  | _ => none

def invocationsOfValue? (value : Value) : Option (Option Nat) :=
  value.asOptional?.bind fun
    | none => some none
    | some count => count.asId?.map fun n => some n.toNat

def shape : Shape :=
  .record "Scenario" (.ofList [
    ("host", Ship.shape), ("tick_ms", .unsigned), ("invocations", .optional .unsigned),
    ("commands", .list commandShape)])

def ofValue? (value : Value) : Option Scenario := do
  let ship ← value.required "host" Ship.ofValue?
  let tickMs ← value.optional "tick_ms" Value.asId? 16
  let invocations ← value.optional "invocations" invocationsOfValue? none
  let commands ← value.optional "commands" (Value.listOf? commandOfValue?) []
  return { ship := ship, tickMs := tickMs.toNat, invocations := invocations, commands := commands }

def read (text : String) : Option Scenario :=
  (Reader.document shape text).bind ofValue?

end Scenario

end CockpitHud
