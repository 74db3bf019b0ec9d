import CockpitHud.Layout.Box
import CockpitHud.Text.Blank
import CockpitHud.Text.LowerCase
import CockpitHud.Text.Pieces

namespace CockpitHud

structure Toggles where
  /-- Maneuvering thrusters count. -/
  maneuvering : Bool := true
  burnTimes : Bool := true
  /-- Burn times for all directions, or else for the controller's forward one alone. -/
  allDirections : Bool := true
  deriving DecidableEq

inductive Switch where
  | maneuvering
  | burnTimes
  | allDirections
  deriving DecidableEq

inductive Command where
  | toggle (switch : Switch)
  /-- Read the settings and the groups again. -/
  | reload
  | noop
  deriving DecidableEq

namespace Command

def words : List (String × Command) := [
  ("rcs", .toggle .maneuvering), ("rcstoggle", .toggle .maneuvering),
  ("togglercs", .toggle .maneuvering),
  ("burn", .toggle .burnTimes), ("time", .toggle .burnTimes), ("burntime", .toggle .burnTimes),
  ("burntimetoggle", .toggle .burnTimes), ("toggleburntime", .toggle .burnTimes),
  ("all", .toggle .allDirections), ("directions", .toggle .allDirections),
  ("alldirections", .toggle .allDirections), ("alldirectionstoggle", .toggle .allDirections),
  ("togglealldirections", .toggle .allDirections),
  ("setup", .reload), ("parseconfig", .reload), ("readconfig", .reload)]

/-- The command that a run argument names, blanks at its ends and the case of its letters put
aside. Any other argument does nothing. -/
def ofArgument (argument : String) : Command :=
  (words.lookup (String.ofList (Text.lower (Text.trim argument.toList)))).getD .noop

end Command

def onOff (value : Bool) : String :=
  if value then "ON" else "OFF"

def allOrForward (value : Bool) : String :=
  if value then "ALL" else "FWD"

namespace Toggles

def get (toggles : Toggles) : Switch → Bool
  | .maneuvering => toggles.maneuvering
  | .burnTimes => toggles.burnTimes
  | .allDirections => toggles.allDirections

def flip (toggles : Toggles) : Switch → Toggles
  | .maneuvering => { toggles with maneuvering := !toggles.maneuvering }
  | .burnTimes => { toggles with burnTimes := !toggles.burnTimes }
  | .allDirections => { toggles with allDirections := !toggles.allDirections }

def event (toggles : Toggles) : Switch → String
  | .maneuvering => "[Toggle] RCS: " ++ onOff toggles.maneuvering
  | .burnTimes => "[Toggle] Burn Times: " ++ onOff toggles.burnTimes
  | .allDirections => "[Toggle] All Directions: " ++ allOrForward toggles.allDirections

def storedBool (value : Bool) : String :=
  if value then "True" else "False"

def store (toggles : Toggles) : String :=
  storedBool toggles.maneuvering ++ ";" ++ storedBool toggles.burnTimes ++ ";" ++
    storedBool toggles.allDirections

/-- A field of the stored text; one that is no truth value keeps the default. -/
def restoreField (field : List Char) (missing : Bool) : Bool :=
  let word := String.ofList (Text.lower (Text.trim field))
  if word = "true" then true else if word = "false" then false else missing

/-- Reads the stored text. A text of other than three fields gives the defaults. -/
def restore (stored : String) : Toggles :=
  match Text.pieces ';' (Text.trim stored.toList) with
  | [a, b, c] => ⟨restoreField a true, restoreField b true, restoreField c true⟩
  | _ => {}

def header (toggles : Toggles) : List Char :=
  "RCS: ".toList ++ Layout.padRight (onOff toggles.maneuvering).toList 3 ++
    "  Burn: ".toList ++ Layout.padRight (onOff toggles.burnTimes).toList 3 ++
    "  Dir: ".toList ++ Layout.padRight (allOrForward toggles.allDirections).toList 3

def echoLines (toggles : Toggles) : List String :=
  ["RCS: " ++ onOff toggles.maneuvering,
    "Burn Times: " ++ onOff toggles.burnTimes,
    "All Directions: " ++ onOff toggles.allDirections]

/-- The toggles after a command, and the event it leaves in the status log, if any. -/
def apply (toggles : Toggles) : Command → Toggles × Option String
  | .toggle switch => (toggles.flip switch, some ((toggles.flip switch).event switch))
  | .reload => (toggles, none)
  | .noop => (toggles, none)

end Toggles

end CockpitHud
