import CockpitHud.Decimal.Plain
import CockpitHud.Layout.Box
import CockpitHud.Propulsion.Total
import CockpitHud.Settings.Basic
import CockpitHud.Toggles

namespace CockpitHud

structure Report where
  settings : Settings
  toggles : Toggles
  groups : List Propulsion.NamedTotal
  /-- None while burn times are hidden. -/
  directions : Option Propulsion.DirectionTable
  sample : MassSample
  status : List String

namespace Report

def boxWidth : Nat := 34
def nameWidth : Nat := 13
def valueWidth : Nat := 9
def title : String := "ΔV HUD"
def unavailable : String := "ΔV unavailable: bad mass/fuel"
def noGroups : String := "No groups defined in settings"

def side (borders : Bool) : Char :=
  if borders then '║' else ' '

def ruleLine (borders : Bool) (rule : Layout.Rule) : List (List Char) :=
  if borders then [rule.draw boxWidth] else []

def centerLine (borders : Bool) (text : List Char) : List (List Char) :=
  [Layout.center text boxWidth (side borders)]

def leftLine (borders : Bool) (text : List Char) : List (List Char) :=
  [Layout.left text boxWidth (side borders)]

/-- A name, a bar, and a value rounded to a whole number with its unit. -/
def row (name : List Char) (value : Option Float) (unit : List Char) : List Char :=
  ' ' :: Layout.padRight name nameWidth ++ " │ ".toList ++
    (match value with
    | some x => Layout.padLeft (Decimal.whole x) valueWidth ++ ' ' :: unit
    | none => Layout.padLeft "N/a".toList valueWidth ++ ' ' :: Layout.fill unit.length ' ') ++
    [' ']

def unavailableLines (borders : Bool) : List (List Char) :=
  ruleLine borders .top ++ centerLine borders title.toList ++ ruleLine borders .mid ++
    centerLine borders unavailable.toList ++ ruleLine borders .bottom

def groupRow (sample : MassSample) (entry : Propulsion.NamedTotal) : List Char :=
  row entry.name.toList (entry.total.bind fun total => total.deltaV? sample)
    "m/s".toList

def groupLines (borders : Bool) (sample : MassSample) (groups : List Propulsion.NamedTotal) :
    List (List Char) :=
  if groups = [] then centerLine borders noGroups.toList
  else
    centerLine borders "ΔV by Group:".toList ++
      groups.flatMap (fun entry => leftLine borders (groupRow sample entry)) ++
      ruleLine borders .mid

/-- The row of a direction; there is none without a consumption above zero. -/
def directionLine (borders : Bool) (sample : MassSample) (table : Propulsion.DirectionTable)
    (direction : Direction) : List (List Char) :=
  match table.get direction with
  | none => []
  | some total =>
    if total.flow ≤ 0.0 then []
    else leftLine borders
      (row direction.name.toList (total.burnTime? sample) "sec".toList)

def directionLines (borders : Bool) (sample : MassSample) (table : Propulsion.DirectionTable) :
    List (List Char) :=
  ruleLine borders .separator ++ centerLine borders "Burn Times (sec):".toList ++
    ruleLine borders .separator ++ Direction.all.flatMap (directionLine borders sample table)

def headerLines (settings : Settings) (toggles : Toggles) : List (List Char) :=
  if settings.showHeader then centerLine settings.showBorders toggles.header else []

def boxLines (report : Report) : List (List Char) :=
  let borders := report.settings.showBorders
  ruleLine borders .top ++ centerLine borders title.toList ++ ruleLine borders .mid ++
    headerLines report.settings report.toggles ++ ruleLine borders .mid ++
    ruleLine borders .separator ++ groupLines borders report.sample report.groups ++
    (match report.directions with
    | some table => directionLines borders report.sample table
    | none => []) ++
    ruleLine borders .bottom

def written (lines : List (List Char)) : List Char :=
  lines.flatMap (· ++ ['\n'])

def statusBlock (status : List String) : List Char :=
  if status = [] then [] else "\n[Status]\n".toList ++ written (status.map String.toList)

def unavailableText (settings : Settings) : String :=
  String.ofList (written (unavailableLines settings.showBorders))

/-- The whole text. A sample that cannot be used leaves no room for anything else, the status
included. -/
def text (report : Report) : String :=
  if report.sample.isValid then
    String.ofList (written report.boxLines ++ statusBlock report.status)
  else unavailableText report.settings

end Report

end CockpitHud
