import CockpitHud.Boot.Animation
import CockpitHud.Boot.Step

namespace CockpitHud.Boot

def frameLength : Nat := 5

inductive Status where
  | booting
  | done
  deriving DecidableEq

structure Progress where
  position : Position := {}
  /-- Calls since the last frame. -/
  waited : Nat := 0
  /-- Steps that have run. -/
  completed : Nat := 0
  found : Findings := {}
  deriving DecidableEq

structure TickResult where
  result : Except Error Status
  progress : Progress
  ship : Ship

namespace Progress

def stepsRun (progress : Progress) : List Step :=
  Step.all.take progress.completed

def pendingStep? (progress : Progress) : Option Step :=
  Step.all[progress.completed]?

/-- Draws the frame on the display, once that is found. -/
def drawFrame (progress : Progress) (ship : Ship) : Ship :=
  match progress.found.display with
  | some display => ship.writeDisplay display.id progress.position.screen
  | none => ship

def animate (progress : Progress) (ship : Ship) : TickResult :=
  let moved := { progress with position := progress.position.advance }
  let done := moved.position.isOver && moved.completed = Step.all.length
  ⟨.ok (if done then .done else .booting), moved, progress.drawFrame ship⟩

/-- Runs the next step, if one is left, then draws the animation and moves it on. A step that fails
is tried again at the next frame. -/
def runFrame (progress : Progress) (ship : Ship) : TickResult :=
  match progress.pendingStep? with
  | none => progress.animate ship
  | some step =>
    let outcome := step.run progress.found ship
    let current := { progress with found := outcome.found }
    match outcome.error with
    | some error => ⟨.error error, current, outcome.ship⟩
    | none => { current with completed := current.completed + 1 }.animate outcome.ship

/-- One call. Every fifth one is a frame, the others only wait. -/
def tick (progress : Progress) (ship : Ship) : TickResult :=
  if progress.waited + 1 < frameLength then
    ⟨.ok .booting, { progress with waited := progress.waited + 1 }, ship⟩
  else { progress with waited := 0 }.runFrame ship

def finish (progress : Progress) : Except Error Hud :=
  let found := progress.found
  match found.display, found.controller with
  | none, _ => .error .finishedWithoutDisplay
  | some _, none => .error .finishedWithoutController
  | some display, some controller =>
    .ok {
      display := display
      controller := controller
      settings := found.settings
      toggles := found.toggles
      thrusters := found.thrusters
      tanks := found.tanks
      groups := found.groups
      status := [] }

end Progress

end CockpitHud.Boot
