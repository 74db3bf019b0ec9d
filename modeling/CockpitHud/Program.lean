import CockpitHud.Boot.Progress

namespace CockpitHud

inductive Program where
  | booting (progress : Boot.Progress)
  | running (hud : Hud)
  | halted
  deriving DecidableEq

namespace Program

structure TickResult where
  error : Option Boot.Error := none
  program : Program
  ship : Ship

def start (ship : Ship) : Program × Ship :=
  (.booting {}, { ship with frequency := some .fast })

def handOver (progress : Boot.Progress) (ship : Ship) : TickResult :=
  match progress.finish with
  | .error error => { error := some error, program := .halted, ship := ship }
  | .ok hud =>
    let (current, drawn) := hud.tick { ship with frequency := some .slow } .noop
    { program := .running current, ship := drawn }

/-- One call while booting. A failure is echoed, and halts the program for good. -/
def tickBoot (progress : Boot.Progress) (ship : Ship) : TickResult :=
  let ticked := progress.tick ship
  match ticked.result with
  | .error error =>
    { error := some error, program := .halted, ship := ticked.ship.echo error.message }
  | .ok .booting => { program := .booting ticked.progress, ship := ticked.ship }
  | .ok .done => handOver ticked.progress ticked.ship

/-- One call with its run argument, which counts only once the program runs. -/
def tick (program : Program) (ship : Ship) (argument : String) : TickResult :=
  match program with
  | .booting progress => tickBoot progress ship
  | .running hud =>
    let (current, drawn) := hud.tick ship (.ofArgument argument)
    { program := .running current, ship := drawn }
  | .halted => { program := .halted, ship := ship }

end Program

end CockpitHud
