import CockpitHud.Program
import CockpitHud.Scenario.Basic

namespace CockpitHud.Scenario

inductive Event where
  | display (name text : String)
  | echo (line : String)
  | finished (count : Nat)
  | failed (error : Boot.Error)
  deriving DecidableEq

def Event.isFailure : Event → Bool
  | .failed _ => true
  | _ => false

inductive Receipt where
  | argument (text : String)
  /-- Nothing in the time of a call. -/
  | timeout
  /-- Nothing any more. -/
  | stop
  deriving DecidableEq

/-- Display texts by id, as they were last told. -/
abbrev Shown := List (BlockId × String)

def Shown.remember (shown : Shown) (id : BlockId) (text : String) : Shown :=
  (id, text) :: shown.filter (·.1 ≠ id)

structure Run where
  ship : Ship
  program : Program
  script : Script
  shown : Shown := []
  /-- Echoed lines told so far. -/
  echoed : Nat := 0
  /-- Calls made so far. -/
  count : Nat := 0

/-- The events for the displays whose text is not the one last told, in the ship's order. -/
def changes (shown : Shown) : List Display → List Event × Shown
  | [] => ([], shown)
  | display :: rest =>
    if shown.lookup display.id = some display.text then changes shown rest
    else
      let (events, after) := changes (shown.remember display.id display.text) rest
      (.display display.name display.text :: events, after)

namespace Run

def start (scenario : Scenario) : Run :=
  let (program, ship) := Program.start scenario.ship
  { ship := ship, program := program, script := .ofList scenario.commands }

/-- The argument of a call, and the run with the script that is left. An argument that comes in
leaves the script as it is, so that what was due waits for the next call. -/
def argument (run : Run) : Receipt → String × Run
  | .argument text => (text, run)
  | _ =>
    match run.script.popDue? run.count with
    | some (text, rest) => (text, { run with script := rest })
    | none => ("", run)

structure Step where
  run : Run
  events : List Event
  error : Option Boot.Error

/-- One call: echoes first, then displays, then the error. -/
def call (run : Run) (text : String) : Step :=
  let ticked := run.program.tick run.ship text
  let echoes := (ticked.ship.echoes.drop run.echoed).map Event.echo
  let (displays, shown) := changes run.shown ticked.ship.displays
  { run := { run with
      ship := ticked.ship
      program := ticked.program
      shown := shown
      echoed := ticked.ship.echoes.length
      count := run.count + 1 }
    events := echoes ++ displays ++ ticked.error.toList.map Event.failed
    error := ticked.error }

def step (run : Run) (receipt : Receipt) : Step :=
  let (text, current) := run.argument receipt
  current.call text

def play (receive : Nat → Receipt) : Nat → Run → List Event
  | 0, run => [.finished run.count]
  | remaining + 1, run =>
    if receive run.count = .stop then []
    else
      let stepped := run.step (receive run.count)
      if stepped.error.isSome then stepped.events
      else stepped.events ++ play receive remaining stepped.run

end Run

/-- Plays a scenario with the given receipts. Behind them nothing comes in: calls time out, or the
input is closed. Without a number of calls the run ends with the receipts. -/
def play (scenario : Scenario) (receipts : List Receipt) (closed : Bool) : List Event :=
  match scenario.invocations with
  | some limit =>
    (Run.start scenario).play
      (fun count => receipts[count]?.getD (if closed then .stop else .timeout)) limit
  | none =>
    (Run.start scenario).play (fun count => receipts[count]?.getD .stop) (receipts.length + 1)

end CockpitHud.Scenario
