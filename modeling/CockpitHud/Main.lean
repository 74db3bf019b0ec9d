import CockpitHud.Scenario.Console

namespace CockpitHud.Scenario.Console

def pause (scenario : Scenario) (run : Run) : Nat :=
  scenario.tickMs * (run.ship.frequency.getD .fast).ticks

abbrev Typing := Task (Except IO.Error String)

/-- Waits for the line for so many milliseconds. -/
partial def await (typing : Typing) (left : Nat) : IO (Option String) := do
  if ← IO.hasFinished typing then
    match typing.get with
    | .ok line => return some line
    | .error _ => return some ""
  else if left = 0 then return none
  else
    IO.sleep (min left 10).toUInt32
    await typing (left - 10)

def print (events : List Event) : IO Unit := do
  let out ← IO.getStdout
  for event in events do out.putStr (shownText event)
  out.flush

/-- Calls without input, to the given number. -/
partial def unattended (scenario : Scenario) (limit : Nat) (run : Run) : IO UInt32 := do
  if limit ≤ run.count then return 0
  IO.sleep (pause scenario run).toUInt32
  let stepped := run.step .timeout
  print stepped.events
  if stepped.error.isSome then return 1
  unattended scenario limit stepped.run

/-- Calls to the end of the input. -/
partial def attended (scenario : Scenario) (input : IO.FS.Stream) (typing : Typing) (run : Run) :
    IO UInt32 := do
  match ← await typing (pause scenario run) with
  | some "" => return 0
  | some line =>
    let stepped := run.step (receipt line.toList)
    print stepped.events
    if stepped.error.isSome then return 1
    attended scenario input (← IO.asTask input.getLine) stepped.run
  | none =>
    let stepped := run.step .timeout
    print stepped.events
    if stepped.error.isSome then return 1
    attended scenario input typing stepped.run

end CockpitHud.Scenario.Console

open CockpitHud.Scenario CockpitHud.Scenario.Console in
def main (args : List String) : IO UInt32 := do
  let path :: _ := args | do
    IO.eprintln "usage: cockpit-hud <scenario>"
    return 1
  let text ← IO.FS.readFile path
  let some scenario := CockpitHud.Scenario.read text | do
    IO.eprintln "the text is no scenario"
    return 1
  let run := Run.start scenario
  match scenario.invocations with
  | some limit => unattended scenario limit run
  | none =>
    let input ← IO.getStdin
    attended scenario input (← IO.asTask input.getLine) run
