import CockpitHud.Scenario.Reader
import CockpitHud.Scenario.Run
import CockpitHud.Text.Blank
import CockpitHud.Text.Pieces

namespace CockpitHud.Scenario.Console

def shownText : Event → String
  | .display name text => "== " ++ name ++ " ==\n" ++ text ++ "\n"
  | .echo line => "> " ++ line ++ "\n"
  | .finished _ => ""
  | .failed _ => ""

structure Outcome where
  failed : Bool
  output : String

/-- The lines typed in. A line feed at the end starts no further line. -/
def typedLines (input : String) : List (List Char) :=
  let found := Text.lines input.toList
  if found.getLast? = some [] then found.dropLast else found

def receipt (line : List Char) : Receipt :=
  .argument (String.ofList (Text.trim line))

def receipts (scenario : Scenario) (input : String) : List Receipt :=
  if scenario.invocations.isSome then [] else (typedLines input).map receipt

/-- Runs the scenario in a text. A text that describes none fails at once. -/
def run (scenarioText input : String) : Outcome :=
  match Scenario.read scenarioText with
  | none => ⟨true, ""⟩
  | some scenario =>
    let events := scenario.play (receipts scenario input) false
    ⟨events.any Event.isFailure, String.join (events.map shownText)⟩

end CockpitHud.Scenario.Console
