import CockpitHud.Proofs.Scenario.Run
import CockpitHud.Proofs.Scenario.Script
import Mathlib.Data.List.Perm.Subperm

namespace CockpitHud.Scenario

section

variable (scenario : Scenario) (receive : Nat → Receipt)

def givenAt (call : Nat) : String :=
  ((scenario.runAt receive call).argument (receive call)).1

end

variable {scenario : Scenario} {receive : Nat → Receipt} {call : Nat} {entry : Nat × String}

/-- A command that is displaced by an argument is passed on by the next call. -/
example :
    let scenario : Scenario := { ship := { totalMass := 0 }, commands := [(0, "rcs"), (0, "burn")] }
    let receive : Nat → Receipt := fun call => if call = 0 then .argument "all" else .timeout
    (scenario.givenAt receive 0, scenario.givenAt receive 1) = ("all", "burn") := by decide

end CockpitHud.Scenario
