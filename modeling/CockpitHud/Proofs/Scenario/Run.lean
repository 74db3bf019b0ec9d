import CockpitHud.Proofs.Boot.Footprint
import CockpitHud.Proofs.Hud.Footprint
import CockpitHud.Proofs.Program
import CockpitHud.Scenario.Run

namespace CockpitHud

namespace Program

variable {progress : Boot.Progress} {ship : Ship} {booted : TickResult}

theorem Booted.echoes (h : Booted progress ship booted) : ship.echoes <+: booted.ship.echoes := by
  have hticked : ship.echoes <+: (progress.tick ship).ship.echoes :=
    ⟨_, (progress.tick_ticked ship).marks.echoes.symm⟩
  cases h with
  | fail error failed => exact hticked.trans (List.prefix_append _ _)
  | wait unfinished => exact hticked
  | lack error done lacking => exact hticked
  | report hud done finished =>
    rw [hud.tick_echoes]
    exact hticked

/-- What was echoed stays. -/
theorem tick_echoes (program : Program) (ship : Ship) (argument : String) :
    ship.echoes <+: (program.tick ship argument).ship.echoes := by
  cases program with
  | booting progress => exact (tickBoot_booted progress ship).echoes
  | running hud =>
    rw [tick_running, hud.tick_echoes]
  | halted => exact List.prefix_rfl

end Program

namespace Scenario

def Receipt.argument? : Receipt → Option String
  | .argument text => some text
  | .timeout => none
  | .stop => none

namespace Run

variable {receive : Nat → Receipt} {run : Run} {receipt : Receipt}

/-- The command of the script that a call passes on. -/
def taken? (run : Run) (receipt : Receipt) : Option (Nat × String) :=
  if receipt.argument?.isSome then none
  else run.script.head?.filter fun entry => entry.1 ≤ run.count

/-- What a call passes on, and what becomes of the script. -/
inductive Passes (run : Run) : Receipt → Option (Nat × String) → String × Run → Prop
  | live (text : String) : Passes run (.argument text) none (text, run)
  | scripted {receipt : Receipt} {entry : Nat × String} {rest : Script}
      (free : receipt.argument? = none) (first : run.script = entry :: rest)
      (due : entry.1 ≤ run.count) :
      Passes run receipt (some entry) (entry.2, { run with script := rest })
  | nothing {receipt : Receipt} (free : receipt.argument? = none)
      (early : ∀ entry ∈ run.script.head?, run.count < entry.1) :
      Passes run receipt none ("", run)

theorem argument_of_free (h : receipt.argument? = none) (run : Run) :
    run.argument receipt =
      match run.script.popDue? run.count with
      | some (text, rest) => (text, { run with script := rest })
      | none => ("", run) := by
  cases receipt with
  | argument text => contradiction
  | timeout => rfl
  | stop => rfl

/-- Each call passes on what has come in, or else the command that is due. -/
theorem passes (run : Run) (receipt : Receipt) :
    Passes run receipt (run.taken? receipt) (run.argument receipt) := by
  cases hfree : receipt.argument? with
  | some text =>
    cases receipt with
    | argument live => exact .live live
    | timeout | stop => contradiction
  | none =>
    rw [argument_of_free hfree]
    simp only [taken?, hfree]
    cases hscript : run.script with
    | nil =>
      refine .nothing hfree ?_
      simp [hscript]
    | cons entry rest =>
      obtain ⟨due, text⟩ := entry
      by_cases hdue : due ≤ run.count
      · simp only [Script.popDue?, hdue, if_true, List.head?_cons, Option.filter_some]
        exact .scripted hfree hscript hdue
      · have hearly : Option.filter (fun entry => decide (entry.1 ≤ run.count))
            (some (due, text)) = none := by simpa using hdue
        simp only [Script.popDue?, hdue, if_false, List.head?_cons, hearly]
        refine .nothing hfree ?_
        simp [hscript, Nat.lt_of_not_le hdue]

/-- Passing on an argument touches the script alone. -/
theorem argument_frame (run : Run) (receipt : Receipt) :
    (run.argument receipt).2 = { run with script := (run.argument receipt).2.script } := by
  have hpasses := run.passes receipt
  generalize run.argument receipt = given at hpasses
  generalize run.taken? receipt = taken at hpasses
  cases hpasses <;> rfl

/-- A call passes an argument to the program, and apart from the script the run is as it was. -/
theorem step_eq (run : Run) (receipt : Receipt) :
    run.step receipt = { run with script := (run.argument receipt).2.script }.call
      (run.argument receipt).1 := by
  rw [← argument_frame]
  rfl

/-- What a call sends: the lines echoed since the last one, the displays that changed, and the error
in which it ends. -/
theorem step_events (run : Run) (receipt : Receipt) :
    (run.step receipt).events =
      ((run.step receipt).run.ship.echoes.drop run.echoed).map Event.echo ++
        (changes run.shown (run.step receipt).run.ship.displays).1 ++
        (run.step receipt).error.toList.map Event.failed := by
  rw [step_eq]
  rfl

theorem step_shown (run : Run) (receipt : Receipt) :
    (run.step receipt).run.shown =
      (changes run.shown (run.step receipt).run.ship.displays).2 := by
  rw [step_eq]
  rfl

theorem step_echoed (run : Run) (receipt : Receipt) :
    (run.step receipt).run.echoed = (run.step receipt).run.ship.echoes.length := by
  rw [step_eq]
  rfl

theorem step_echoes (run : Run) (receipt : Receipt) :
    run.ship.echoes <+: (run.step receipt).run.ship.echoes := by
  rw [step_eq]
  exact run.program.tick_echoes run.ship _

/-- A call leaves the blocks of the ship alone. -/
theorem step_sameBlocks (run : Run) (receipt : Receipt) :
    Ship.SameBlocks run.ship (run.step receipt).run.ship := by
  rw [step_eq]
  exact run.program.tick_sameBlocks run.ship _

def next (receive : Nat → Receipt) (run : Run) : Step :=
  run.step (receive run.count)

def after (receive : Nat → Receipt) (run : Run) (made : Nat) : Run :=
  (fun current => (current.next receive).run)^[made] run

def sentAt (receive : Nat → Receipt) (run : Run) (call : Nat) : List Event :=
  ((run.after receive call).next receive).events

def sent (receive : Nat → Receipt) (run : Run) (made : Nat) : List Event :=
  (List.range made).flatMap (run.sentAt receive)

def errorAt (receive : Nat → Receipt) (run : Run) (call : Nat) : Option Boot.Error :=
  ((run.after receive call).next receive).error

theorem after_succ (receive : Nat → Receipt) (run : Run) (made : Nat) :
    run.after receive (made + 1) = ((run.after receive made).next receive).run :=
  Function.iterate_succ_apply' _ _ _

theorem after_next (receive : Nat → Receipt) (run : Run) (made : Nat) :
    (run.next receive).run.after receive made = run.after receive (made + 1) :=
  (Function.iterate_succ_apply _ _ _).symm

theorem next_count (receive : Nat → Receipt) (run : Run) :
    (run.next receive).run.count = run.count + 1 := by
  rw [next, step_eq]
  rfl

theorem after_count (receive : Nat → Receipt) (run : Run) (made : Nat) :
    (run.after receive made).count = run.count + made := by
  induction made with
  | zero => rfl
  | succ made ih => rw [after_succ, next_count, ih, Nat.add_assoc]

theorem sent_succ (receive : Nat → Receipt) (run : Run) (made : Nat) :
    run.sent receive (made + 1) = run.sent receive made ++ run.sentAt receive made := by
  simp [sent, List.range_succ]

theorem sent_next (receive : Nat → Receipt) (run : Run) (made : Nat) :
    run.sent receive (made + 1) =
      (run.next receive).events ++ (run.next receive).run.sent receive made := by
  have hrest : (run.next receive).run.sentAt receive =
      fun call => run.sentAt receive (call + 1) := by
    funext call
    rw [sentAt, after_next, sentAt]
  simp only [sent, List.range_succ_eq_map, List.flatMap_cons, List.flatMap_map, hrest]
  rfl

theorem play_succ {receive : Nat → Receipt} {run : Run} (hopen : receive run.count ≠ .stop)
    (limit : Nat) :
    play receive (limit + 1) run =
      if (run.next receive).error.isSome then (run.next receive).events
      else (run.next receive).events ++ play receive limit (run.next receive).run := by
  rw [play, if_neg hopen]
  rfl

/-- How a run ends behind its last call: at its limit, for want of input, or by an error. -/
inductive Ending (receive : Nat → Receipt) (run : Run) (limit made : Nat) : List Event → Prop
  | finished (last : made = limit) : Ending receive run limit made [.finished (run.count + made)]
  | stopped (early : made < limit) (closed : receive (run.count + made) = .stop) :
      Ending receive run limit made []
  | failed (call : Nat) (last : made = call + 1) (failed : (run.errorAt receive call).isSome) :
      Ending receive run limit made []

theorem errorAt_zero (receive : Nat → Receipt) (run : Run) :
    run.errorAt receive 0 = (run.next receive).error := rfl

theorem errorAt_next (receive : Nat → Receipt) (run : Run) (call : Nat) :
    (run.next receive).run.errorAt receive call = run.errorAt receive (call + 1) := by
  rw [errorAt, after_next, errorAt]

theorem Ending.of_next {limit made : Nat} {ending : List Event}
    (h : Ending receive (run.next receive).run limit made ending) :
    Ending receive run (limit + 1) (made + 1) ending := by
  have hcount : (run.next receive).run.count + made = run.count + (made + 1) := by
    rw [next_count]
    omega
  cases h with
  | finished last =>
    rw [hcount]
    exact .finished (congrArg (· + 1) last)
  | stopped early closed => exact .stopped (Nat.succ_lt_succ early) (hcount ▸ closed)
  | failed call last failed =>
    exact .failed (call + 1) (congrArg (· + 1) last) (errorAt_next receive run call ▸ failed)

/-- What is played is what the calls send, each of which got something or timed out and all of which
but the last went well. -/
theorem play_eq (receive : Nat → Receipt) (limit : Nat) (run : Run) :
    ∃ made ending, play receive limit run = run.sent receive made ++ ending ∧
      Ending receive run limit made ending ∧ made ≤ limit ∧
      (∀ call < made, receive (run.count + call) ≠ .stop) ∧
      ∀ call, call + 1 < made → run.errorAt receive call = none := by
  induction limit generalizing run with
  | zero => exact ⟨0, _, rfl, .finished rfl, Nat.le_refl 0, nofun, nofun⟩
  | succ limit ih =>
    by_cases hstop : receive run.count = .stop
    · refine ⟨0, [], ?_, .stopped (Nat.succ_pos limit) hstop, Nat.zero_le _, nofun, nofun⟩
      rw [play, if_pos hstop]
      rfl
    · have hopen : ∀ call, call = 0 → receive (run.count + call) ≠ .stop := by
        rintro call rfl
        exact hstop
      rw [play_succ hstop]
      split
      · rename_i herror
        refine ⟨1, [], ?_, .failed 0 rfl herror, by omega, fun call hcall => hopen call (by omega),
          fun call hcall => by omega⟩
        rw [sent_next, List.append_nil]
        exact (List.append_nil _).symm
      · rename_i herror
        obtain ⟨made, ending, hrest, hending, hmade, hlater, hwell⟩ := ih (run.next receive).run
        refine ⟨made + 1, ending, ?_, hending.of_next, Nat.succ_le_succ hmade, ?_, ?_⟩
        · rw [hrest, sent_next, List.append_assoc]
        · intro call hcall
          cases call with
          | zero => exact hstop
          | succ call =>
            have hnext := hlater call (Nat.lt_of_succ_lt_succ hcall)
            rwa [next_count, Nat.add_assoc, Nat.add_comm 1] at hnext
        · intro call hcall
          cases call with
          | zero => exact Option.not_isSome_iff_eq_none.mp herror
          | succ call =>
            rw [← errorAt_next]
            exact hwell call (Nat.lt_of_succ_lt_succ hcall)

end Run

/-- The run before a call; calls are counted from zero. -/
def runAt (scenario : Scenario) (receive : Nat → Receipt) (call : Nat) : Run :=
  (Run.start scenario).after receive call

theorem runAt_count (scenario : Scenario) (receive : Nat → Receipt) (call : Nat) :
    (scenario.runAt receive call).count = call := by
  rw [runAt, Run.after_count]
  exact Nat.zero_add call

theorem runAt_succ (scenario : Scenario) (receive : Nat → Receipt) (call : Nat) :
    scenario.runAt receive (call + 1) =
      ((scenario.runAt receive call).step (receive call)).run := by
  have hcount := scenario.runAt_count receive call
  rw [runAt, Run.after_succ, Run.next, ← runAt, hcount]

end Scenario

end CockpitHud
