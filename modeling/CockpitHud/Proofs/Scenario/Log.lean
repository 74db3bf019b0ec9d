import CockpitHud.Proofs.Scenario.Run
import CockpitHud.Proofs.Scenario.Shown

namespace CockpitHud.Scenario

def Event.echo? : Event → Option String
  | .echo line => some line
  | _ => none

section

variable (scenario : Scenario) (receive : Nat → Receipt)

/-- The displays that a call tells of, as they are after it. -/
def toldAt (call : Nat) : List Display :=
  told (scenario.runAt receive call).shown (scenario.runAt receive (call + 1)).ship.displays

def toldBefore (made : Nat) : List Display :=
  (List.range made).flatMap (scenario.toldAt receive)

/-- The events of a scenario tell all that becomes of the ship, and nothing but that. -/
structure FaithfulLog : Prop where
  /-- A call tells the echoed lines first, then the displays, then its error. -/
  events : ∀ call, ∃ lines : List String, (Run.start scenario).sentAt receive call =
    lines.map Event.echo ++ (scenario.toldAt receive call).map Event.ofDisplay ++
      ((Run.start scenario).errorAt receive call).toList.map Event.failed
  /-- All lines echoed so far have been told, each once. -/
  echoes : ∀ made, 0 < made ∨ scenario.ship.echoes = [] →
    ((Run.start scenario).sent receive made).filterMap Event.echo? =
      (scenario.runAt receive made).ship.echoes
  /-- Displays are told of in the ship's order. -/
  in_order : ∀ call,
    (scenario.toldAt receive call).Sublist (scenario.runAt receive (call + 1)).ship.displays
  once : ∀ call, ((scenario.toldAt receive call).map (·.id)).Nodup
  /-- The first call tells of all displays. -/
  first : scenario.toldAt receive 0 = (scenario.runAt receive 1).ship.displays
  /-- What was told last of a display is what it shows. -/
  current : ∀ made, 0 < made → ∀ display ∈ (scenario.runAt receive made).ship.displays,
    (textsOf display.id (scenario.toldBefore receive made)).getLast? = some display.text
  /-- No text is told of a display twice in a row. -/
  minimal : ∀ made id, (textsOf id (scenario.toldBefore receive made)).IsChain (· ≠ ·)
  /-- What is played is what the calls send, up to the one that ends the run. -/
  played : ∀ limit, ∃ made ending,
    Run.play receive limit (Run.start scenario) =
      (Run.start scenario).sent receive made ++ ending ∧
    Run.Ending receive (Run.start scenario) limit made ending ∧ made ≤ limit ∧
    (∀ call < made, receive call ≠ .stop) ∧
    ∀ call, call + 1 < made → (Run.start scenario).errorAt receive call = none

end

variable {scenario : Scenario} {receive : Nat → Receipt}

theorem echo?_lines (lines : List String) :
    (lines.map Event.echo).filterMap Event.echo? = lines := by
  simp [List.filterMap_map, Function.comp_def, Event.echo?]

theorem echo?_displays (displays : List Display) :
    (displays.map Event.ofDisplay).filterMap Event.echo? = [] := by
  simp [Event.ofDisplay, Event.echo?]

theorem echo?_failed (error : Option Boot.Error) :
    (error.toList.map Event.failed).filterMap Event.echo? = [] := by
  simp [Event.echo?]

/-- A call sends the new echoes, the displays it tells of, and its error, in this order. -/
theorem sentAt_eq (scenario : Scenario) (receive : Nat → Receipt) (call : Nat) :
    (Run.start scenario).sentAt receive call =
      ((scenario.runAt receive (call + 1)).ship.echoes.drop
        (scenario.runAt receive call).echoed).map Event.echo ++
      (scenario.toldAt receive call).map Event.ofDisplay ++
      ((Run.start scenario).errorAt receive call).toList.map Event.failed := by
  simp only [toldAt, ← changes_events, Run.sentAt, Run.errorAt, runAt, Run.after_succ]
  exact Run.step_events _ _

theorem echoed_succ (scenario : Scenario) (receive : Nat → Receipt) (call : Nat) :
    (scenario.runAt receive (call + 1)).echoed =
      (scenario.runAt receive (call + 1)).ship.echoes.length := by
  rw [runAt_succ]
  exact Run.step_echoed _ _

theorem echoed_le (scenario : Scenario) (receive : Nat → Receipt) (made : Nat) :
    (scenario.runAt receive made).echoed ≤ (scenario.runAt receive made).ship.echoes.length := by
  cases made with
  | zero => exact Nat.zero_le _
  | succ made => exact Nat.le_of_eq (scenario.echoed_succ receive made)

/-- Echoes are never taken back. -/
theorem echoes_succ (scenario : Scenario) (receive : Nat → Receipt) (call : Nat) :
    (scenario.runAt receive call).ship.echoes <+:
      (scenario.runAt receive (call + 1)).ship.echoes := by
  rw [runAt_succ]
  exact Run.step_echoes _ _

/-- The lines told are those up to the mark. -/
theorem sent_echoes (scenario : Scenario) (receive : Nat → Receipt) (made : Nat) :
    ((Run.start scenario).sent receive made).filterMap Event.echo? =
      (scenario.runAt receive made).ship.echoes.take (scenario.runAt receive made).echoed := by
  induction made with
  | zero => rfl
  | succ made ih =>
    -- what was told before is still the beginning of what is echoed, since the mark lies within it
    obtain ⟨more, hmore⟩ := scenario.echoes_succ receive made
    have hmark := scenario.echoed_le receive made
    rw [Run.sent_succ, sentAt_eq, echoed_succ, List.take_length]
    simp only [List.filterMap_append, ih, echo?_lines, echo?_displays, echo?_failed,
      List.append_nil]
    rw [← hmore, ← List.take_append_of_le_length hmark, List.take_append_drop]

theorem shown_succ (scenario : Scenario) (receive : Nat → Receipt) (call : Nat) :
    (scenario.runAt receive (call + 1)).shown =
      (changes (scenario.runAt receive call).shown
        (scenario.runAt receive (call + 1)).ship.displays).2 := by
  rw [runAt_succ]
  exact Run.step_shown _ _

theorem toldBefore_succ (scenario : Scenario) (receive : Nat → Receipt) (made : Nat) :
    scenario.toldBefore receive (made + 1) =
      scenario.toldBefore receive made ++ scenario.toldAt receive made := by
  simp [toldBefore, List.range_succ]

theorem logged (scenario : Scenario) (receive : Nat → Receipt) (made : Nat) :
    Logged (scenario.runAt receive made).shown (scenario.toldBefore receive made) := by
  induction made with
  | zero => exact ⟨fun _ => rfl, fun _ => .nil⟩
  | succ made ih =>
    rw [shown_succ, toldBefore_succ]
    exact ih.changes _

/-- No scenario changes the blocks of its ship. -/
theorem runAt_sameBlocks (scenario : Scenario) (receive : Nat → Receipt) (call : Nat) :
    Ship.SameBlocks scenario.ship (scenario.runAt receive call).ship := by
  induction call with
  | zero => exact ⟨rfl, rfl, rfl, rfl, rfl, rfl⟩
  | succ call ih =>
    rw [runAt_succ]
    exact ih.trans (Run.step_sameBlocks _ _)

theorem runAt_ids (scenario : Scenario) (receive : Nat → Receipt) (call : Nat) :
    (scenario.runAt receive call).ship.displays.map (·.id) =
      scenario.ship.displays.map (·.id) := by
  have hsame := (scenario.runAt_sameBlocks receive call).displays
  have hids := congrArg (List.map DisplayIdentity.id) hsame
  rw [List.map_map, List.map_map] at hids
  exact hids

/-- Where no two displays share an id, the events of a scenario are a faithful log of its ship. -/
theorem faithful_log (scenario : Scenario) (receive : Nat → Receipt)
    (hids : (scenario.ship.displays.map (·.id)).Nodup) : scenario.FaithfulLog receive := by
  have hnodup : ∀ call, ((scenario.runAt receive call).ship.displays.map (·.id)).Nodup := by
    intro call
    rw [runAt_ids]
    exact hids
  have hsublist : ∀ call,
      (scenario.toldAt receive call).Sublist (scenario.runAt receive (call + 1)).ship.displays :=
    fun call => told_sublist _ _
  refine ⟨?_, ?_, hsublist, ?_, ?_, ?_, ?_, ?_⟩
  · exact fun call => ⟨_, scenario.sentAt_eq receive call⟩
  · intro made hmade
    rw [sent_echoes]
    cases made with
    | zero =>
      have hempty := hmade.resolve_left (Nat.lt_irrefl 0)
      exact hempty.symm
    | succ made => rw [echoed_succ, List.take_length]
  · exact fun call => (hnodup (call + 1)).sublist ((hsublist call).map _)
  · exact told_of_unknown (hnodup 1) fun display _ => rfl
  · intro made hmade display hdisplay
    obtain ⟨call, rfl⟩ := Nat.exists_eq_succ_of_ne_zero (Nat.ne_of_gt hmade)
    rw [← (scenario.logged receive (call + 1)).last, shown_succ]
    exact lookup_changes (hnodup (call + 1)) _ display hdisplay
  · exact fun made => (scenario.logged receive made).changing
  · intro limit
    have hplay := Run.play_eq receive limit (Run.start scenario)
    have hcount : (Run.start scenario).count = 0 := rfl
    simpa only [hcount, Nat.zero_add] using hplay

def pair : Scenario where
  ship := {
    displays := [{ id := ⟨1⟩, name := "LCD DeltaV" }, { id := ⟨2⟩, name := "LCD Cargo" }]
    totalMass := 1000.0 }

/-- Before the program has taken any, both are told of. -/
theorem faithful_log_pair : pair.FaithfulLog (fun _ => .timeout) ∧
    (pair.toldAt (fun _ => .timeout) 0).map (·.name) = ["LCD DeltaV", "LCD Cargo"] := by
  have hlog := pair.faithful_log (fun _ => .timeout) (by decide)
  refine ⟨hlog, ?_⟩
  rw [hlog.first]
  decide

end CockpitHud.Scenario
