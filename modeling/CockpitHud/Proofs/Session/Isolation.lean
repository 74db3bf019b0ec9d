import CockpitHud.Proofs.Hud.Isolation
import CockpitHud.Proofs.Session.Basic
import CockpitHud.Ship.Build

namespace CockpitHud

namespace Session

variable {hud : Hud} {ship other : Ship} {calls others : List Call}

theorem shipAt_cons (session : Session) (next : Call) (rest : List Call) (number : Nat) :
    session.shipAt (next :: rest) (number + 2) = (session.call next).shipAt rest (number + 1) :=
  rfl

/-- Two runs of a display with the same commands, none of them a reload. Each call of the one finds
a ship that the display cannot tell from what the same call of the other finds. -/
structure SameRuns (hud : Hud) (ship other : Ship) (calls others : List Call) : Prop where
  commands : others.map Call.command = calls.map Call.command
  noReload : ∀ next ∈ calls, next.command ≠ .reload
  views : ∀ made < calls.length,
    hud.SameView ((Session.mk (.running hud) ship).shipAt calls (made + 1))
      ((Session.mk (.running hud) other).shipAt others (made + 1))

/-- The first call shows the same in both runs. -/
theorem SameRuns.head {next again : Call} {rest tail : List Call}
    (h : SameRuns hud ship other (next :: rest) (again :: tail)) :
    again.command = next.command ∧ next.command ≠ .reload ∧
      hud.SameView (next.edit ship) (again.edit other) :=
  ⟨(List.cons.inj h.commands).1, h.noReload next List.mem_cons_self,
    h.views 0 (Nat.zero_lt_succ _)⟩

theorem SameRuns.call {next again : Call} {rest tail : List Call}
    (h : SameRuns hud ship other (next :: rest) (again :: tail)) :
    (Session.mk (.running hud) other).call again =
      ⟨.running (hud.tick (next.edit ship) next.command).1,
        (hud.tick (again.edit other) again.command).2⟩ := by
  obtain ⟨hcommand, hnoReload, hview⟩ := h.head
  rw [call_running, hcommand, hview.tick hnoReload]

/-- After the first call the runs go on with one display. -/
theorem SameRuns.tail {next again : Call} {rest tail : List Call}
    (h : SameRuns hud ship other (next :: rest) (again :: tail)) :
    SameRuns (hud.tick (next.edit ship) next.command).1 (hud.tick (next.edit ship) next.command).2
      (hud.tick (again.edit other) again.command).2 rest tail := by
  refine ⟨(List.cons.inj h.commands).2, ?_, ?_⟩
  · exact fun later hlater => h.noReload later (.tail next hlater)
  · intro made hmade
    have hviews := h.views (made + 1) (Nat.succ_lt_succ hmade)
    rw [shipAt_cons, shipAt_cons, h.call, call_running] at hviews
    exact hviews.of_tick h.head.2.1

/-- A display that is told nothing different shows nothing different. -/
theorem SameRuns.run (h : SameRuns hud ship other calls others) :
    (Session.mk (.running hud) other).collect textsAt others =
        (Session.mk (.running hud) ship).collect textsAt calls ∧
      ((Session.mk (.running hud) other).run others).program =
        ((Session.mk (.running hud) ship).run calls).program := by
  -- along the calls: the display changes from one to the next, in both runs alike
  induction calls generalizing hud ship other others with
  | nil =>
    have hnone := List.map_eq_nil_iff.mp h.commands
    subst hnone
    exact ⟨rfl, rfl⟩
  | cons next rest ih =>
    obtain ⟨again, tail, rfl, _⟩ := List.map_eq_cons_iff.mp h.commands
    obtain ⟨hcommand, hnoReload, hview⟩ := h.head
    obtain ⟨hcollect, hprogram⟩ := ih h.tail
    have htexts : (Session.mk (.running hud) other).textsAt again =
        (Session.mk (.running hud) ship).textsAt next := by
      rw [textsAt_running, textsAt_running, hcommand, hview.written hnoReload]
    constructor
    · change Session.textsAt _ again ++ ((Session.mk (.running hud) other).call again).collect _ _ =
        Session.textsAt _ next ++ ((Session.mk (.running hud) ship).call next).collect _ _
      rw [htexts, h.call, call_running, hcollect]
    · change (((Session.mk (.running hud) other).call again).run tail).program =
        (((Session.mk (.running hud) ship).call next).run rest).program
      rw [h.call, call_running, hprogram]

/-- Ships that look alike and are then left to the program go on looking alike. -/
theorem sameRuns_undisturbed {arguments : List String} (h : hud.SameView ship other)
    (hnoReload : ∀ argument ∈ arguments, Command.ofArgument argument ≠ .reload) :
    SameRuns hud ship other (undisturbed arguments) (undisturbed arguments) := by
  refine ⟨rfl, ?_, ?_⟩
  · intro next hnext
    obtain ⟨argument, hargument, rfl⟩ := List.mem_map.mp hnext
    exact hnoReload argument hargument
  · intro made _
    rw [shipAt_undisturbed, shipAt_undisturbed]
    exact h.of_sameBlocks (run_undisturbed_sameBlocks ⟨.running hud, ship⟩ _)
      (run_undisturbed_sameBlocks ⟨.running hud, other⟩ _)

/-- Reports are isolated from all that a display does not look at. A call that is no reload writes
the same texts on ships that the display cannot tell apart, and leaves the same display; so do all
calls together of runs without a reload, whatever becomes of the rest of the ship meanwhile. -/
theorem reports_isolated (hud : Hud) :
    (∀ (ship other : Ship) (command : Command), hud.SameView ship other → command ≠ .reload →
      (∃ texts, hud.Writes ship command texts ∧ hud.Writes other command texts) ∧
        (hud.tick other command).1 = (hud.tick ship command).1) ∧
      ∀ (ship other : Ship) (calls others : List Call), SameRuns hud ship other calls others →
        (Session.mk (.running hud) other).collect textsAt others =
            (Session.mk (.running hud) ship).collect textsAt calls ∧
          ((Session.mk (.running hud) other).run others).program =
            ((Session.mk (.running hud) ship).run calls).program := by
  refine ⟨?_, fun ship other calls others h => h.run⟩
  intro ship other command hview hcommand
  have hother := hud.writes_written other command
  rw [hview.written hcommand] at hother
  exact ⟨⟨hud.written ship command, hud.writes_written ship command, hother⟩, hview.tick hcommand⟩

def knowing : Hud where
  display := { id := ⟨1⟩, name := "LCD DeltaV" }
  controller := { id := ⟨4⟩, name := "Helm", underControl := true }
  settings := { groupNames := ["boost"] }
  toggles := {}
  thrusters := .ofList [⟨7⟩]
  tanks := .ofList [⟨9⟩]
  groups := [⟨"Boost", [⟨5⟩, ⟨6⟩]⟩]
  status := []

/-- The sample ship with other settings, another stored text, no groups, another display, and a
thruster and a tank added that no display knows. -/
def refitted : Ship :=
  { ((Ship.sample.addThruster "AryxRCS" .up 156250.0).2.addTank "LargeHydrogenTank" 80.0 1.0).2 with
    displays := [{ id := ⟨1⟩, name := "LCD", customData := "notes" }]
    groups := []
    settingsText := "[DeltaVDisplay]"
    storedState := "000" }

/-- The display reports the one as it reports the other. -/
theorem reports_isolated_refitted :
    let arguments := ["rcs", "burn", ""]
    (∃ text, knowing.Writes .sample .noop [text] ∧ knowing.Writes refitted .noop [text]) ∧
      (Session.mk (.running knowing) refitted).collect textsAt (undisturbed arguments) =
        (Session.mk (.running knowing) .sample).collect textsAt (undisturbed arguments) := by
  intro arguments
  have hview : knowing.SameView .sample refitted :=
    ⟨by decide +kernel, rfl, rfl, rfl⟩
  have hnoReload : ∀ argument ∈ arguments, Command.ofArgument argument ≠ .reload := by
    decide +kernel
  obtain ⟨⟨texts, hsample, hrefitted⟩, _⟩ :=
    (reports_isolated knowing).1 .sample refitted .noop hview (by decide)
  have hlength : texts.length = 1 := by
    have hcount := hsample.count
    rw [Hud.tick_writes] at hcount
    have hworks : Ship.sample.displayWorks knowing.display.id = true := by decide +kernel
    rw [hworks] at hcount
    exact (Nat.add_left_cancel hcount).symm
  obtain ⟨text, rfl⟩ := List.length_eq_one_iff.mp hlength
  exact ⟨⟨text, hsample, hrefitted⟩,
    ((reports_isolated knowing).2 _ _ _ _ (sameRuns_undisturbed hview hnoReload)).1⟩

end Session

end CockpitHud
