import CockpitHud.Proofs.Hud.Idle
import CockpitHud.Proofs.Session.Basic
import CockpitHud.Ship.Build

namespace CockpitHud.Session

variable {hud : Hud} {ship : Ship} {arguments : List String}

def Idle (arguments : List String) : Prop :=
  ∀ argument ∈ arguments, Command.ofArgument argument = .noop

theorem call_noop {argument : String} (h : Command.ofArgument argument = .noop) (hud : Hud)
    (ship : Ship) (edit : Ship → Ship) :
    (Session.mk (.running hud) ship).call ⟨edit, argument⟩ =
      ⟨.running (hud.tick (edit ship) .noop).1, (hud.tick (edit ship) .noop).2⟩ := by
  have hcommand : Call.command ⟨edit, argument⟩ = .noop := h
  rw [call_running, hcommand]

/-- A display that does not work takes no calls. -/
theorem run_of_dead (h : ship.displayWorks hud.display.id = false) (arguments : List String) :
    (Session.mk (.running hud) ship).run (undisturbed arguments) = ⟨.running hud, ship⟩ := by
  induction arguments with
  | nil => rfl
  | cons argument rest ih =>
    have hcall : (Session.mk (.running hud) ship).call ⟨id, argument⟩ = ⟨.running hud, ship⟩ := by
      rw [call_running]
      change Session.mk (.running (hud.tick ship _).1) (hud.tick ship _).2 = _
      rw [Hud.tick_of_dead h]
    rw [run_undisturbed_cons, hcall, ih]

/-- Once at rest, idle calls change only the number of writes. -/
theorem run_of_atRest (h : hud.AtRest ship) (hidle : Idle arguments) :
    (Session.mk (.running hud) ship).run (undisturbed arguments) =
      ⟨.running hud, { ship with writes := ship.writes + arguments.length }⟩ := by
  induction arguments generalizing ship with
  | nil => rfl
  | cons argument rest ih =>
    obtain ⟨hfirst, hrest⟩ := List.forall_mem_cons.mp hidle
    rw [run_undisturbed_cons, call_noop hfirst, id_eq, h.tick, ih (h.counted _) hrest]
    simp [Nat.add_right_comm, Nat.add_assoc]

/-- Two calls without a command bring a running program to rest, whatever its run was and whatever
became of the ship before them. However many such calls follow, nothing is different after them but
the number of writes, one for each call if the display works and none otherwise. -/
theorem idle_calls_settle (ship : Ship) {calls : List Call} {hud : Hud}
    (hrunning : ((start ship).run calls).program = .running hud) (edit : Ship → Ship)
    {first second : String} {more : List String} (hidle : Idle (first :: second :: more)) :
    let settled := (((start ship).run calls).call ⟨edit, first⟩).call ⟨id, second⟩
    settled.run (undisturbed more) = { settled with
      ship := { settled.ship with
        writes := settled.ship.writes +
          if settled.ship.displayWorks hud.display.id then more.length else 0 } } := by
  intro settled
  obtain ⟨hfirst, hidle⟩ := List.forall_mem_cons.mp hidle
  obtain ⟨hsecond, hmore⟩ := List.forall_mem_cons.mp hidle
  have hlegible : hud.Legible := by
    have hstart : (start ship).program.Legible := Program.start_legible ship
    have hrun := legible_run hstart calls
    rw [hrunning] at hrun
    exact hrun
  let before := ((start ship).run calls).ship
  have hsession : (start ship).run calls = ⟨.running hud, before⟩ := hrunning ▸ rfl
  let shown := hud.tick (edit before) .noop
  have hsettled : settled =
      ⟨.running (shown.1.tick shown.2 .noop).1, (shown.1.tick shown.2 .noop).2⟩ := by
    change (((start ship).run calls).call ⟨edit, first⟩).call ⟨id, second⟩ = _
    rw [hsession, call_noop hfirst, call_noop hsecond, id_eq]
  cases hworks : (edit before).displayWorks hud.display.id with
  | false =>
    have hdead : shown = (hud, edit before) := Hud.tick_of_dead hworks
    rw [hdead, Hud.tick_of_dead hworks] at hsettled
    rw [hsettled, run_of_dead hworks, hworks]
    rfl
  | true =>
    have hcalm := Hud.tick_calm hworks .noop
    have hrest := Hud.atRest_of_idle hlegible hworks
    have hdisplay : shown.1.display = hud.display := hud.tick_display (edit before) .noop
    have hstill := hrest.works
    rw [hdisplay] at hstill
    rw [Hud.tick_noop_of_calm hcalm] at hsettled
    rw [hsettled, run_of_atRest hrest hmore, hstill]
    rfl

def flippedOnce : List Call :=
  undisturbed (List.replicate 110 "" ++ ["rcs"])

def noted (ship : Ship) : Ship :=
  ship.setCustomData ⟨1⟩ "fuel at noon\nHUDLCD:0:0:1 "

/-- The event of the switch and the player's placement line are gone before the third call. -/
theorem idle_calls_settle_noted :
    let settled := (((start .sample).run flippedOnce).call ⟨noted, "hello"⟩).call ⟨id, ""⟩
    ∃ hud, ((start .sample).run flippedOnce).program = .running hud ∧
      settled.run (undisturbed [" "]) = { settled with
        ship := { settled.ship with
          writes := settled.ship.writes +
            if settled.ship.displayWorks hud.display.id then 1 else 0 } } := by
  intro settled
  obtain ⟨hud, hhud⟩ : ∃ hud, ((start .sample).run flippedOnce).program = .running hud :=
    Program.exists_of_phase_running (by decide +kernel)
  have hidle : Idle ["hello", "", " "] := by
    unfold Idle
    decide +kernel
  exact ⟨hud, hhud, idle_calls_settle .sample hhud noted hidle⟩

end CockpitHud.Session
