import CockpitHud.Proofs.Session.Basic

namespace CockpitHud.Session

variable {session : Session}

theorem printedAt_running (hud : Hud) (ship : Ship) (next : Call) :
    (Session.mk (.running hud) ship).printedAt next =
      if (next.edit ship).displayWorks hud.display.id then
        Report.statusEntries (hud.shown (next.edit ship) next.command)
      else [] := by
  rw [printedAt, textsAt_running, Hud.written]
  split
  · exact List.append_nil _
  · rfl

theorem eventsAt_running (hud : Hud) (ship : Ship) (next : Call) :
    (Session.mk (.running hud) ship).eventsAt next =
      if (next.edit ship).displayWorks hud.display.id then hud.events next.command else [] := by
  rw [eventsAt, active?_running]
  split <;> rfl

theorem reportsAt_running (hud : Hud) (ship : Ship) (next : Call) :
    (Session.mk (.running hud) ship).reportsAt next =
      ((next.edit ship).displayWorks hud.display.id && (hud.sample (next.edit ship)).isValid) := by
  rw [reportsAt, active?_running]
  cases (next.edit ship).displayWorks hud.display.id <;> rfl

/-- A call prints all that was pending and its own event, if it reports, and nothing otherwise. -/
theorem printedAt_eq (h : session.program.Legible) (next : Call) :
    session.printedAt next =
      if session.reportsAt next then session.program.pending ++ session.eventsAt next else [] := by
  obtain ⟨program, ship⟩ := session
  cases program with
  | booting progress => rfl
  | halted => rfl
  | running hud =>
    rw [printedAt_running, reportsAt_running, eventsAt_running]
    cases (next.edit ship).displayWorks hud.display.id with
    | false => rfl
    | true => exact Hud.Legible.statusEntries_shown h (next.edit ship) next.command

/-- A call that reports leaves nothing pending; any other adds its event to what is. -/
theorem pending_call (session : Session) (next : Call) :
    (session.call next).program.pending =
      if session.reportsAt next then [] else session.program.pending ++ session.eventsAt next := by
  obtain ⟨program, ship⟩ := session
  cases program with
  | booting progress => exact (Program.tickBoot_booted progress (next.edit ship)).pending
  | halted => rfl
  | running hud =>
    rw [reportsAt_running, eventsAt_running, call_running]
    change (hud.tick (next.edit ship) next.command).1.status = _
    rw [Hud.tick_status]
    cases (next.edit ship).displayWorks hud.display.id with
    | false => exact (List.append_nil hud.status).symm
    | true => rfl

/-- What is pending and what a run logs is printed in the run or pending after it, in order. -/
theorem pending_append_events (h : session.program.Legible) (calls : List Call) :
    session.program.pending ++ session.collect eventsAt calls =
      session.collect printedAt calls ++ (session.run calls).program.pending := by
  induction calls generalizing session with
  | nil => exact List.append_nil _
  | cons next rest ih =>
    have hstep : session.program.pending ++ session.eventsAt next =
        session.printedAt next ++ (session.call next).program.pending := by
      rw [printedAt_eq h, pending_call]
      split
      · exact (List.append_nil _).symm
      · rfl
    change session.program.pending ++ (session.eventsAt next ++ _) =
      session.printedAt next ++ _ ++ _
    rw [← List.append_assoc, hstep, List.append_assoc, List.append_assoc]
    exact congrArg (session.printedAt next ++ ·) (ih (legible_call h next))

/-- Every event is reported once and in order: at every moment of every run, what was logged is what
was printed and then what is pending. Nothing is pending after a call that found a display that
works and a sample that can be used, and any other call adds its event to what was. -/
theorem every_event_printed_once (ship : Ship) (calls : List Call) :
    let session := (start ship).run calls
    (start ship).collect eventsAt calls =
        (start ship).collect printedAt calls ++ session.program.pending ∧
      ∀ next, (session.call next).program.pending =
        if session.reportsAt next then []
        else session.program.pending ++ session.eventsAt next := by
  have hstart : (start ship).program.pending = [] := rfl
  have hrun := @pending_append_events (start ship) (Program.start_legible ship) calls
  rw [hstart, List.nil_append] at hrun
  exact ⟨hrun, pending_call _⟩

end CockpitHud.Session
