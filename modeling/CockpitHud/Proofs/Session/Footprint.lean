import CockpitHud.Proofs.Boot.Footprint
import CockpitHud.Proofs.Boot.Scribbles
import CockpitHud.Proofs.Hud.Footprint
import CockpitHud.Proofs.Session.HandOver
import CockpitHud.Proofs.Session.Phases

namespace CockpitHud

namespace Program

open Boot (Progress)

variable {progress : Progress} {found : Ship} {command : Command} {booted : TickResult}
  {made : Nat}

def display? : Program → Option DisplayIdentity
  | .booting progress => progress.found.display
  | .running hud => some hud.display
  | .halted => none

def dueStep? : Program → Option Boot.Step
  | .booting progress => progress.dueStep?
  | .running _ => none
  | .halted => none

/-- A call reads the settings in the frame of the boot that is there for it, and on a reload of a
display that works. -/
def Loads (program : Program) (found : Ship) (command : Command) : Prop :=
  program.dueStep? = some .readSettings ∨ ∃ hud, program = .running hud ∧
    found.displayWorks hud.display.id = true ∧ command = .reload

theorem loads_booting : (booting progress).Loads found command ↔
    progress.dueStep? = some .readSettings := by
  constructor
  · rintro (hdue | ⟨hud, hrunning, _⟩)
    · exact hdue
    · contradiction
  · exact .inl

theorem loads_running {hud : Hud} : (running hud).Loads found command ↔
    found.displayWorks hud.display.id = true ∧ command = .reload := by
  constructor
  · rintro (hdue | ⟨_, hrunning, hloads⟩)
    · contradiction
    · cases hrunning
      exact hloads
  · exact fun h => .inr ⟨hud, rfl, h⟩

/-- What a call may touch of the ship that it finds. -/
structure Footprint (program : Program) (found : Ship) (command : Command) (ticked : TickResult) :
    Prop where
  blocks : Ship.SameBlocks found ticked.ship
  /-- Of all displays only the first one with the chosen id is touched. -/
  place : ∀ i, ticked.ship.displays[i]? ≠ found.displays[i]? →
    ∃ display, ticked.program.display? = some display ∧
      found.displays.findIdx? (·.id = display.id) = some i
  /-- The notes on a display are touched by a report on a display that works. -/
  notes : ticked.ship.notes ≠ found.notes →
    ∃ hud, ticked.program = .running hud ∧ found.displayWorks hud.display.id = true
  styles : ticked.ship.styles ≠ found.styles → program.Loads found command
  settings_kept : ¬ program.Loads found command → ticked.ship.settingsText = found.settingsText
  settings_loaded : program.Loads found command → ticked.ship.settingsText =
    if (Settings.read found.settingsText).isStale then
      (Settings.read found.settingsText).settings.write
    else found.settingsText
  stored : ticked.ship.storedState ≠ found.storedState →
    ∃ hud switch, program = .running hud ∧ found.displayWorks hud.display.id = true ∧
      command = .toggle switch
  echoes : ∃ lines, ticked.ship.echoes = found.echoes ++ lines ∧ lines.length =
    if program.dueStep? = some .greet then 6 else if ticked.error.isSome then 1 else 0
  /-- While its display does not work, a running program does nothing. -/
  dead : ∀ hud, program = .running hud → found.displayWorks hud.display.id = false →
    ticked = { program := program, ship := found }

/-- A boot that fails in any but these two steps only says so. -/
theorem footprint_of_failure (hread : progress.dueStep? ≠ some .readSettings)
    (hgreet : progress.dueStep? ≠ some .greet) (found : Ship) (command : Command)
    (error : Boot.Error) :
    Footprint (.booting progress) found command
      { error := some error, program := .halted, ship := found.echo error.message } where
  blocks := ⟨rfl, rfl, rfl, rfl, rfl, rfl⟩
  place := fun i hi => absurd rfl hi
  notes := fun hnotes => absurd rfl hnotes
  styles := fun hstyles => absurd rfl hstyles
  settings_kept := fun _ => rfl
  settings_loaded := fun hloads => absurd (loads_booting.mp hloads) hread
  stored := fun hstored => absurd rfl hstored
  echoes := ⟨[error.message], rfl, by simp [dueStep?, hgreet]⟩
  dead := fun _ hrunning => absurd hrunning nofun

theorem footprint_of_marks {next : Progress} {ship : Ship}
    (h : Progress.Marks progress next.found.display found ship)
    (hstored : ship.storedState = found.storedState) (command : Command) :
    Footprint (.booting progress) found command { program := .booting next, ship := ship } where
  blocks := h.confined.toSameBlocks
  place := by
    intro i hi
    obtain ⟨id, hid, hplace⟩ := h.confined.place i hi
    obtain ⟨display, hdisplay, rfl⟩ := Option.map_eq_some_iff.mp hid
    exact ⟨display, hdisplay, hplace⟩
  notes := fun hnotes => absurd h.notes hnotes
  styles := by
    intro hstyles
    by_contra hkept
    exact hstyles (h.styles (mt loads_booting.mpr hkept))
  settings_kept := by
    intro hkept
    exact h.settingsText.trans (if_neg (mt loads_booting.mpr hkept))
  settings_loaded := by
    intro hloads
    simp only [h.settingsText, if_pos (loads_booting.mp hloads), Ship.loadSettings_settingsText]
  stored := fun h => absurd hstored h
  echoes := by
    refine ⟨_, h.echoes, ?_⟩
    by_cases hgreet : progress.dueStep? = some .greet <;>
      simp [dueStep?, hgreet]
  dead := fun _ hrunning => absurd hrunning nofun

/-- A report touches the notes on its display only if the display works. -/
theorem works_of_notes {hud : Hud} {ship : Ship}
    (h : (hud.tick ship command).2.notes ≠ ship.notes) :
    ship.displayWorks hud.display.id = true := by
  cases hworks : ship.displayWorks hud.display.id with
  | true => rfl
  | false =>
    rw [Hud.tick_of_dead hworks] at h
    contradiction

/-- The first report comes on top of what the last call of the boot has done. -/
theorem footprint_of_report {hud : Hud} {ship : Ship}
    (h : Progress.Marks progress (some hud.display) found ship)
    (hstored : ship.storedState = found.storedState) (command : Command) :
    Footprint (.booting progress) found command
      { program := .running (hud.tick ship .noop).1, ship := (hud.tick ship .noop).2 } := by
  have hdisplay := hud.tick_display ship .noop
  have hsettings := hud.tick_settingsText ship .noop
  have hechoes := (hud.tick_echoes ship .noop).trans h.echoes
  have hconfined : Ship.Confined (some hud.display.id) found (hud.tick ship .noop).2 :=
    h.confined.trans (hud.tick_confined ship .noop)
  have hstyles : (hud.tick ship .noop).2.styles = ship.styles :=
    Hud.tick_styles (by decide) hud ship
  simp only [reduceCtorEq, and_false, if_false] at hsettings
  refine ⟨hconfined.toSameBlocks, ?_, ?_, ?_, ?_, ?_, ?_, ⟨_, hechoes, ?_⟩,
    fun _ hrunning => absurd hrunning nofun⟩
  · intro i hi
    obtain ⟨id, hid, hplace⟩ := hconfined.place i hi
    cases hid
    exact ⟨_, rfl, hdisplay ▸ hplace⟩
  · intro hnotes
    rw [← h.notes] at hnotes
    refine ⟨_, rfl, ?_⟩
    rw [hdisplay, ← h.confined.toSameBlocks.displayWorks]
    exact works_of_notes hnotes
  · intro hchanged
    by_contra hkept
    exact hchanged (hstyles.trans (h.styles (mt loads_booting.mpr hkept)))
  · intro hkept
    simp only [hsettings, h.settingsText, if_neg (mt loads_booting.mpr hkept)]
  · intro hloads
    simp only [hsettings, h.settingsText, if_pos (loads_booting.mp hloads),
      Ship.loadSettings_settingsText]
  · intro hchanged
    have hkept := hud.tick_storedState ship .noop
    simp [Command.switch?, hstored] at hkept
    contradiction
  · by_cases hgreet : progress.dueStep? = some .greet <;> simp [dueStep?, hgreet]

theorem Booted.footprint (h : Booted progress found booted) (hon : progress.OnTime made 0)
    (hearly : made < 110) (command : Command) :
    Footprint (.booting progress) found command booted := by
  have hticked := progress.tick_ticked found
  have hmarks := hticked.marks
  have hstored := hticked.storedState
  have hturn := h.turn hon hearly
  cases h with
  | fail error failed =>
    obtain ⟨hread, hgreet⟩ := hticked.due_of_error hon failed
    rw [hticked.ship_of_error hon failed]
    exact footprint_of_failure hread hgreet found command error
  | wait unfinished => exact footprint_of_marks hmarks hstored command
  | lack error done lacking =>
    -- a boot that is over has found everything, and no call that fails comes as late as that
    have hlate := (hticked.done_iff hon).mp done |>.2.2
    have hlacking := hturn.of_error rfl |>.1
    unfold Boot.frameLength at hlate
    omega
  | report hud done finished =>
    have hdisplay := (Boot.Progress.finish_eq_ok_iff.mp finished).display
    rw [hdisplay] at hmarks
    have hslow : Progress.Marks progress (some hud.display) found
        { (progress.tick found).ship with frequency := some .slow } := by
      obtain ⟨hconfined, hnotes, hstyles, hsettings, hechoes⟩ := hmarks
      have hsame := hconfined.toSameBlocks
      exact ⟨⟨⟨hsame.displays, hsame.controllers, hsame.thrusters, hsame.tanks, hsame.groups,
        hsame.totalMass⟩, hconfined.place⟩, hnotes, hstyles, hsettings, hechoes⟩
    exact footprint_of_report hslow hstored command

theorem footprint_of_running (hud : Hud) (found : Ship) (command : Command) :
    Footprint (.running hud) found command {
      program := .running (hud.tick found command).1
      ship := (hud.tick found command).2 } := by
  have hdisplay := hud.tick_display found command
  have hconfined := hud.tick_confined found command
  have hsettings := hud.tick_settingsText found command
  refine ⟨hconfined.toSameBlocks, ?_, ?_, ?_, ?_, ?_, ?_, ⟨[], ?_, rfl⟩, ?_⟩
  · intro i hi
    obtain ⟨id, hid, hplace⟩ := hconfined.place i hi
    cases hid
    exact ⟨_, rfl, hdisplay ▸ hplace⟩
  · intro hnotes
    exact ⟨_, rfl, hdisplay ▸ works_of_notes hnotes⟩
  · intro hchanged
    rw [loads_running]
    cases hworks : found.displayWorks hud.display.id with
    | false =>
      rw [Hud.tick_of_dead hworks] at hchanged
      contradiction
    | true =>
      refine ⟨rfl, ?_⟩
      by_contra hother
      exact hchanged (Hud.tick_styles hother hud found)
  · intro hkept
    simp only [hsettings, if_neg (mt loads_running.mpr hkept)]
  · intro hloads
    simp only [hsettings, if_pos (loads_running.mp hloads), Ship.loadSettings_settingsText]
  · intro hchanged
    have hstored := hud.tick_storedState found command
    cases command with
    | toggle switch =>
      cases hworks : found.displayWorks hud.display.id with
      | false => simp [hworks, hstored] at hchanged
      | true => exact ⟨hud, switch, rfl, hworks, rfl⟩
    | reload => simp [Command.switch?, hstored] at hchanged
    | noop => simp [Command.switch?, hstored] at hchanged
  · simp [hud.tick_echoes]
  · intro other hrunning hdead
    cases hrunning
    simp only [Hud.tick_of_dead hdead]

theorem footprint_of_halted (found : Ship) (command : Command) :
    Footprint .halted found command { program := .halted, ship := found } where
  blocks := .refl found
  place := fun i hi => absurd rfl hi
  notes := fun hnotes => absurd rfl hnotes
  styles := fun hstyles => absurd rfl hstyles
  settings_kept := fun _ => rfl
  settings_loaded := by
    rintro (hdue | ⟨_, hrunning, _⟩)
    · contradiction
    · contradiction
  stored := fun hstored => absurd rfl hstored
  echoes := ⟨[], (List.append_nil _).symm, rfl⟩
  dead := fun _ hrunning => absurd hrunning nofun

/-- No call steps outside its footprint, in whatever phase it comes. -/
theorem Timed.footprint {program : Program} (h : program.Timed made) (found : Ship)
    (argument : String) :
    Footprint program found (.ofArgument argument) (program.tick found argument) := by
  cases program with
  | booting progress => exact (tickBoot_booted progress found).footprint h.1 h.2 _
  | running hud =>
    rw [tick_running]
    exact footprint_of_running hud found _
  | halted => exact footprint_of_halted found _

theorem Timed.dueStep?_eq_some_iff {program : Program} (h : program.Timed made)
    (step : Boot.Step) : program.dueStep? = some step ↔
      program.phase = .booting ∧ made + 1 = 5 * (Boot.Step.all.idxOf step + 1) := by
  cases program with
  | booting progress =>
    simpa [dueStep?, phase, Boot.frameLength] using h.1.dueStep?_eq_some_iff step
  | running hud => simp [dueStep?, phase]
  | halted => simp [dueStep?, phase]

end Program

namespace Session

variable {ship : Ship} {calls : List Call} {hud : Hud} {display : DisplayIdentity}

theorem shipAt_take (session : Session) (calls : List Call) {number made : Nat}
    (hnumber : 0 < number) (hmade : number ≤ made) :
    session.shipAt (calls.take made) number = session.shipAt calls number := by
  have hbefore : (calls.take made).take (number - 1) = calls.take (number - 1) := by
    rw [List.take_take, Nat.min_eq_left (by omega)]
  have hnext : (calls.take made)[number - 1]? = calls[number - 1]? :=
    List.getElem?_take_of_lt (by omega)
  rw [shipAt, shipAt, hbefore, hnext]

/-- A running program never takes another display. -/
theorem display_of_running (hud : Hud) (ship : Ship) (calls : List Call) :
    ((Session.mk (.running hud) ship).run calls).program.display? = some hud.display := by
  induction calls generalizing hud ship with
  | nil => rfl
  | cons next rest ih =>
    have hrest := ih (hud.tick (next.edit ship) next.command).1
      (hud.tick (next.edit ship) next.command).2
    rw [hud.tick_display] at hrest
    change (((Session.mk (.running hud) ship).call next).run rest).program.display? = _
    rw [call_running]
    exact hrest

/-- A program has chosen its display on the ship that call 5 found, and keeps to it. -/
theorem display_of_run (h : ((start ship).run calls).program.display? = some display) :
    5 ≤ calls.length ∧ Boot.displayOn? ((start ship).shipAt calls 5) = some display := by
  have htimed := timed_of_run ship calls
  cases hprogram : ((start ship).run calls).program with
  | booting progress =>
    rw [hprogram] at h htimed
    have hboot := program_of_boot ship (Nat.le_refl calls.length) htimed.2
    rw [List.take_length, hprogram] at hboot
    split at hboot
    · rename_i hnone
      cases hboot
      have hfound := (Boot.Progress.after_display hnone).symm.trans h
      split at hfound
      · contradiction
      · rename_i hlate
        exact ⟨Nat.le_of_not_lt hlate, hfound⟩
    · contradiction
  | running hud =>
    have hphase : ((start ship).run calls).program.phase = .running := by
      rw [hprogram]
      rfl
    obtain ⟨hlate, hboot⟩ := running_since_boot hphase
    obtain ⟨first, hfirst⟩ := Program.exists_of_phase_running hboot
    have hlength : (calls.take 110).length = 110 := List.length_take_of_le hlate
    have hfound := ((run_boot_iff hlength first).mp hfirst).display
    rw [shipAt_take _ _ (by omega) (by omega)] at hfound
    have hrest := display_of_running first ((start ship).run (calls.take 110)).ship (calls.drop 110)
    rw [← hfirst, ← run_append, List.take_append_drop, h] at hrest
    exact ⟨by omega, hfound.trans hrest.symm⟩
  | halted =>
    rw [hprogram] at h
    contradiction

/-- In every run a call keeps to its footprint, whatever ship it finds and whatever its argument is.
The one display that it may touch was chosen on the ship of call 5, and each step of the boot has a
call of its own. -/
theorem footprint_of_run (ship : Ship) (calls : List Call) (next : Call) :
    let session := (start ship).run calls
    let ticked := session.resultAt next
    session.program.Footprint (next.edit session.ship) next.command ticked ∧
      (∀ display, ticked.program.display? = some display → 5 ≤ calls.length + 1 ∧
        Boot.displayOn? ((start ship).shipAt (calls ++ [next]) 5) = some display) ∧
      ∀ step, session.program.dueStep? = some step ↔ session.program.phase = .booting ∧
        calls.length + 1 = 5 * (Boot.Step.all.idxOf step + 1) := by
  intro session ticked
  have htimed := timed_of_run ship calls
  refine ⟨htimed.footprint _ next.argument, ?_, htimed.dueStep?_eq_some_iff⟩
  intro display hdisplay
  have hlater : ((start ship).run (calls ++ [next])).program.display? = some display := by
    rw [run_concat]
    exact hdisplay
  have hchosen := display_of_run hlater
  rw [List.length_append] at hchosen
  exact hchosen

end Session

end CockpitHud
