import CockpitHud.Proofs.Hud.Coherence
import CockpitHud.Proofs.Session.Phases
import CockpitHud.Proofs.Session.Restart
import CockpitHud.Proofs.Settings.RoundTrip

namespace CockpitHud

namespace Boot

theorem contains_thrusterIds (ship : Ship) (id : BlockId) :
    (thrusterIds ship).contains id = true ↔ ∃ thruster ∈ ship.thrusters,
      thruster.functional = true ∧ thruster.onGrid = true ∧ thruster.id = id := by
  simp [thrusterIds, and_assoc]

theorem contains_tankIds (ship : Ship) (id : BlockId) :
    (tankIds ship).contains id = true ↔ ∃ tank ∈ ship.tanks,
      tank.functional = true ∧ tank.onGrid = true ∧ tank.holdsHydrogen = true ∧ tank.id = id := by
  simp [tankIds, and_assoc]

end Boot

namespace Hud.FoundAgain

variable {hud : Hud} {ship last : Ship} {arguments : List String}

/-- What an undisturbed boot has found, it would have found on the ship as it was at first. -/
theorem of_found
    (h : Boot.Progress.Found ((Session.start ship).shipAt (Session.undisturbed arguments)) hud) :
    hud.FoundAgain ship := by
  have hsame := Session.shipAt_undisturbed_sameBlocks ship arguments
  refine ⟨?_, ?_, ?_, ?_⟩
  · rw [← h.display, Boot.displayOn?_congr (hsame 5).displays]
  · rw [← h.controller, Boot.controllerOn?, Boot.controllerOn?, (hsame 20).controllers]
  · rw [h.thrusters, Boot.thrusterIds, Boot.thrusterIds, (hsame 30).thrusters]
  · rw [h.tanks, Boot.tankIds, Boot.tankIds, (hsame 35).tanks]

/-- The settings that an undisturbed boot has found are those that it has loaded. -/
theorem settings_of_found (hlength : arguments.length = 110)
    (h : Boot.Progress.Found ((Session.start ship).shipAt (Session.undisturbed arguments)) hud) :
    hud.settings = ship.loadSettings.1 := by
  have hbefore := (of_found h).blanked_shipAt hlength (show 9 < 110 by decide)
  have htext := congrArg Ship.settingsText hbefore
  rw [h.settings, ship.loadSettings_settings]
  exact congrArg (fun text => (Settings.read text).settings) htext

/-- The last call of an undisturbed boot finds its display styled, and so it leaves it to the first
report. -/
theorem blanked_ended (h : hud.FoundAgain ship) (hlength : arguments.length = 110) :
    (Boot.Progress.next ((Session.start ship).shipAt (Session.undisturbed arguments))
      109).ship.blanked hud.display.id = (ship.styled hud.display.id).blanked hud.display.id := by
  have hbefore := h.blanked_shipAt hlength (show 109 < 110 by decide)
  rw [Boot.Progress.next_blanked (h.failures_eq_zero arguments 110)
    (h.shipAt_undisturbed arguments 5).display_id]
  exact hbefore

/-- Scribbles apart, a ship is current once its settings are loaded and its display is styled. -/
theorem current_of_blanked (h : hud.FoundAgain ship)
    (hsettings : hud.settings = ship.loadSettings.1) (hgroups : hud.groups = ship.groups)
    (hlast : last.blanked hud.display.id = (ship.styled hud.display.id).blanked hud.display.id) :
    hud.Current last := by
  have hsame : Ship.SameBlocks ship last :=
    (ship.styled_sameBlocks _).trans (Ship.sameBlocks_of_blanked hlast.symm)
  have hagain := h.of_sameBlocks hsame
  have htext := congrArg Ship.settingsText hlast
  change last.settingsText = ship.loadSettings.2.settingsText at htext
  have hworks : ship.loadSettings.2.displayWorks hud.display.id = true :=
    (ship.loadSettings_sameBlocks.displayWorks _).trans h.displayWorks
  have hstyle : last.displayStyle hud.display.id = some ship.loadSettings.1.style := by
    rw [← Ship.blanked_displayStyle, hlast, Ship.blanked_displayStyle]
    exact Ship.displayStyle_styleDisplay hworks _
  refine ⟨hagain.displayWorks, ?_, ?_, ?_, ?_, ?_⟩
  · rw [htext, hsettings]
    exact ship.read_loadSettings
  · rw [hsettings]
    exact hstyle
  · rw [hgroups, hsame.groups]
  · rw [← hagain.thrusters]
    exact Boot.contains_thrusterIds last
  · rw [← hagain.tanks]
    exact Boot.contains_tankIds last

end Hud.FoundAgain

namespace Session

variable {hud : Hud} {ship : Ship} {arguments : List String} {flipped : List Switch}

def switches (arguments : List String) : List Switch :=
  arguments.filterMap fun argument => (Command.ofArgument argument).switch?

/-- The first report leaves the display and its ship as any later one does. -/
theorem coherent_of_boot (hlength : arguments.length = 110)
    (hrunning : ((start ship).run (undisturbed arguments)).program = .running hud) :
    hud.Coherent ((start ship).run (undisturbed arguments)).ship [] := by
  have hcalls := (undisturbed_length arguments).trans hlength
  have hfound := (run_boot_iff hcalls hud).mp hrunning
  have hagain := Hud.FoundAgain.of_found hfound
  have hsettings := Hud.FoundAgain.settings_of_found hlength hfound
  have hgroups : hud.groups = ship.groups :=
    hfound.groups.trans (shipAt_undisturbed_sameBlocks ship arguments 40).groups
  have hended := hagain.blanked_ended hlength
  rw [run_boot hcalls hfound]
  generalize (Boot.Progress.next ((start ship).shipAt (undisturbed arguments)) 109).ship = ended
    at hended
  have hlast : { ended with frequency := some .slow }.blanked hud.display.id =
      (ship.styled hud.display.id).blanked hud.display.id := hended
  have hcurrent := hagain.current_of_blanked hsettings hgroups hlast
  have hstatus : hud.Waits { ended with frequency := some .slow } [] :=
    iff_of_true hfound.status (.inr rfl)
  have hreport := hcurrent.tick_coherent hstatus .noop
  rw [Hud.tick_noop_of_quiet hfound.status] at hreport
  exact hreport

/-- A running program goes on coherent. -/
theorem coherent_run (h : hud.Coherent ship flipped) (arguments : List String) :
    ∃ later last, (Session.mk (.running hud) ship).run (undisturbed arguments) =
      ⟨.running later, last⟩ ∧ later.Coherent last (flipped ++ switches arguments) := by
  induction arguments generalizing hud ship flipped with
  | nil =>
    rw [switches, List.filterMap_nil, List.append_nil]
    exact ⟨hud, ship, rfl, h⟩
  | cons argument rest ih =>
    have hnext := h.toCurrent.tick_coherent h.status (.ofArgument argument)
    obtain ⟨later, last, hrun, hlater⟩ := ih hnext
    have hswitches : switches (argument :: rest) =
        (Command.ofArgument argument).switch?.toList ++ switches rest := by
      rw [switches, List.filterMap_cons]
      cases (Command.ofArgument argument).switch? <;> rfl
    refine ⟨later, last, ?_, ?_⟩
    · rw [run_undisturbed_cons, call_running]
      exact hrun
    · rw [hswitches, ← List.append_assoc]
      exact hlater

/-- In every running state of an undisturbed run the program and the ship are coherent, whatever the
ship was at first and whatever the arguments were. The switches flipped are those named after the
boot. -/
theorem coherent_of_run (ship : Ship) {arguments : List String} {hud : Hud}
    (hrunning : ((start ship).run (undisturbed arguments)).program = .running hud) :
    hud.Coherent ((start ship).run (undisturbed arguments)).ship
      (switches (arguments.drop 110)) := by
  have hphase : ((start ship).run (undisturbed arguments)).program.phase = .running := by
    rw [hrunning]
    rfl
  obtain ⟨hlate, hboot⟩ := running_since_boot hphase
  rw [undisturbed_length] at hlate
  rw [← undisturbed_take] at hboot
  obtain ⟨before, hbefore⟩ := Program.exists_of_phase_running hboot
  have hlength : (arguments.take 110).length = 110 := List.length_take_of_le hlate
  obtain ⟨later, last, hrun, hlater⟩ :=
    coherent_run (coherent_of_boot hlength hbefore) (arguments.drop 110)
  have hsession : (start ship).run (undisturbed arguments) = ⟨.running later, last⟩ := by
    have hparts : undisturbed arguments =
        undisturbed (arguments.take 110) ++ undisturbed (arguments.drop 110) := by
      rw [undisturbed, undisturbed, undisturbed, ← List.map_append, List.take_append_drop]
    rw [hparts, run_append, ← hrun, ← hbefore]
  rw [hsession] at hrunning ⊢
  cases hrunning
  exact hlater

/-- The sample ship with settings that cannot be read and an old placement line. -/
def neglected : Ship :=
  { Ship.sample with
    displays := [{ id := ⟨1⟩, name := "LCD DeltaV", customData := "fuel at noon\n hudlcd:0:0" }]
    settingsText := "[DeltaV]\nLcdColor=red\nShowBorders" }

/-- They are in order once the program runs, and after a flipped switch. -/
theorem coherent_of_run_neglected :
    let session := (start neglected).run (undisturbed (List.replicate 110 "" ++ ["rcs", "hello"]))
    ∃ hud, session.program = .running hud ∧ hud.Coherent session.ship [.maneuvering] := by
  intro session
  obtain ⟨hud, hhud⟩ : ∃ hud, session.program = .running hud :=
    Program.exists_of_phase_running (by decide +kernel)
  have hswitches : switches ((List.replicate 110 "" ++ ["rcs", "hello"]).drop 110) =
      [.maneuvering] := by decide +kernel
  have hcoherent := coherent_of_run neglected hhud
  rw [hswitches] at hcoherent
  exact ⟨hud, hhud, hcoherent⟩

end Session

end CockpitHud
