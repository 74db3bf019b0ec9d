import CockpitHud.Proofs.Boot.Scribbles
import CockpitHud.Proofs.Hud.Reload
import CockpitHud.Proofs.Session.HandOver

namespace CockpitHud

namespace Session

open Boot.Progress (after next failures)

variable {session : Session} {ship : Ship} {arguments : List String}

/-- While an undisturbed boot goes on, a call finds the ship as the call before has left it. -/
theorem shipAt_undisturbed_succ {made : Nat} (hlength : arguments.length = 110)
    (hnone : failures ((start ship).shipAt (undisturbed arguments)) (made + 1) = 0)
    (hearly : made + 1 < 110) :
    (start ship).shipAt (undisturbed arguments) (made + 2) =
      (next ((start ship).shipAt (undisturbed arguments)) made).ship := by
  have hmade : made < (undisturbed arguments).length := by
    rw [undisturbed_length]
    omega
  rw [shipAt_undisturbed]
  change ((start ship).run (undisturbed (arguments.take (made + 1)))).ship = _
  rw [undisturbed_take, run_take_of_early ship hmade hearly hnone]

end Session

/-- A boot on the ship as it is would find what the display holds. -/
structure Hud.FoundAgain (hud : Hud) (ship : Ship) : Prop where
  display : Boot.displayOn? ship = some hud.display
  controller : Boot.controllerOn? ship = some hud.controller
  thrusters : Boot.thrusterIds ship = hud.thrusters
  tanks : Boot.tankIds ship = hud.tanks

namespace Hud.FoundAgain

open Boot.Progress (after next failures)

variable {hud : Hud} {ship after : Ship} {arguments : List String}

theorem displayWorks (h : hud.FoundAgain ship) : ship.displayWorks hud.display.id = true := by
  obtain ⟨display, hfind, hidentity⟩ := Option.map_eq_some_iff.mp h.display
  have hours := List.find?_some hfind
  simp only [Boot.isOurDisplay, Bool.and_eq_true] at hours
  rw [← hidentity]
  apply List.any_eq_true.mpr
  exact ⟨display, List.mem_of_find?_eq_some hfind, by simp [hours.1.1]⟩

theorem of_sameBlocks (h : hud.FoundAgain ship) (hsame : Ship.SameBlocks ship after) :
    hud.FoundAgain after := by
  refine ⟨(Boot.displayOn?_congr hsame.displays).trans h.display, ?_, ?_, ?_⟩
  · rw [Boot.controllerOn?, hsame.controllers]
    exact h.controller
  · rw [Boot.thrusterIds, hsame.thrusters]
    exact h.thrusters
  · rw [Boot.tankIds, hsame.tanks]
    exact h.tanks

/-- On the ships that an undisturbed boot finds, it would find the same at any time. -/
theorem shipAt_undisturbed (h : hud.FoundAgain ship) (arguments : List String) (number : Nat) :
    hud.FoundAgain ((Session.start ship).shipAt (Session.undisturbed arguments) number) :=
  h.of_sameBlocks (Session.shipAt_undisturbed_sameBlocks ship arguments number)

/-- A boot does not fail on a ship where the display is found again. -/
theorem failures_eq_zero (h : hud.FoundAgain ship) (arguments : List String) (made : Nat) :
    failures ((Session.start ship).shipAt (Session.undisturbed arguments)) made = 0 := by
  rw [Boot.Progress.failures_eq_zero_iff, (h.shipAt_undisturbed arguments 5).display,
    (h.shipAt_undisturbed arguments 20).controller]
  exact ⟨fun _ => rfl, fun _ => rfl⟩

theorem display_id (h : hud.FoundAgain ship) :
    ∀ display, Boot.displayOn? ship = some display → display.id = hud.display.id := by
  intro display hdisplay
  rw [h.display] at hdisplay
  rw [Option.some.inj hdisplay]

/-- The ship that a call of an undisturbed boot finds, apart from scribbles. -/
theorem blanked_shipAt (h : hud.FoundAgain ship) (hlength : arguments.length = 110) {made : Nat}
    (hmade : made < 110) :
    ((Session.start ship).shipAt (Session.undisturbed arguments) (made + 1)).blanked
        hud.display.id =
      if made < 10 then ship.blanked hud.display.id
      else (ship.styled hud.display.id).blanked hud.display.id := by
  have hnone := h.failures_eq_zero arguments
  apply Boot.Progress.blanked_of_undisturbed hnone (h.shipAt_undisturbed arguments 5).display_id
  · rw [Session.shipAt_undisturbed]
    rfl
  · exact fun made hearly => Session.shipAt_undisturbed_succ hlength (hnone _) hearly
  · exact hmade

/-- What an undisturbed boot finds is what the display holds, with settings and groups read anew. -/
theorem found (h : hud.FoundAgain ship) (hlength : arguments.length = 110)
    (hstatus : hud.status = []) (htoggles : Toggles.restore ship.storedState = hud.toggles) :
    Boot.Progress.Found ((Session.start ship).shipAt (Session.undisturbed arguments))
      (hud.reloaded ship) := by
  have htext := congrArg Ship.settingsText (h.blanked_shipAt hlength (show 9 < 110 by decide))
  have hstored := congrArg Ship.storedState (h.blanked_shipAt hlength (show 14 < 110 by decide))
  have hkept : ship.loadSettings.2.storedState = ship.storedState := by
    rw [Ship.loadSettings_frame]
  have hgroups := (Session.shipAt_undisturbed_sameBlocks ship arguments 40).groups
  refine ⟨(h.shipAt_undisturbed arguments 5).display, ?_, ?_,
    (h.shipAt_undisturbed arguments 20).controller,
    (h.shipAt_undisturbed arguments 30).thrusters.symm,
    (h.shipAt_undisturbed arguments 35).tanks.symm, hgroups.symm, hstatus⟩
  · exact congrArg (fun text => (Settings.read text).settings) htext.symm
  · exact htoggles.symm.trans (congrArg Toggles.restore (hkept.symm.trans hstored.symm))

end Hud.FoundAgain

namespace Session

variable {hud : Hud} {ship : Ship} {arguments : List String} {argument : String}

/-- Where a boot would find what the display holds, a reload and a restart come to the same: the
program runs with the same display, which shows the same, on a ship that keeps the same texts. -/
theorem reload_eq_restart (hagain : hud.FoundAgain ship) (hstatus : hud.status = [])
    (htoggles : Toggles.restore ship.storedState = hud.toggles)
    (hargument : Command.ofArgument argument = .reload) (hlength : arguments.length = 110) :
    let reloaded := (Session.mk (.running hud) ship).call ⟨id, argument⟩
    let restarted := (start ship).run (undisturbed arguments)
    (∀ made < 110, ((start ship).run (undisturbed (arguments.take made))).program.phase =
        .booting) ∧
      restarted.program = reloaded.program ∧
      restarted.ship.displays = reloaded.ship.displays ∧
      restarted.ship.settingsText = reloaded.ship.settingsText ∧
      restarted.ship.storedState = reloaded.ship.storedState := by
  intro reloaded restarted
  have hcalls := (undisturbed_length arguments).trans hlength
  have hnone := hagain.failures_eq_zero arguments
  have hworks := hagain.displayWorks
  have hfound := hagain.found hlength hstatus htoggles
  have hrun : restarted = _ := run_boot hcalls hfound
  -- before its report the restarted boot has left a styled ship and scribbles, and the report is
  -- written over these
  have hlast : (Boot.Progress.next ((start ship).shipAt (undisturbed arguments)) 109).ship.blanked
      hud.display.id = (ship.styled hud.display.id).blanked hud.display.id := by
    have hbefore := hagain.blanked_shipAt hlength (show 109 < 110 by decide)
    rw [Boot.Progress.next_blanked (hnone 110) (hagain.shipAt_undisturbed arguments 5).display_id]
    exact hbefore
  have hcall : reloaded = ⟨.running (hud.reloaded ship), (hud.tick ship .reload).2⟩ := by
    have hcommand : Call.command ⟨id, argument⟩ = .reload := hargument
    change (Session.mk (.running hud) ship).call ⟨id, argument⟩ = _
    rw [call_running, hcommand]
    change Session.mk (.running (hud.tick ship .reload).1) _ = _
    rw [Hud.tick_reload hstatus hworks]
    rfl
  generalize Boot.Progress.next ((start ship).shipAt (undisturbed arguments)) 109 = ended
    at hrun hlast
  rw [hrun, hcall]
  refine ⟨?_, rfl, Hud.tick_noop_of_styled hstatus hworks hlast⟩
  intro made hmade
  rw [undisturbed_take, program_of_boot ship (by omega) hmade, if_pos (hnone made)]
  rfl

/-- A display of the sample ship that knows none of its groups and settings yet. -/
def unset : Hud where
  display := { id := ⟨1⟩, name := "LCD DeltaV" }
  controller := { id := ⟨4⟩, name := "Helm", underControl := true }
  settings := { groupNames := [], showBorders := false }
  toggles := {}
  thrusters := Boot.thrusterIds .sample
  tanks := Boot.tankIds .sample
  groups := []
  status := []

/-- It comes to know them by a reload as by a restart. -/
theorem reload_eq_restart_unset :
    let reloaded := (Session.mk (.running unset) .sample).call ⟨id, " Setup"⟩
    let restarted := (start .sample).run (undisturbed (List.replicate 110 "rcs"))
    unset.FoundAgain .sample ∧ restarted.program = reloaded.program ∧
      restarted.ship.displays = reloaded.ship.displays := by
  have hagain : unset.FoundAgain .sample :=
    ⟨by decide +kernel, by decide +kernel, rfl, rfl⟩
  have hequal := reload_eq_restart hagain rfl (by decide +kernel)
    (show Command.ofArgument " Setup" = .reload by decide +kernel)
    (List.length_replicate : (List.replicate 110 "rcs").length = 110)
  exact ⟨hagain, hequal.2.1, hequal.2.2.1⟩

end Session

end CockpitHud
