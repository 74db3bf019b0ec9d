import CockpitHud.Proofs.Boot.Choice
import CockpitHud.Proofs.Session.HandOver
import CockpitHud.Proofs.Session.Phases

namespace CockpitHud

namespace Ship

variable {ship : Ship} {call made : Nat} {error : Boot.Error}

/-- The call in which a boot on this ship fails, and for want of what: a display that works, is on
the grid and bears the tag, or else a controller on the grid that can steer. -/
def bootFailure? (ship : Ship) : Option (Nat × Boot.Error) :=
  if !ship.displays.any Boot.isOurDisplay then some (5, .noDisplay)
  else if !ship.controllers.any Boot.canSteer then some (25, .noController)
  else none

def BootsFor (ship : Ship) (made : Nat) : Prop :=
  ∀ failure ∈ ship.bootFailure?, made < failure.1

theorem bootFailure?_cases (h : ship.bootFailure? = some (call, error)) :
    call = 5 ∧ error = .noDisplay ∨ call = 25 ∧ error = .noController := by
  unfold bootFailure? at h
  split at h
  · cases h
    exact .inl ⟨rfl, rfl⟩
  · split at h
    · cases h
      exact .inr ⟨rfl, rfl⟩
    · contradiction

theorem bootFailure?_of_bootsFor (hgoes : ship.BootsFor made)
    (hstops : ¬ship.BootsFor (made + 1)) : ∃ error, ship.bootFailure? = some (made + 1, error) := by
  simp only [BootsFor, not_forall, Nat.not_lt] at hstops
  obtain ⟨⟨call, error⟩, hfailure, hmade⟩ := hstops
  have hcall : call = made + 1 := Nat.le_antisymm hmade (hgoes _ hfailure)
  exact ⟨error, hcall ▸ hfailure⟩

theorem bootsFor_of_bootFailure? (h : ship.bootFailure? = some (made + 1, error)) :
    ship.BootsFor made ∧ ¬ship.BootsFor (made + 1) := by
  rw [BootsFor, BootsFor, h]
  simp

end Ship

namespace Boot

theorem displayOn?_isSome (ship : Ship) :
    (displayOn? ship).isSome = ship.displays.any isOurDisplay := by
  rw [displayOn?, Option.isSome_map, List.isSome_find?]

theorem controllerOn?_isSome (ship : Ship) :
    (controllerOn? ship).isSome = ship.controllers.any canSteer := by
  rw [Bool.eq_iff_iff, Option.isSome_iff_ne_none, controllerOn?, ne_eq,
    chooseController?_eq_none_iff, List.filter_eq_nil_iff]
  simp

/-- A boot needs a display from call 5 on, and a controller from call 25 on. -/
theorem bootsFor_iff {ship : Ship} {made : Nat} :
    ship.BootsFor made ↔ (5 ≤ made → (displayOn? ship).isSome) ∧
      (25 ≤ made → (controllerOn? ship).isSome) := by
  rw [displayOn?_isSome, controllerOn?_isSome, Ship.BootsFor, Ship.bootFailure?]
  cases ship.displays.any isOurDisplay with
  | false => simp; omega
  | true => cases ship.controllers.any canSteer <;> simp

end Boot

namespace Session

open Boot (displayOn? controllerOn?)
open Boot.Progress (failures)

variable {ship : Ship} {arguments : List String} {argument : String} {error : Boot.Error}

/-- On a ship that is left alone, the ship at the start tells whether calls fail. -/
theorem failures_undisturbed (ship : Ship) (arguments : List String) (made : Nat) :
    failures ((start ship).shipAt (undisturbed arguments)) made = 0 ↔ ship.BootsFor made := by
  have hdisplay := Boot.displayOn?_congr (shipAt_undisturbed_sameBlocks ship arguments 5).displays
  have hcontroller : controllerOn? ((start ship).shipAt (undisturbed arguments) 20) =
      controllerOn? ship := by
    rw [controllerOn?, controllerOn?, (shipAt_undisturbed_sameBlocks ship arguments 20).controllers]
  rw [Boot.Progress.failures_eq_zero_iff, hdisplay, hcontroller, Boot.bootsFor_iff]

/-- While there is time to boot, a program boots until the call in which the boot fails, and has
halted from then on. -/
theorem phase_undisturbed (ship : Ship) (arguments : List String)
    (hearly : arguments.length < 110) :
    let phase := ((start ship).run (undisturbed arguments)).program.phase
    (phase = .booting ↔ ship.BootsFor arguments.length) ∧
      (phase = .halted ↔ ¬ship.BootsFor arguments.length) := by
  intro phase
  have hlength := undisturbed_length arguments
  have hprogram := program_of_boot ship (Nat.le_of_eq hlength.symm) hearly
  rw [List.take_of_length_le (Nat.le_of_eq hlength)] at hprogram
  have hfailures := failures_undisturbed ship arguments arguments.length
  by_cases hgoes : ship.BootsFor arguments.length
  · rw [if_pos (hfailures.mpr hgoes)] at hprogram
    have hphase : phase = .booting := congrArg Program.phase hprogram
    simp [hphase, hgoes]
  · rw [if_neg fun hnone => hgoes (hfailures.mp hnone)] at hprogram
    have hphase : phase = .halted := congrArg Program.phase hprogram
    simp [hphase, hgoes]

theorem run_undisturbed_concat (session : Session) (arguments : List String) (argument : String) :
    session.run (undisturbed (arguments ++ [argument])) =
      (session.run (undisturbed arguments)).call ⟨id, argument⟩ := by
  rw [undisturbed, List.map_append]
  exact session.run_concat _ _

theorem failure_of_error
    (h : (((start ship).run (undisturbed arguments)).resultAt ⟨id, argument⟩).error = some error) :
    ship.bootFailure? = some (arguments.length + 1, error) := by
  have hturn := turn_of_run ship (undisturbed arguments) ⟨id, argument⟩
  rw [undisturbed_length] at hturn
  have hreason := (hturn.of_error h).1
  have hearly : arguments.length + 1 < 110 := by omega
  obtain ⟨hbefore, hafter⟩ := hturn.error_iff.mp (Option.isSome_of_eq_some h)
  have hnext := congrArg (·.program.phase) (run_undisturbed_concat (start ship) arguments argument)
  have hgoes := (phase_undisturbed ship arguments (Nat.lt_of_succ_lt hearly)).1.mp hbefore
  have hstops := (phase_undisturbed ship _ (by simpa using hearly)).2.mp (hnext.trans hafter)
  rw [List.length_append] at hstops
  obtain ⟨reason, hfailure⟩ := Ship.bootFailure?_of_bootsFor hgoes hstops
  -- a call of this number fails for one reason only
  have hsame : reason = error := by
    rcases hreason with ⟨hcall, rfl⟩ | ⟨hcall, rfl⟩ <;>
      rcases Ship.bootFailure?_cases hfailure with ⟨hother, rfl⟩ | ⟨hother, rfl⟩
    · rfl
    · omega
    · omega
    · rfl
  rw [hfailure, hsame]

/-- A call gives an error if the boot fails in it, and then the error of the boot. -/
theorem error_iff_failure :
    (((start ship).run (undisturbed arguments)).resultAt ⟨id, argument⟩).error = some error ↔
      ship.bootFailure? = some (arguments.length + 1, error) := by
  refine ⟨failure_of_error, fun hfailure => ?_⟩
  obtain ⟨hgoes, hstops⟩ := Ship.bootsFor_of_bootFailure? hfailure
  have hearly : arguments.length + 1 < 110 := by
    rcases Ship.bootFailure?_cases hfailure with ⟨hcall, _⟩ | ⟨hcall, _⟩ <;> omega
  have hturn := turn_of_run ship (undisturbed arguments) ⟨id, argument⟩
  have hnext := congrArg (·.program.phase) (run_undisturbed_concat (start ship) arguments argument)
  have hbefore := (phase_undisturbed ship arguments (Nat.lt_of_succ_lt hearly)).1.mpr hgoes
  have hafter := (phase_undisturbed ship (arguments ++ [argument])
    (by simpa using hearly)).2.mpr (by simpa using hstops)
  have hsome := hturn.error_iff.mpr ⟨hbefore, hnext.symm.trans hafter⟩
  obtain ⟨reason, hreason⟩ := Option.isSome_iff_exists.mp hsome
  have hsame := failure_of_error hreason
  rw [hfailure] at hsame
  cases hsame
  exact hreason

end Session

end CockpitHud
