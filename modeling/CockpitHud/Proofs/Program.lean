import CockpitHud.Program
import CockpitHud.Proofs.Boot.Progress

namespace CockpitHud.Program

variable {progress : Boot.Progress} {ship : Ship} {booted : TickResult}

inductive Phase where
  | booting
  | running
  | halted
  deriving DecidableEq

def phase : Program → Phase
  | .booting _ => .booting
  | .running _ => .running
  | .halted => .halted

theorem exists_of_phase_booting {program : Program} (h : program.phase = .booting) :
    ∃ progress, program = .booting progress := by
  cases program with
  | booting progress => exact ⟨progress, rfl⟩
  | running hud => contradiction
  | halted => contradiction

theorem exists_of_phase_running {program : Program} (h : program.phase = .running) :
    ∃ hud, program = .running hud := by
  cases program with
  | booting progress => contradiction
  | running hud => exact ⟨hud, rfl⟩
  | halted => contradiction

theorem tick_running (hud : Hud) (ship : Ship) (argument : String) :
    (running hud).tick ship argument = {
      program := .running (hud.tick ship (.ofArgument argument)).1
      ship := (hud.tick ship (.ofArgument argument)).2 } := by
  rw [tick]

/-- A call while the program boots fails, or leaves it booting, or ends the boot, with something
still lacking or with the first report. -/
inductive Booted (progress : Boot.Progress) (ship : Ship) : TickResult → Prop
  | fail (error : Boot.Error) (failed : (progress.tick ship).result = .error error) :
      Booted progress ship {
        error := some error
        program := .halted
        ship := (progress.tick ship).ship.echo error.message }
  | wait (unfinished : (progress.tick ship).result = .ok .booting) :
      Booted progress ship {
        program := .booting (progress.tick ship).progress
        ship := (progress.tick ship).ship }
  | lack (error : Boot.Error) (done : (progress.tick ship).result = .ok .done)
      (lacking : (progress.tick ship).progress.finish = .error error) :
      Booted progress ship {
        error := some error
        program := .halted
        ship := (progress.tick ship).ship }
  | report (hud : Hud) (done : (progress.tick ship).result = .ok .done)
      (finished : (progress.tick ship).progress.finish = .ok hud) :
      Booted progress ship {
        program := .running
          (hud.tick { (progress.tick ship).ship with frequency := some .slow } .noop).1
        ship := (hud.tick { (progress.tick ship).ship with frequency := some .slow } .noop).2 }

/-- A call while the program boots ends in one of four ways. -/
theorem tickBoot_booted (progress : Boot.Progress) (ship : Ship) :
    Booted progress ship (tickBoot progress ship) := by
  unfold tickBoot
  cases hresult : (progress.tick ship).result with
  | error error =>
    simp only [hresult]
    exact .fail error hresult
  | ok status =>
    cases status with
    | booting =>
      simp only [hresult]
      exact .wait hresult
    | done =>
      simp only [hresult, handOver]
      cases hfinish : (progress.tick ship).progress.finish with
      | error error => exact .lack error hresult hfinish
      | ok hud => exact .report hud hresult hfinish

theorem tickBoot_of_not_ok (h : (progress.tick ship).result.isOk = false) :
    (tickBoot progress ship).program = .halted := by
  cases hresult : (progress.tick ship).result with
  | error error => simp only [tickBoot, hresult]
  | ok status =>
    rw [hresult] at h
    contradiction

theorem tickBoot_of_booting (h : (progress.tick ship).result = .ok .booting) :
    tickBoot progress ship = {
      program := .booting (progress.tick ship).progress
      ship := (progress.tick ship).ship } := by
  simp only [tickBoot, h]

/-- The last call of a boot hands over and reports, which changes nothing of what is handed over. -/
theorem tickBoot_of_done {hud : Hud} (h : (progress.tick ship).result = .ok .done)
    (hfinish : (progress.tick ship).progress.finish = .ok hud) :
    tickBoot progress ship = {
      program := .running hud
      ship := (hud.tick { (progress.tick ship).ship with frequency := some .slow } .noop).2 } := by
  have hquiet := (Boot.Progress.finish_eq_ok_iff.mp hfinish).status
  simp only [tickBoot, h, handOver, hfinish, Hud.tick_noop_of_quiet hquiet]

def pending : Program → List String
  | .booting _ => []
  | .running hud => hud.status
  | .halted => []

def Legible : Program → Prop
  | .booting progress => progress.found.settings.Storable
  | .running hud => hud.Legible
  | .halted => True

theorem start_legible (ship : Ship) : (start ship).1.Legible :=
  Settings.default_storable

theorem Booted.legible (h : Booted progress ship booted)
    (hfound : progress.found.settings.Storable) : booted.program.Legible := by
  have hticked := (progress.tick_ticked ship).storable hfound
  cases h with
  | fail error failed => exact True.intro
  | wait unfinished => exact hticked
  | lack error done lacking => exact True.intro
  | report hud done finished =>
    have hfound := Boot.Progress.finish_eq_ok_iff.mp finished
    have hhud : hud.Legible := by
      refine ⟨by rw [hfound.settings]; exact hticked, ?_⟩
      rw [hfound.status]
      exact List.forall_mem_nil _
    exact hhud.tick _ .noop

/-- After any call the next report can still be read entry by entry. -/
theorem Legible.tick {program : Program} (h : program.Legible) (ship : Ship) (argument : String) :
    (program.tick ship argument).program.Legible := by
  cases program with
  | booting progress => exact (tickBoot_booted progress ship).legible h
  | running hud => exact Hud.Legible.tick h ship (.ofArgument argument)
  | halted => exact True.intro

/-- Nothing waits to be shown when the boot ends. -/
theorem Booted.pending (h : Booted progress ship booted) : booted.program.pending = [] := by
  cases h with
  | fail error failed => rfl
  | wait unfinished => rfl
  | lack error done lacking => rfl
  | report hud done finished =>
    have hstatus := (Boot.Progress.finish_eq_ok_iff.mp finished).status
    rw [Hud.tick_noop_of_quiet hstatus]
    exact hstatus

theorem Booted.storedState (h : Booted progress ship booted) :
    booted.ship.storedState = ship.storedState := by
  have hticked := (progress.tick_ticked ship).storedState
  cases h with
  | fail error failed => exact hticked
  | wait unfinished => exact hticked
  | lack error done lacking => exact hticked
  | report hud done finished =>
    refine (hud.tick_storedState _ .noop).trans ?_
    split <;> exact hticked

theorem Booted.sameBlocks (h : Booted progress ship booted) : Ship.SameBlocks ship booted.ship := by
  have hticked := (progress.tick_ticked ship).sameBlocks
  cases h with
  | fail error failed => exact hticked.trans ⟨rfl, rfl, rfl, rfl, rfl, rfl⟩
  | wait unfinished => exact hticked
  | lack error done lacking => exact hticked
  | report hud done finished =>
    have hslow : Ship.SameBlocks (progress.tick ship).ship
        { (progress.tick ship).ship with frequency := some .slow } :=
      ⟨rfl, rfl, rfl, rfl, rfl, rfl⟩
    exact hticked.trans (hslow.trans (hud.tick_sameBlocks _ .noop))

/-- No call touches what tells the ship's blocks apart. -/
theorem tick_sameBlocks (program : Program) (ship : Ship) (argument : String) :
    Ship.SameBlocks ship (program.tick ship argument).ship := by
  cases program with
  | booting progress => exact (tickBoot_booted progress ship).sameBlocks
  | running hud =>
    rw [tick_running]
    exact hud.tick_sameBlocks ship _
  | halted => exact .refl ship

end CockpitHud.Program
