import CockpitHud.Proofs.Boot.Timeline

namespace CockpitHud.Boot.Progress

variable {ships : Nat → Ship} {calls : Nat}

/-- What a number of frames finds, if none fails and each runs on the ship of its number. -/
def foundBy (shipOf : Nat → Ship) : Nat → Findings
  | 0 => {}
  | frame + 1 =>
    match Step.all[frame]? with
    | some step => step.learn (foundBy shipOf frame) (shipOf (frame + 1))
    | none => foundBy shipOf frame

def framed (ships : Nat → Ship) (frame : Nat) : Ship :=
  ships (frameLength * frame)

theorem foundBy_all (shipOf : Nat → Ship) {frame : Nat} (h : 9 ≤ frame) :
    foundBy shipOf frame = {
      display := displayOn? (shipOf 1)
      settings := (Settings.read (shipOf 2).settingsText).settings
      toggles := .restore (shipOf 3).storedState
      candidates := []
      controller := controllerOn? (shipOf 4)
      thrusters := thrusterIds (shipOf 6)
      tanks := tankIds (shipOf 7)
      groups := (shipOf 8).groups } := by
  induction h with
  | refl => rfl
  | @step frame hall ih =>
    have hnone : Step.all[frame]? = none := List.getElem?_eq_none hall
    rw [foundBy, hnone]
    exact ih

/-- The display is the one of the first frame, from that frame on. -/
theorem foundBy_display (shipOf : Nat → Ship) (frame : Nat) :
    (foundBy shipOf (frame + 1)).display = displayOn? (shipOf 1) := by
  induction frame with
  | zero => rfl
  | succ frame ih =>
    rw [foundBy]
    cases hnext : Step.all[frame + 1]? with
    | none => exact ih
    | some step =>
      have hplace := Step.getElem?_all_eq_some_iff.mp hnext
      simp only [Step.learn_display]
      split
      · rename_i hstep
        rw [hstep] at hplace
        contradiction
      · exact ih

theorem failures_succ_eq_zero_iff :
    failures ships (calls + 1) = 0 ↔
      failures ships calls = 0 ∧ (next ships calls).result.isOk = true := by
  rw [failures]
  cases (next ships calls).result.isOk <;> simp

/-- The ship of a frame is the one that its last call finds. -/
theorem framed_of_due (h : (calls + 1) / frameLength = calls / frameLength + 1) :
    framed ships (calls / frameLength + 1) = ships (calls + 1) := by
  have hlast : frameLength * (calls / frameLength + 1) = calls + 1 := by
    unfold frameLength at *
    omega
  rw [framed, hlast]

/-- As long as no call has failed, a boot knows what its frames have found so far. -/
theorem after_found (h : failures ships calls = 0) :
    (after ships calls).found = foundBy (framed ships) (calls / frameLength) := by
  induction calls with
  | zero => rfl
  | succ calls ih =>
    obtain ⟨hnone, hok⟩ := failures_succ_eq_zero_iff.mp h
    have hon := onTime_of_none hnone
    have hticked := next_ticked ships calls
    change (next ships calls).progress.found = _
    generalize next ships calls = ticked at hok hticked
    cases hticked with
    | wait early =>
      rw [(hon.not_due early).1]
      exact ih hnone
    | idle due none_left =>
      -- no step is left, and none is in the frames from here on
      have hall : Step.all.length ≤ (after ships calls).completed :=
        List.getElem?_eq_none_iff.mp none_left
      rw [hon.completed] at hall
      have hpast : Step.all[calls / frameLength]? = none :=
        List.getElem?_eq_none (Nat.le_trans hall (Nat.min_le_left _ _))
      rw [(hon.due due).1, foundBy, hpast]
      exact ih hnone
    | fail due step error next failed => contradiction
    | advance due step next succeeded =>
      have hframes := (hon.due due).1
      have hplace := (hon.pendingStep?_eq_some_iff step).mp next
      have hstep : Step.all[calls / frameLength]? = some step :=
        Step.getElem?_all_eq_some_iff.mpr hplace
      rw [hframes, foundBy, hstep, framed_of_due hframes, ← ih hnone]
      exact Step.run_found succeeded

/-- The first failure is for want of a display at call 5, or of a controller at call 25. -/
theorem next_isOk_iff (h : failures ships calls = 0) :
    (next ships calls).result.isOk = true ↔
      (calls + 1 = 5 → (displayOn? (ships 5)).isSome) ∧
      (calls + 1 = 25 → (controllerOn? (ships 20)).isSome) := by
  have hon := onTime_of_none h
  -- the choice is made in call 25 among the controllers that call 20 has listed
  have hcandidates : calls = 24 →
      (after ships calls).found.candidates = (ships 20).controllers.filter canSteer := by
    rintro rfl
    rw [after_found h]
    rfl
  rw [(next_ticked ships calls).isOk_iff, hon.due_iff]
  constructor
  · intro hran
    refine ⟨fun hcalls => ?_, fun hcalls => ?_⟩
    · obtain rfl : calls = 4 := Nat.succ.inj hcalls
      have hfirst := hran ⟨1, rfl⟩ .findDisplay ((hon.pendingStep?_eq_some_iff _).mpr rfl)
      exact (Step.run_error_eq_none_iff.mp hfirst).1 rfl
    · obtain rfl : calls = 24 := Nat.succ.inj hcalls
      have hfifth := hran ⟨5, rfl⟩ .pickController ((hon.pendingStep?_eq_some_iff _).mpr rfl)
      have hchoice := (Step.run_error_eq_none_iff.mp hfifth).2.2 rfl
      rw [hcandidates rfl] at hchoice
      exact hchoice
  · rintro ⟨hdisplay, hcontroller⟩ hdue step hnext
    have hcall := hon.call_of_pending hdue hnext
    have hcompleted : (after ships calls).completed = Step.all.idxOf step :=
      Step.getElem?_all_eq_some_iff.mp hnext
    refine Step.run_error_eq_none_iff.mpr ⟨?_, ?_, ?_⟩
    · rintro rfl
      have hfirst : calls + 1 = 5 := hcall
      rw [hfirst]
      exact hdisplay hfirst
    · rintro rfl
      exact hon.display (hcompleted ▸ Nat.one_pos)
    · rintro rfl
      have hfifth : calls + 1 = 25 := hcall
      rw [hcandidates (Nat.succ.inj hfifth)]
      exact hcontroller hfifth

/-- Calls fail only for want of a display in call 5, or of a controller on the ship of call 20,
which is missed in call 25. -/
theorem failures_eq_zero_iff :
    failures ships calls = 0 ↔
      (5 ≤ calls → (displayOn? (ships 5)).isSome) ∧
      (25 ≤ calls → (controllerOn? (ships 20)).isSome) := by
  induction calls with
  | zero => simp [failures]
  | succ calls ih =>
    rw [failures_succ_eq_zero_iff]
    constructor
    · rintro ⟨hnone, hok⟩
      obtain ⟨hdisplay, hcontroller⟩ := ih.mp hnone
      obtain ⟨hfirst, hsecond⟩ := (next_isOk_iff hnone).mp hok
      refine ⟨fun h => ?_, fun h => ?_⟩
      · obtain hnow | hbefore := Nat.eq_or_lt_of_le h
        · exact hfirst hnow.symm
        · exact hdisplay (Nat.le_of_lt_succ hbefore)
      · obtain hnow | hbefore := Nat.eq_or_lt_of_le h
        · exact hsecond hnow.symm
        · exact hcontroller (Nat.le_of_lt_succ hbefore)
    · rintro ⟨hdisplay, hcontroller⟩
      have hnone : failures ships calls = 0 :=
        ih.mpr ⟨fun h => hdisplay (by omega), fun h => hcontroller (by omega)⟩
      exact ⟨hnone, (next_isOk_iff hnone).mpr
        ⟨fun h => hdisplay (by omega), fun h => hcontroller (by omega)⟩⟩

/-- Without failures the boot goes on until call 110. -/
theorem next_booting (hnone : failures ships (calls + 1) = 0) (hearly : calls + 1 < 110) :
    (next ships calls).result = .ok .booting := by
  obtain ⟨hbefore, hok⟩ := failures_succ_eq_zero_iff.mp hnone
  have hdone := (next_ticked ships calls).done_iff (onTime_of_none hbefore)
  cases hresult : (next ships calls).result with
  | error error =>
    rw [hresult] at hok
    contradiction
  | ok status =>
    cases status with
    | booting => rfl
    | done =>
      have hlate := (hdone.mp hresult).2.2
      unfold frameLength at hlate
      omega

/-- A boot in which no call fails is over with call 110. -/
theorem next_done (hnone : failures ships 110 = 0) : (next ships 109).result = .ok .done := by
  obtain ⟨hbefore, hok⟩ := failures_succ_eq_zero_iff.mp hnone
  have hdone := (next_ticked ships 109).done_iff (onTime_of_none hbefore)
  exact hdone.mpr ⟨⟨22, rfl⟩, hok, by decide⟩

/-- What a boot hands over was found on these ships, each part on the ship of its own call. -/
structure Found (ships : Nat → Ship) (hud : Hud) : Prop where
  display : displayOn? (ships 5) = some hud.display
  settings : hud.settings = (Settings.read (ships 10).settingsText).settings
  toggles : hud.toggles = .restore (ships 15).storedState
  controller : controllerOn? (ships 20) = some hud.controller
  thrusters : hud.thrusters = thrusterIds (ships 30)
  tanks : hud.tanks = tankIds (ships 35)
  groups : hud.groups = (ships 40).groups
  status : hud.status = []

theorem Found.failures_eq_zero {hud : Hud} (h : Found ships hud) (calls : Nat) :
    failures ships calls = 0 := by
  rw [failures_eq_zero_iff, h.display, h.controller]
  exact ⟨fun _ => rfl, fun _ => rfl⟩

/-- The ships have the same of what a boot looks at, when it looks at it. -/
structure SameSnapshots (ships others : Nat → Ship) : Prop where
  displays : (others 5).displays.map Display.toDisplayIdentity =
    (ships 5).displays.map Display.toDisplayIdentity
  settingsText : (others 10).settingsText = (ships 10).settingsText
  storedState : (others 15).storedState = (ships 15).storedState
  controllers : (others 20).controllers = (ships 20).controllers
  thrusters : (others 30).thrusters = (ships 30).thrusters
  tanks : (others 35).tanks = (ships 35).tanks
  groups : (others 40).groups = (ships 40).groups

/-- Ships that agree in what a boot looks at, when it looks at it, are told apart by no boot. -/
theorem Found.congr {others : Nat → Ship} {hud : Hud} (h : Found ships hud)
    (hsame : SameSnapshots ships others) : Found others hud := by
  have hdisplay := displayOn?_congr hsame.displays
  have hcontroller : controllerOn? (others 20) = controllerOn? (ships 20) := by
    rw [controllerOn?, controllerOn?, hsame.controllers]
  have hthrusters : thrusterIds (others 30) = thrusterIds (ships 30) := by
    rw [thrusterIds, thrusterIds, hsame.thrusters]
  have htanks : tankIds (others 35) = tankIds (ships 35) := by
    rw [tankIds, tankIds, hsame.tanks]
  exact ⟨hdisplay.trans h.display, hsame.settingsText ▸ h.settings, hsame.storedState ▸ h.toggles,
    hcontroller.trans h.controller, hthrusters ▸ h.thrusters, htanks ▸ h.tanks,
    hsame.groups ▸ h.groups, h.status⟩

/-- A boot that has run all steps hands over what was found, and nothing else. -/
theorem finish_after_iff {hud : Hud} (hnone : failures ships calls = 0) (hall : 45 ≤ calls) :
    (after ships calls).finish = .ok hud ↔ Found ships hud := by
  have hframes : 9 ≤ calls / frameLength := by
    unfold frameLength
    omega
  have hfound := (after_found hnone).trans (foundBy_all (framed ships) hframes)
  rw [finish_eq_ok_iff, hfound]
  constructor
  · intro h
    exact ⟨h.display, h.settings, h.toggles, h.controller, h.thrusters, h.tanks, h.groups, h.status⟩
  · intro h
    exact ⟨h.display, h.controller, h.settings, h.toggles, h.thrusters, h.tanks, h.groups, h.status⟩

end CockpitHud.Boot.Progress
