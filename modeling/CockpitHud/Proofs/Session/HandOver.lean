import CockpitHud.Proofs.Boot.Discovery
import CockpitHud.Proofs.Session.Basic
import CockpitHud.Ship.Build

namespace CockpitHud

namespace Session

open Boot.Progress (after next failures)

variable {session : Session} {ship : Ship} {calls : List Call} {made : Nat}

theorem run_take_of_booting {start : Session} {progress : Boot.Progress}
    (hmade : made < calls.length)
    (hbooting : (start.run (calls.take made)).program = .booting progress) :
    start.run (calls.take (made + 1)) =
      ⟨(Program.tickBoot progress (start.shipAt calls (made + 1))).program,
        (Program.tickBoot progress (start.shipAt calls (made + 1))).ship⟩ := by
  have hnext : calls[made]? = some calls[made] := List.getElem?_eq_getElem hmade
  rw [run_take_succ hnext, shipAt_succ hnext, call, hbooting]
  rfl

theorem run_take_of_halted {start : Session} (hmade : made < calls.length)
    (hhalted : (start.run (calls.take made)).program = .halted) :
    (start.run (calls.take (made + 1))).program = .halted := by
  have hnext : calls[made]? = some calls[made] := List.getElem?_eq_getElem hmade
  rw [run_take_succ hnext, call, hhalted]
  rfl

/-- Before its last call a boot is where the ships of its calls have brought it, or has failed. -/
theorem program_of_boot (ship : Ship) (hmade : made ≤ calls.length) (hearly : made < 110) :
    ((start ship).run (calls.take made)).program =
      if failures ((start ship).shipAt calls) made = 0
      then .booting (after ((start ship).shipAt calls) made) else .halted := by
  induction made with
  | zero => rfl
  | succ made ih =>
    have hbefore := ih (Nat.le_of_succ_le hmade) (Nat.lt_of_succ_lt hearly)
    by_cases hnone : failures ((start ship).shipAt calls) made = 0
    · rw [if_pos hnone] at hbefore
      rw [run_take_of_booting hmade hbefore]
      cases hok : (next ((start ship).shipAt calls) made).result.isOk with
      | true =>
        have hgoes := Boot.Progress.failures_succ_eq_zero_iff.mpr ⟨hnone, hok⟩
        rw [if_pos hgoes, Program.tickBoot_of_booting (Boot.Progress.next_booting hgoes hearly)]
        rfl
      | false =>
        have hfails : failures ((start ship).shipAt calls) (made + 1) ≠ 0 := by
          simp [failures, hok]
        rw [if_neg hfails]
        exact Program.tickBoot_of_not_ok hok
    · rw [if_neg hnone] at hbefore
      have hfails : failures ((start ship).shipAt calls) (made + 1) ≠ 0 :=
        fun h => hnone (Boot.Progress.failures_succ_eq_zero_iff.mp h).1
      rw [if_neg hfails, run_take_of_halted hmade hbefore]

/-- The ship that a call leaves while the boot goes on. -/
theorem run_take_of_early (ship : Ship) (hmade : made < calls.length) (hearly : made + 1 < 110)
    (hnone : failures ((start ship).shipAt calls) (made + 1) = 0) :
    (start ship).run (calls.take (made + 1)) =
      ⟨.booting (after ((start ship).shipAt calls) (made + 1)),
        (next ((start ship).shipAt calls) made).ship⟩ := by
  have hbooting := program_of_boot ship (Nat.le_of_lt hmade) (Nat.lt_of_succ_lt hearly)
  rw [if_pos (Boot.Progress.failures_succ_eq_zero_iff.mp hnone).1] at hbooting
  rw [run_take_of_booting hmade hbooting,
    Program.tickBoot_of_booting (Boot.Progress.next_booting hnone hearly)]
  rfl

/-- The call that ends a boot reports on the ship that it finds. -/
theorem run_take_of_done (hmade : made < calls.length) {hud : Hud}
    (hbooting : ((start ship).run (calls.take made)).program =
      .booting (after ((start ship).shipAt calls) made))
    (hdone : (next ((start ship).shipAt calls) made).result = .ok .done)
    (hfinish : (after ((start ship).shipAt calls) (made + 1)).finish = .ok hud) :
    (start ship).run (calls.take (made + 1)) = ⟨.running hud, (hud.tick
      { (next ((start ship).shipAt calls) made).ship with frequency := some .slow } .noop).2⟩ := by
  rw [run_take_of_booting hmade hbooting, Program.tickBoot_of_done hdone hfinish]
  rfl

theorem run_boot (hlength : calls.length = 110) {hud : Hud}
    (hfound : Boot.Progress.Found ((start ship).shipAt calls) hud) :
    (start ship).run calls = ⟨.running hud, (hud.tick
      { (next ((start ship).shipAt calls) 109).ship with frequency := some .slow } .noop).2⟩ := by
  have hnone := hfound.failures_eq_zero
  have hmade : 109 < calls.length := by omega
  have hbooting := program_of_boot ship (Nat.le_of_lt hmade) (Nat.lt_succ_self 109)
  rw [if_pos (hnone 109)] at hbooting
  have hfinish := (Boot.Progress.finish_after_iff (hnone 110) (by omega)).mpr hfound
  have hall : calls.take (109 + 1) = calls := List.take_of_length_le (by omega)
  have hrun := run_take_of_done hmade hbooting (Boot.Progress.next_done (hnone 110)) hfinish
  rw [hall] at hrun
  exact hrun

/-- A boot that has failed has failed before its last call. -/
theorem halted_of_failures (hlength : calls.length = 110)
    (hfailed : failures ((start ship).shipAt calls) 110 ≠ 0) :
    ((start ship).run calls).program = .halted := by
  have hbefore : failures ((start ship).shipAt calls) 109 ≠ 0 := by
    intro hnone
    apply hfailed
    obtain ⟨hdisplay, hcontroller⟩ := Boot.Progress.failures_eq_zero_iff.mp hnone
    exact Boot.Progress.failures_eq_zero_iff.mpr
      ⟨fun _ => hdisplay (by omega), fun _ => hcontroller (by omega)⟩
  have hmade : 109 < calls.length := by omega
  have hhalted := program_of_boot ship (Nat.le_of_lt hmade) (Nat.lt_succ_self 109)
  rw [if_neg hbefore] at hhalted
  have hall : calls.take (109 + 1) = calls := List.take_of_length_le (by omega)
  rw [← hall, run_take_of_halted hmade hhalted]

/-- After 110 calls a program runs with what was found on the ships of those calls, or not at
all. -/
theorem run_boot_iff (hlength : calls.length = 110) (hud : Hud) :
    ((start ship).run calls).program = .running hud ↔
      Boot.Progress.Found ((start ship).shipAt calls) hud := by
  constructor
  · intro hrunning
    by_cases hnone : failures ((start ship).shipAt calls) 110 = 0
    · have hon := Boot.Progress.onTime_of_none hnone
      have hcompleted := hon.completed
      obtain ⟨found, hfinish⟩ := Boot.Progress.finish_isOk
        (hon.display (hcompleted ▸ by decide)) (hon.controller (hcompleted ▸ by decide))
      have hfound := (Boot.Progress.finish_after_iff hnone (by omega)).mp hfinish
      rw [run_boot hlength hfound] at hrunning
      cases hrunning
      exact hfound
    · rw [halted_of_failures hlength hnone] at hrunning
      contradiction
  · intro hfound
    rw [run_boot hlength hfound]

/-- What a program runs with when its boot is over was found on the ships of seven calls, each part
on the ship of its own call. What becomes of the ship at any other time changes none of it, and
cannot keep the boot from its end. -/
theorem boot_hands_over (ship : Ship) {calls : List Call} (hlength : calls.length = 110) {hud : Hud}
    (hrunning : ((start ship).run calls).program = .running hud) :
    Boot.Progress.Found ((start ship).shipAt calls) hud ∧
      ∀ (other : Ship) (others : List Call), others.length = 110 →
        Boot.Progress.SameSnapshots ((start ship).shipAt calls) ((start other).shipAt others) →
        ((start other).run others).program = .running hud := by
  have hfound := (run_boot_iff hlength hud).mp hrunning
  refine ⟨hfound, ?_⟩
  intro other others hothers hsame
  exact (run_boot_iff hothers hud).mpr (hfound.congr hsame)

/-- The arguments of the calls count for nothing, and a group that appears in time for call 40 is
there. -/
theorem boot_hands_over_new_group :
    let calls := undisturbed (List.replicate 39 "setup") ++
      [⟨fun ship => ship.addGroup "Braking" [⟨7⟩], "rcs"⟩] ++
      undisturbed (List.replicate 70 "burn")
    ∃ hud, ((start .sample).run calls).program = .running hud ∧
      hud.display.name = "LCD DeltaV" ∧ hud.controller.name = "Helm" ∧ hud.toggles = {} ∧
      hud.groups.map (·.name) = ["All Drives", "boost", "Braking"] := by
  intro calls
  obtain ⟨hud, hrunning⟩ : ∃ hud, ((start .sample).run calls).program = .running hud :=
    Program.exists_of_phase_running (by decide +kernel)
  have hfound := (boot_hands_over .sample rfl hrunning).1
  have hdisplay : (Boot.displayOn? ((start .sample).shipAt calls 5)).map (·.name) =
    some "LCD DeltaV" := by decide +kernel
  have hcontroller : (Boot.controllerOn? ((start .sample).shipAt calls 20)).map (·.name) =
    some "Helm" := by decide +kernel
  rw [hfound.display] at hdisplay
  rw [hfound.controller] at hcontroller
  refine ⟨hud, hrunning, Option.some.inj hdisplay, Option.some.inj hcontroller, ?_, ?_⟩
  · rw [hfound.toggles]
    decide +kernel
  · rw [hfound.groups]
    decide +kernel

end Session

end CockpitHud
