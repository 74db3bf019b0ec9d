import CockpitHud.Proofs.Session.Basic
import CockpitHud.Proofs.Toggles

namespace CockpitHud

namespace Hud

def flips (hud : Hud) (ship : Ship) (command : Command) : List Switch :=
  if ship.displayWorks hud.display.id then command.switch?.toList else []

theorem tick_toggles_eq_flipAll (hud : Hud) (ship : Ship) (command : Command) :
    (hud.tick ship command).1.toggles = hud.toggles.flipAll (hud.flips ship command) := by
  rw [tick_toggles, flips]
  cases ship.displayWorks hud.display.id with
  | false => rfl
  | true => cases command.switch? <;> rfl

/-- A call that flips a switch stores the toggles, and no other call touches what is stored. -/
theorem tick_storedState_eq (hud : Hud) (ship : Ship) (command : Command) :
    (hud.tick ship command).2.storedState =
      if hud.flips ship command = [] then ship.storedState
      else (hud.tick ship command).1.toggles.store := by
  rw [tick_storedState, tick_toggles, flips]
  cases ship.displayWorks hud.display.id with
  | false => rfl
  | true => cases command.switch? <;> rfl

end Hud

namespace Program

/-- The toggles are those of the stored text after some flips. Nothing is flipped while the program
boots. -/
def Follows (stored : String) (flipped : List Switch) : Program → Prop
  | .booting progress => flipped = [] ∧ progress.Recalls stored
  | .running hud => hud.toggles = (Toggles.restore stored).flipAll flipped
  | .halted => True

theorem Booted.follows {progress : Boot.Progress} {ship : Ship} {booted : TickResult}
    (h : Booted progress ship booted) (hrecalls : progress.Recalls ship.storedState) :
    booted.program.Follows ship.storedState [] := by
  have hticked := progress.tick_ticked ship
  cases h with
  | fail error failed => exact True.intro
  | wait unfinished => exact ⟨rfl, hticked.recalls hrecalls⟩
  | lack error done lacking => exact True.intro
  | report hud done finished =>
    have htoggles := (Boot.Progress.finish_eq_ok_iff.mp finished).toggles
    change (hud.tick _ .noop).1.toggles = .restore ship.storedState
    rw [Hud.tick_toggles, ← hticked.toggles_of_done hrecalls done, ← htoggles]
    split <;> rfl

end Program

namespace Session

variable {session : Session} {stored : String} {flipped : List Switch} {next : Call}

/-- Some switches have been flipped since the start, and the stored text and the toggles tell the
same about it. -/
structure Follows (session : Session) (stored : String) (flipped : List Switch) : Prop where
  program : session.program.Follows stored flipped
  store : session.ship.storedState =
    if flipped = [] then stored else ((Toggles.restore stored).flipAll flipped).store

theorem start_follows (ship : Ship) : (start ship).Follows ship.storedState [] := by
  refine ⟨⟨rfl, ?_⟩, rfl⟩
  intro hmem
  contradiction

/-- A program started anew finds the toggles as they were. -/
theorem Follows.restore (h : session.Follows stored flipped) :
    Toggles.restore session.ship.storedState = (Toggles.restore stored).flipAll flipped := by
  rw [h.store]
  split
  · rename_i hnone
    rw [hnone]
    rfl
  · exact Toggles.restore_store _

theorem flippedAt_running (hud : Hud) (ship : Ship) (next : Call) :
    (Session.mk (.running hud) ship).flippedAt next =
      hud.flips (next.edit ship) next.command := by
  rw [flippedAt, active?_running, Hud.flips]
  split <;> rfl

/-- A call keeps the toggles and the stored text together. -/
theorem Follows.call (h : session.Follows stored flipped) (hnext : next.KeepsStore) :
    (session.call next).Follows stored (flipped ++ session.flippedAt next) := by
  obtain ⟨hprogram, hstore⟩ := h
  obtain ⟨program, ship⟩ := session
  have hkept : (next.edit ship).storedState = ship.storedState := hnext ship
  cases program with
  | booting progress =>
    obtain ⟨rfl, hrecalls⟩ := hprogram
    have hbooted := Program.tickBoot_booted progress (next.edit ship)
    have hstored : (next.edit ship).storedState = stored := hkept.trans hstore
    refine ⟨?_, hbooted.storedState.trans hstored⟩
    rw [← hstored] at hrecalls ⊢
    exact hbooted.follows hrecalls
  | halted =>
    have hnone : (Session.mk .halted ship).flippedAt next = [] := rfl
    rw [hnone, List.append_nil]
    exact ⟨True.intro, hkept.trans hstore⟩
  | running hud =>
    rw [flippedAt_running, call_running]
    have htoggles : (hud.tick (next.edit ship) next.command).1.toggles =
        (Toggles.restore stored).flipAll (flipped ++ hud.flips (next.edit ship) next.command) := by
      rw [Hud.tick_toggles_eq_flipAll, Toggles.flipAll_append, show hud.toggles = _ from hprogram]
    refine ⟨htoggles, (hud.tick_storedState_eq (next.edit ship) next.command).trans ?_⟩
    rw [← htoggles]
    by_cases hnone : hud.flips (next.edit ship) next.command = []
    · rw [if_pos hnone, htoggles, hnone, List.append_nil]
      exact hkept.trans hstore
    · rw [if_neg hnone, if_neg fun hnil => hnone (List.append_eq_nil_iff.mp hnil).2]

/-- The toggles and the stored text never drift apart. -/
theorem Follows.run (h : session.Follows stored flipped) {calls : List Call}
    (hcalls : ∀ next ∈ calls, next.KeepsStore) :
    (session.run calls).Follows stored (flipped ++ session.collect flippedAt calls) := by
  induction calls generalizing session flipped with
  | nil => exact (List.append_nil flipped).symm ▸ h
  | cons next rest ih =>
    have hnext := h.call (hcalls next List.mem_cons_self)
    have hrest := ih hnext fun later hlater => hcalls later (List.mem_cons_of_mem next hlater)
    rw [List.append_assoc] at hrest
    exact hrest

/-- A program has the stored toggles when its boot is over. -/
theorem toggles_of_boot (ship : Ship) {calls : List Call}
    (hcalls : ∀ next ∈ calls, next.KeepsStore) (hlast : next.KeepsStore)
    {progress : Boot.Progress} (hbooting : ((start ship).run calls).program = .booting progress)
    {hud : Hud} (hrunning : (((start ship).run calls).call next).program = .running hud) :
    hud.toggles = Toggles.restore ship.storedState := by
  have hbefore := (start_follows ship).run hcalls
  have hafter := (hbefore.call hlast).program
  have hnone : ((start ship).run calls).flippedAt next = [] := by
    rw [flippedAt, active?, hbooting]
    rfl
  obtain ⟨hflipped, _⟩ : _ ∧ progress.Recalls ship.storedState := hbooting ▸ hbefore.program
  rw [hrunning, hnone, hflipped] at hafter
  exact hafter

/-- In every running state the stored text holds the toggles, each switch has been turned over by
the calls that flipped it and by no others, and the text is the first one until there was such a
call. A program started anew with that text boots to the same toggles. -/
theorem toggles_follow_store (ship : Ship) {calls : List Call}
    (hcalls : ∀ next ∈ calls, next.KeepsStore) {hud : Hud}
    (hrunning : ((start ship).run calls).program = .running hud) :
    let session := (start ship).run calls
    let flipped := (start ship).collect flippedAt calls
    Toggles.restore session.ship.storedState = hud.toggles ∧
      (∀ switch, hud.toggles.get switch =
        ((Toggles.restore ship.storedState).get switch ^^
          decide (flipped.count switch % 2 = 1))) ∧
      session.ship.storedState =
        (if flipped = [] then ship.storedState else hud.toggles.store) ∧
      ∀ (found : Ship) (again : List Call) (last : Call) (progress : Boot.Progress)
        (recreated : Hud), found.storedState = session.ship.storedState →
        (∀ next ∈ again, next.KeepsStore) → last.KeepsStore →
        ((start found).run again).program = .booting progress →
        (((start found).run again).call last).program = .running recreated →
        recreated.toggles = hud.toggles := by
  intro session flipped
  have hfollows : session.Follows ship.storedState flipped := (start_follows ship).run hcalls
  have hhud : hud.toggles = (Toggles.restore ship.storedState).flipAll flipped := by
    have hprogram := hfollows.program
    rw [hrunning] at hprogram
    exact hprogram
  refine ⟨hfollows.restore.trans hhud.symm, ?_, ?_, ?_⟩
  · intro switch
    rw [hhud]
    exact Toggles.get_flipAll _ flipped switch
  · rw [hhud]
    exact hfollows.store
  · intro found again last progress recreated hfound hagain hlast hbooting hrecreated
    rw [toggles_of_boot found hagain hlast hbooting hrecreated, hfound, hfollows.restore, hhud]

/-- A small ship with a stored text that is partly spoiled. -/
def tug : Ship where
  displays := [{ id := ⟨1⟩, name := "LCD DeltaV" }]
  controllers := [{ id := ⟨2⟩, name := "Cockpit" }]
  totalMass := 1000.0
  storedState := "false ; maybe;TRUE"

/-- The spoiled field counts as on, the first two switches are flipped, and a program started anew
agrees. -/
theorem toggles_follow_spoiled_store :
    let session := (start tug).run (undisturbed (List.replicate 110 "" ++ ["RCS ", "burn"]))
    let again := (start { tug with storedState := "True;False;True" }).run
      (undisturbed (List.replicate 109 ""))
    ∃ hud recreated, session.program = .running hud ∧
      (again.call ⟨id, "all"⟩).program = .running recreated ∧
      session.ship.storedState = "True;False;True" ∧ hud.toggles = ⟨true, false, true⟩ ∧
      recreated.toggles = hud.toggles := by
  intro session again
  obtain ⟨hud, hhud⟩ : ∃ hud, session.program = .running hud :=
    Program.exists_of_phase_running (by decide +kernel)
  obtain ⟨progress, hprogress⟩ : ∃ progress, again.program = .booting progress :=
    Program.exists_of_phase_booting (by decide +kernel)
  obtain ⟨recreated, hrecreated⟩ :
      ∃ recreated, (again.call ⟨id, "all"⟩).program = .running recreated :=
    Program.exists_of_phase_running (by decide +kernel)
  have hstored : session.ship.storedState = "True;False;True" := by decide +kernel
  obtain ⟨hrestore, _, _, hagain⟩ :=
    toggles_follow_store tug (undisturbed_keepsStore _) hhud
  refine ⟨hud, recreated, hhud, hrecreated, hstored, ?_, ?_⟩
  · rw [← hrestore]
    decide +kernel
  · exact hagain _ _ ⟨id, "all"⟩ progress recreated hstored.symm (undisturbed_keepsStore _)
      (fun _ => rfl) hprogress hrecreated

end Session

end CockpitHud
