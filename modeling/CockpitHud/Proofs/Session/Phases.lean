import CockpitHud.Proofs.Boot.Timeline
import CockpitHud.Proofs.Session.Basic
import CockpitHud.Ship.Build

namespace CockpitHud

namespace Program

open Boot (Progress)

variable {program : Program} {progress : Progress} {ship : Ship} {booted : TickResult}
  {made : Nat}

def Phase.next : Phase → List Phase
  | .booting => [.booting, .running, .halted]
  | .running => [.running]
  | .halted => [.halted]

def Phase.rate : Phase → CallRate
  | .running => .slow
  | .booting => .fast
  | .halted => .fast

/-- While a program boots, none of the calls made has failed and the last one is still to come; when
it runs, that one has been made. -/
def Timed (made : Nat) : Program → Prop
  | .booting progress => progress.OnTime made 0 ∧ made < 110
  | .running _ => 110 ≤ made
  | .halted => True

/-- What a call can do, when a number of calls has been made before it. -/
inductive Turn (made : Nat) (ship : Ship) : Phase → TickResult → Prop
  | boot (progress : Progress) (later : Ship) (on : progress.OnTime (made + 1) 0)
      (early : made + 1 < 110) (kept : later.frequency = ship.frequency) :
      Turn made ship .booting { program := .booting progress, ship := later }
  | report (hud : Hud) (later : Ship) (due : made + 1 = 110)
      (slow : later.frequency = some .slow) :
      Turn made ship .booting { program := .running hud, ship := later }
  | fail (error : Boot.Error)
      (lacking : made + 1 = 5 ∧ error = .noDisplay ∨ made + 1 = 25 ∧ error = .noController) :
      Turn made ship .booting
        { error := some error, program := .halted, ship := ship.echo error.message }
  | run (hud : Hud) (later : Ship) (kept : later.frequency = ship.frequency) :
      Turn made ship .running { program := .running hud, ship := later }
  | rest : Turn made ship .halted { program := .halted, ship := ship }

namespace Turn

variable {phase : Phase} {ticked : TickResult}

theorem moves (h : Turn made ship phase ticked) : ticked.program.phase ∈ phase.next := by
  cases h <;> simp [Phase.next, Program.phase]

/-- The call that halts a program gives the error. -/
theorem error_iff (h : Turn made ship phase ticked) :
    ticked.error.isSome ↔ phase = .booting ∧ ticked.program.phase = .halted := by
  cases h <;> simp [Program.phase]

theorem of_error (h : Turn made ship phase ticked) {error : Boot.Error}
    (herror : ticked.error = some error) :
    (made + 1 = 5 ∧ error = .noDisplay ∨ made + 1 = 25 ∧ error = .noController) ∧
      ticked.ship = ship.echo error.message := by
  cases h with
  | boot progress later on early kept => contradiction
  | report hud later due slow => contradiction
  | fail reason lacking =>
    cases herror
    exact ⟨lacking, rfl⟩
  | run hud later kept => contradiction
  | rest => contradiction

theorem of_halted (h : Turn made ship phase ticked) (hphase : phase = .halted) :
    ticked.error = none ∧ ticked.ship = ship := by
  cases h with
  | rest => exact ⟨rfl, rfl⟩
  | boot | report | fail | run => contradiction

/-- A call sets the rate when it moves on to another phase that needs another rate. -/
theorem frequency (h : Turn made ship phase ticked) (hrate : ship.frequency = some phase.rate) :
    ticked.ship.frequency = some ticked.program.phase.rate := by
  cases h with
  | boot progress later on early kept => exact kept.trans hrate
  | report hud later due slow => exact slow
  | fail error lacking => exact hrate
  | run hud later kept => exact kept.trans hrate
  | rest => exact hrate

end Turn

theorem Booted.turn (h : Booted progress ship booted) (hon : progress.OnTime made 0)
    (hearly : made < 110) : Turn made ship .booting booted := by
  have hticked := progress.tick_ticked ship
  have hafter := hticked.onTime hon
  have hdone := hticked.done_iff hon
  cases h with
  | fail error failed =>
    rw [hticked.ship_of_error hon failed]
    obtain ⟨hframe, ⟨hnext, rfl⟩ | ⟨hnext, rfl⟩⟩ := hticked.error_cases hon failed
    · exact .fail _ (.inl ⟨hon.call_of_pending hframe hnext, rfl⟩)
    · exact .fail _ (.inr ⟨hon.call_of_pending hframe hnext, rfl⟩)
  | wait unfinished =>
    rw [unfinished] at hafter hdone
    refine .boot _ _ hafter ?_ hticked.frequency
    by_contra hlate
    obtain rfl : made = 109 := by omega
    have hover := hdone.mpr ⟨⟨22, rfl⟩, rfl, by decide⟩
    contradiction
  | lack error done lacking =>
    rw [done] at hafter
    have hlate := (hdone.mp done).2.2
    have hall : Boot.Step.all.length = 9 := rfl
    have hcompleted : _ = min ((made + 1) / Boot.frameLength - 0) _ := hafter.completed
    obtain ⟨hud, hfinish⟩ := Progress.finish_isOk (hafter.display (by omega))
      (hafter.controller (by omega))
    rw [hfinish] at lacking
    contradiction
  | report hud done finished =>
    refine .report _ _ ?_ (hud.tick_frequency _ .noop)
    have hlate := (hdone.mp done).2.2
    unfold Boot.frameLength at hlate
    omega

theorem Timed.turn (h : program.Timed made) (ship : Ship) (argument : String) :
    Turn made ship program.phase (program.tick ship argument) := by
  cases program with
  | booting progress => exact (tickBoot_booted progress ship).turn h.1 h.2
  | running hud =>
    rw [tick_running]
    exact .run _ _ (hud.tick_frequency ship _)
  | halted => exact .rest

theorem Timed.tick (h : program.Timed made) (ship : Ship) (argument : String) :
    (program.tick ship argument).program.Timed (made + 1) := by
  have hturn := h.turn ship argument
  generalize program.tick ship argument = ticked at hturn
  generalize hphase : program.phase = phase at hturn
  cases hturn with
  | boot progress later on early kept => exact ⟨on, early⟩
  | report hud later due slow => exact Nat.le_of_eq due.symm
  | fail error lacking => exact True.intro
  | run hud later kept =>
    obtain ⟨before, rfl⟩ := exists_of_phase_running hphase
    exact Nat.le_succ_of_le h
  | rest => exact True.intro

end Program

namespace Call

def KeepsRate (call : Call) : Prop :=
  ∀ ship, (call.edit ship).frequency = ship.frequency

end Call

namespace Session

variable {session : Session} {ship : Ship} {calls : List Call} {made : Nat}

def resultAt (session : Session) (next : Call) : Program.TickResult :=
  session.program.tick (next.edit session.ship) next.argument

def errorsAt (session : Session) (next : Call) : List Boot.Error :=
  (session.resultAt next).error.toList

theorem timed_run (h : session.program.Timed made) (calls : List Call) :
    (session.run calls).program.Timed (made + calls.length) := by
  induction calls generalizing session made with
  | nil => exact h
  | cons next rest ih =>
    have hnext : (session.call next).program.Timed (made + 1) := h.tick _ next.argument
    have hrest := ih hnext
    rw [Nat.add_right_comm] at hrest
    exact hrest

theorem start_timed (ship : Ship) : (start ship).program.Timed 0 :=
  ⟨Boot.Progress.start_onTime, Nat.succ_pos 109⟩

theorem timed_of_run (ship : Ship) (calls : List Call) :
    ((start ship).run calls).program.Timed calls.length := by
  have htimed := timed_run (start_timed ship) calls
  rw [Nat.zero_add] at htimed
  exact htimed

/-- What a call can do is told by its number and the phase alone. -/
theorem turn_of_run (ship : Ship) (calls : List Call) (next : Call) :
    Program.Turn calls.length (next.edit ((start ship).run calls).ship)
      ((start ship).run calls).program.phase (((start ship).run calls).resultAt next) :=
  (timed_of_run ship calls).turn _ _

/-- A run has one error if it has halted, and none otherwise. -/
theorem errors_of_run (ship : Ship) (calls : List Call) :
    ((start ship).collect errorsAt calls).length =
      if ((start ship).run calls).program.phase = .halted then 1 else 0 := by
  induction calls using List.reverseRecOn with
  | nil => rfl
  | append_singleton calls next ih =>
    have hturn := turn_of_run ship calls next
    rw [collect_concat, List.length_append, ih, run_concat]
    change _ + (((start ship).run calls).resultAt next).error.toList.length =
      if (((start ship).run calls).resultAt next).program.phase = .halted then 1 else 0
    generalize ((start ship).run calls).resultAt next = ticked at hturn
    generalize ((start ship).run calls).program.phase = phase at hturn
    cases hturn <;> rfl

/-- A program has had an error if and only if it has halted. -/
theorem errors_eq_nil_iff (ship : Ship) (calls : List Call) :
    (start ship).collect errorsAt calls = [] ↔
      ((start ship).run calls).program.phase ≠ .halted := by
  have hlength := errors_of_run ship calls
  rw [← List.length_eq_zero_iff, hlength]
  split <;> simp_all

/-- A program runs once call 110 has been made, if there was no error. -/
theorem running_iff (ship : Ship) (calls : List Call) :
    ((start ship).run calls).program.phase = .running ↔
      110 ≤ calls.length ∧ (start ship).collect errorsAt calls = [] := by
  have htimed := timed_of_run ship calls
  rw [errors_eq_nil_iff]
  cases hprogram : ((start ship).run calls).program with
  | booting progress =>
    rw [hprogram] at htimed
    have hearly := htimed.2
    simp [Program.phase, hearly]
  | running hud =>
    rw [hprogram] at htimed
    exact ⟨fun _ => ⟨htimed, nofun⟩, fun _ => rfl⟩
  | halted => simp [Program.phase]

/-- A program that runs has been running since call 110. -/
theorem running_since_boot (h : ((start ship).run calls).program.phase = .running) :
    110 ≤ calls.length ∧ ((start ship).run (calls.take 110)).program.phase = .running := by
  obtain ⟨hlate, hnone⟩ := (running_iff ship calls).mp h
  rw [← List.take_append_drop 110 calls, collect_append] at hnone
  have hlength : (calls.take 110).length = 110 := List.length_take_of_le hlate
  have hboot := (List.append_eq_nil_iff.mp hnone).1
  exact ⟨hlate, (running_iff ship _).mpr ⟨Nat.le_of_eq hlength.symm, hboot⟩⟩

/-- The boot hands over in call 110. -/
theorem hands_over_iff (ship : Ship) (calls : List Call) (next : Call) :
    ((start ship).run calls).program.phase = .booting ∧
        (((start ship).run calls).call next).program.phase = .running ↔
      calls.length + 1 = 110 ∧ (start ship).collect errorsAt (calls ++ [next]) = [] := by
  have hbefore := running_iff ship calls
  have hafter := running_iff ship (calls ++ [next])
  rw [run_concat, List.length_append, List.length_singleton] at hafter
  constructor
  · rintro ⟨hbooting, hrunning⟩
    obtain ⟨hlate, hnone⟩ := hafter.mp hrunning
    have hearly : calls.length < 110 := by
      by_contra hpast
      rw [collect_concat] at hnone
      have hearlier := hbefore.mpr
        ⟨Nat.le_of_not_lt hpast, (List.append_eq_nil_iff.mp hnone).1⟩
      rw [hbooting] at hearlier
      contradiction
    exact ⟨Nat.le_antisymm hearly hlate, hnone⟩
  · rintro ⟨hlast, hnone⟩
    refine ⟨?_, hafter.mpr ⟨Nat.le_of_eq hlast.symm, hnone⟩⟩
    have hfirst := (errors_eq_nil_iff ship calls).mp <| by
      rw [collect_concat] at hnone
      exact (List.append_eq_nil_iff.mp hnone).1
    cases hphase : ((start ship).run calls).program.phase with
    | booting => rfl
    | running =>
      have hlate := (hbefore.mp hphase).1
      omega
    | halted => contradiction

/-- The rate of the calls is always that of the phase. -/
theorem rate_of_run (ship : Ship) (hcalls : ∀ next ∈ calls, next.KeepsRate) :
    ((start ship).run calls).ship.frequency =
      some ((start ship).run calls).program.phase.rate := by
  induction calls using List.reverseRecOn with
  | nil => rfl
  | append_singleton calls next ih =>
    have hbefore := ih fun call hcall => hcalls call (List.mem_append_left _ hcall)
    have hnext : next.KeepsRate := hcalls next (by simp)
    have hfound := (hnext ((start ship).run calls).ship).trans hbefore
    rw [run_concat]
    exact (turn_of_run ship calls next).frequency hfound

theorem undisturbed_keepsRate (arguments : List String) :
    ∀ next ∈ undisturbed arguments, next.KeepsRate := by
  intro next hnext
  obtain ⟨argument, _, rfl⟩ := List.mem_map.mp hnext
  exact fun ship => rfl

/-- A program that boots runs from call 110 on, or else halts for good in call 5 for want of a
display or in call 25 for want of a controller. The call that halts it gives the only error of the
run, echoes it and does nothing else to the ship; the calls after it do nothing at all. While nobody
else sets the rate of the calls, it is quick in every phase but the running one. -/
theorem phases_of_run (ship : Ship) (calls : List Call) (next : Call) :
    let session := (start ship).run calls
    let later := session.call next
    later.program.phase ∈ session.program.phase.next ∧
      ((session.resultAt next).error.isSome ↔
        session.program.phase = .booting ∧ later.program.phase = .halted) ∧
      ((start ship).collect errorsAt calls).length ≤ 1 ∧
      (∀ error, (session.resultAt next).error = some error →
        (calls.length + 1 = 5 ∧ error = .noDisplay ∨
          calls.length + 1 = 25 ∧ error = .noController) ∧
        later.ship = (next.edit session.ship).echo error.message) ∧
      (session.program.phase = .halted →
        (session.resultAt next).error = none ∧ later.ship = next.edit session.ship) ∧
      (session.program.phase = .booting ∧ later.program.phase = .running ↔
        calls.length + 1 = 110 ∧ (start ship).collect errorsAt (calls ++ [next]) = []) ∧
      ((∀ call ∈ calls, call.KeepsRate) →
        session.ship.frequency = some session.program.phase.rate) := by
  intro session later
  have hturn := turn_of_run ship calls next
  refine ⟨hturn.moves, hturn.error_iff, ?_, fun error => hturn.of_error, hturn.of_halted,
    hands_over_iff ship calls next, rate_of_run ship⟩
  rw [errors_of_run]
  split <;> decide

def unmanned : Ship :=
  { Ship.sample with controllers := [] }

/-- Call 25 halts the program, and says so once. -/
theorem phases_of_run_unmanned :
    let calls := undisturbed (List.replicate 24 "rcs")
    let session := (start unmanned).run calls
    (session.resultAt ⟨id, "setup"⟩).error = some .noController ∧
      (session.call ⟨id, "setup"⟩).program.phase = .halted ∧
      (session.call ⟨id, "setup"⟩).ship = session.ship.echo Boot.Error.noController.message ∧
      session.ship.frequency = some .fast := by
  intro calls session
  obtain ⟨_, herror, _, hfailed, _, _, hrate⟩ := phases_of_run unmanned calls ⟨id, "setup"⟩
  have hfails : (session.resultAt ⟨id, "setup"⟩).error = some .noController := by decide +kernel
  obtain ⟨hphase, hhalted⟩ := herror.mp (Option.isSome_of_eq_some hfails)
  have hfrequency := hrate (undisturbed_keepsRate _)
  rw [hphase] at hfrequency
  exact ⟨hfails, hhalted, (hfailed _ hfails).2, hfrequency⟩

end Session

end CockpitHud
