import CockpitHud.Proofs.Scenario.Log
import CockpitHud.Proofs.Scenario.Schedule
import CockpitHud.Proofs.Session.Undisturbed

namespace CockpitHud.Scenario

def Event.isEnd : Event → Bool
  | .finished _ => true
  | .failed _ => true
  | _ => false

/-- The last event, and no other, ends the run; if it is an error, that is what was echoed last. -/
def EndsWith (events : List Event) (final : Event) : Prop :=
  ∃ before, events = before ++ [final] ∧ (∀ event ∈ before, event.isEnd = false) ∧
    ∀ error, final = .failed error →
      (before.filterMap Event.echo?).getLast? = some error.message

namespace Run

variable {receive : Nat → Receipt} {run : Run} {limit call : Nat}

def calls (receive : Nat → Receipt) : Nat → Run → Nat
  | 0, _ => 0
  | remaining + 1, run =>
    if receive run.count = .stop then 0
    else
      let stepped := run.step (receive run.count)
      if stepped.error.isSome then 1 else calls receive remaining stepped.run + 1

theorem calls_succ (hopen : receive run.count ≠ .stop) :
    calls receive (limit + 1) run =
      if (run.next receive).error.isSome then 1
      else calls receive limit (run.next receive).run + 1 := by
  rw [calls, if_neg hopen]
  rfl

/-- A run goes on to the first call that ends in an error. -/
theorem play_of_error (hopen : ∀ count, receive count ≠ .stop) (hcall : call < limit)
    (hwell : ∀ earlier < call, run.errorAt receive earlier = none)
    (herror : (run.errorAt receive call).isSome) :
    play receive limit run = run.sent receive (call + 1) ∧
      calls receive limit run = call + 1 := by
  induction limit generalizing run call with
  | zero => contradiction
  | succ limit ih =>
    rw [play_succ (hopen _), calls_succ (hopen _), sent_next]
    cases call with
    | zero =>
      rw [errorAt_zero] at herror
      rw [if_pos herror, if_pos herror]
      exact ⟨(List.append_nil _).symm, rfl⟩
    | succ call =>
      have hfirst := hwell 0 (Nat.succ_pos call)
      rw [errorAt_zero] at hfirst
      obtain ⟨hplay, hcalls⟩ :
          play receive limit (run.next receive).run =
              (run.next receive).run.sent receive (call + 1) ∧
            calls receive limit (run.next receive).run = call + 1 := by
        refine ih (Nat.lt_of_succ_lt_succ hcall) (fun earlier hearlier => ?_) ?_
        · rw [errorAt_next]
          exact hwell (earlier + 1) (Nat.succ_lt_succ hearlier)
        · rwa [errorAt_next]
      rw [hfirst, Option.isSome_none, if_neg Bool.false_ne_true, if_neg Bool.false_ne_true,
        hplay, hcalls]
      exact ⟨rfl, rfl⟩

/-- A run without errors makes all its calls. -/
theorem play_of_well (hopen : ∀ count, receive count ≠ .stop)
    (hwell : ∀ call < limit, run.errorAt receive call = none) :
    play receive limit run = run.sent receive limit ++ [.finished (run.count + limit)] ∧
      calls receive limit run = limit := by
  induction limit generalizing run with
  | zero => exact ⟨rfl, rfl⟩
  | succ limit ih =>
    have hfirst := hwell 0 (Nat.succ_pos limit)
    rw [errorAt_zero] at hfirst
    obtain ⟨hplay, hcalls⟩ :
        play receive limit (run.next receive).run =
            (run.next receive).run.sent receive limit ++
              [.finished ((run.next receive).run.count + limit)] ∧
          calls receive limit (run.next receive).run = limit := by
      refine ih fun call hcall => ?_
      rw [errorAt_next]
      exact hwell (call + 1) (Nat.succ_lt_succ hcall)
    have hcount : (run.next receive).run.count + limit = run.count + (limit + 1) := by
      rw [next_count]
      omega
    rw [play_succ (hopen _), calls_succ (hopen _), sent_next, hfirst, Option.isSome_none,
      if_neg Bool.false_ne_true, if_neg Bool.false_ne_true, hplay, hcalls, hcount,
      List.append_assoc]
    exact ⟨rfl, rfl⟩

end Run

variable {scenario : Scenario} {receive : Nat → Receipt} {call limit : Nat} {error : Boot.Error}
  {event : Event}

/-- Nobody but the program touches the ship of a run. -/
theorem session_runAt (scenario : Scenario) (receive : Nat → Receipt) (call : Nat) :
    Session.mk (scenario.runAt receive call).program (scenario.runAt receive call).ship =
      (Session.start scenario.ship).run
        (Session.undisturbed ((List.range call).map (scenario.givenAt receive))) := by
  induction call with
  | zero => rfl
  | succ call ih =>
    rw [List.range_succ, List.map_append, List.map_singleton, Session.run_undisturbed_concat, ← ih,
      runAt_succ, Run.step_eq]
    rfl

/-- What a call of a run gives. -/
theorem resultAt_runAt (scenario : Scenario) (receive : Nat → Receipt) (call : Nat) :
    let session := (Session.start scenario.ship).run
      (Session.undisturbed ((List.range call).map (scenario.givenAt receive)))
    let result := session.resultAt ⟨id, scenario.givenAt receive call⟩
    (Run.start scenario).errorAt receive call = result.error ∧
      (scenario.runAt receive (call + 1)).ship = result.ship := by
  intro session result
  have hcount := scenario.runAt_count receive call
  have hsession : session = _ := (scenario.session_runAt receive call).symm
  constructor
  · rw [Run.errorAt, Run.next, ← runAt, hcount, Run.step_eq]
    simp only [result, hsession]
    rfl
  · rw [runAt_succ, Run.step_eq]
    simp only [result, hsession]
    rfl

/-- A run has the error of its boot, in the call that the ship alone decides, and no other. -/
theorem errorAt_eq_some_iff :
    (Run.start scenario).errorAt receive call = some error ↔
      scenario.ship.bootFailure? = some (call + 1, error) := by
  rw [(scenario.resultAt_runAt receive call).1, Session.error_iff_failure, List.length_map,
    List.length_range]

theorem errorAt_eq_none (h : ∀ failure ∈ scenario.ship.bootFailure?, failure.1 ≠ call + 1) :
    (Run.start scenario).errorAt receive call = none := by
  rw [Option.eq_none_iff_forall_ne_some]
  intro error herror
  exact h _ (errorAt_eq_some_iff.mp herror) rfl

/-- The call that fails echoes its error last. -/
theorem echoes_of_error (h : (Run.start scenario).errorAt receive call = some error) :
    (scenario.runAt receive (call + 1)).ship.echoes.getLast? = some error.message := by
  obtain ⟨herror, hship⟩ := scenario.resultAt_runAt receive call
  rw [herror] at h
  rw [hship, ((Session.turn_of_run _ _ _).of_error h).2]
  exact List.getLast?_concat

/-- What is told of the ship ends no run. -/
theorem isEnd_told (lines : List String) (displays : List Display) :
    ∀ event ∈ lines.map Event.echo ++ displays.map Event.ofDisplay, event.isEnd = false := by
  intro event hevent
  rcases List.mem_append.mp hevent with hevent | hevent
  · obtain ⟨line, _, rfl⟩ := List.mem_map.mp hevent
    rfl
  · obtain ⟨display, _, rfl⟩ := List.mem_map.mp hevent
    rfl

theorem isEnd_sent {made : Nat}
    (h : ∀ call < made, (Run.start scenario).errorAt receive call = none) :
    ∀ event ∈ (Run.start scenario).sent receive made, event.isEnd = false := by
  intro event hevent
  obtain ⟨call, hcall, hsent⟩ := List.mem_flatMap.mp hevent
  rw [sentAt_eq, h call (List.mem_range.mp hcall), Option.toList_none, List.map_nil,
    List.append_nil] at hsent
  exact isEnd_told _ _ event hsent

/-- The first call that fails sends its error last. -/
theorem endsWith_sent
    (hwell : ∀ earlier < call, (Run.start scenario).errorAt receive earlier = none)
    (herror : (Run.start scenario).errorAt receive call = some error) :
    EndsWith ((Run.start scenario).sent receive (call + 1)) (.failed error) := by
  have hlast := scenario.sentAt_eq receive call
  have hechoes := scenario.sent_echoes receive (call + 1)
  have hmessage := echoes_of_error herror
  rw [herror] at hlast
  rw [Run.sent_succ, hlast, ← List.append_assoc] at hechoes ⊢
  refine ⟨_, rfl, ?_, ?_⟩
  · rw [List.forall_mem_append]
    exact ⟨isEnd_sent hwell, isEnd_told _ _⟩
  · intro other hother
    cases hother
    rw [echoed_succ, List.take_length, List.filterMap_append, echo?_failed, List.append_nil]
      at hechoes
    rw [hechoes]
    exact hmessage

/-- The number of calls that a scenario comes to within its limit, and the event that ends it. -/
def ending (scenario : Scenario) (limit : Nat) : Nat × Event :=
  match scenario.ship.bootFailure? with
  | some (call, error) => if call ≤ limit then (call, .failed error) else (limit, .finished limit)
  | none => (limit, .finished limit)

theorem ending_of_failure (hfailure : scenario.ship.bootFailure? = some (call, error))
    (hcall : call ≤ limit) : scenario.ending limit = (call, .failed error) := by
  rw [ending, hfailure]
  exact if_pos hcall

theorem ending_of_bootsFor (h : scenario.ship.BootsFor limit) :
    scenario.ending limit = (limit, .finished limit) := by
  unfold ending
  split
  · rename_i hfailure
    exact if_neg (Nat.not_le.mpr (h _ hfailure))
  · rfl

/-- While nothing comes in, a scenario with a number of calls ends as its ship tells: in call 5 if
no display qualifies, in call 25 if one does but no controller, and else behind its last call. -/
theorem ends_once (scenario : Scenario) {limit : Nat} (h : scenario.invocations = some limit) :
    Run.calls (fun _ => .timeout) limit (Run.start scenario) = (scenario.ending limit).1 ∧
      EndsWith (scenario.play [] false) (scenario.ending limit).2 := by
  have hopen : ∀ count : Nat, (fun _ : Nat => Receipt.timeout) count ≠ .stop := fun _ => nofun
  have hplay : scenario.play [] false =
      Run.play (fun _ => .timeout) limit (Run.start scenario) := by
    simp [play, h]
  rw [hplay]
  by_cases hboots : scenario.ship.BootsFor limit
  · have hwell : ∀ call < limit, (Run.start scenario).errorAt (fun _ => .timeout) call = none :=
      fun call hcall => errorAt_eq_none fun failure hfailure =>
        Nat.ne_of_gt (Nat.lt_of_le_of_lt hcall (hboots failure hfailure))
    obtain ⟨hevents, hcalls⟩ := Run.play_of_well hopen hwell
    rw [ending_of_bootsFor hboots, hevents, hcalls]
    refine ⟨rfl, _, ?_, isEnd_sent hwell, nofun⟩
    rw [show (Run.start scenario).count = 0 from rfl, Nat.zero_add]
  · simp only [Ship.BootsFor, not_forall, Nat.not_lt] at hboots
    obtain ⟨⟨number, error⟩, hfailure, hnumber⟩ := hboots
    obtain ⟨call, rfl⟩ : ∃ call, number = call + 1 := by
      refine Nat.exists_eq_succ_of_ne_zero ?_
      rcases Ship.bootFailure?_cases hfailure with ⟨rfl, _⟩ | ⟨rfl, _⟩ <;> decide
    have herror : (Run.start scenario).errorAt (fun _ => .timeout) call = some error :=
      errorAt_eq_some_iff.mpr hfailure
    have hwell : ∀ earlier < call,
        (Run.start scenario).errorAt (fun _ => .timeout) earlier = none := by
      intro earlier hearlier
      refine errorAt_eq_none fun failure hother => ?_
      rw [hfailure] at hother
      cases hother
      omega
    obtain ⟨hevents, hcalls⟩ :=
      Run.play_of_error hopen hnumber hwell (Option.isSome_of_eq_some herror)
    rw [ending_of_failure hfailure hnumber, hevents, hcalls]
    exact ⟨rfl, endsWith_sent hwell herror⟩

/-- Without a controller the run ends in call 25, however many calls it might make and whatever its
script says. -/
theorem ends_once_unmanned :
    let scenario : Scenario :=
      { ship := Session.unmanned, invocations := some 200, commands := [(3, "rcs"), (24, "setup")] }
    Run.calls (fun _ => .timeout) 200 (Run.start scenario) = 25 ∧
      EndsWith (scenario.play [] false) (.failed .noController) := by
  intro scenario
  have hends := ends_once scenario rfl
  have hending : scenario.ending 200 = (25, .failed .noController) := by decide +kernel
  rwa [hending] at hends

end CockpitHud.Scenario
