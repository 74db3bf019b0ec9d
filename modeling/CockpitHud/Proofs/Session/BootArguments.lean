import CockpitHud.Proofs.Session.Phases

namespace CockpitHud

namespace Program

/-- A program that does not run hears no argument. -/
theorem tick_of_not_running {program : Program} (h : program.phase ≠ .running) (ship : Ship)
    (argument other : String) : program.tick ship other = program.tick ship argument := by
  cases program with
  | booting progress => rfl
  | running hud => exact absurd rfl h
  | halted => rfl

theorem Timed.not_running {program : Program} {made : Nat} (h : program.Timed made)
    (hearly : made < 110) : program.phase ≠ .running := by
  cases program with
  | booting progress => nofun
  | running hud => exact absurd hearly (Nat.not_lt_of_le h)
  | halted => nofun

end Program

namespace Session

variable {session : Session} {calls others : List Call} {made ignored : Nat}

/-- The ship is edited alike before the calls of both lists, and only the arguments of the first
few may differ. -/
structure SameFrom (ignored : Nat) (calls others : List Call) : Prop where
  edits : others.map Call.edit = calls.map Call.edit
  later : others.drop ignored = calls.drop ignored

namespace SameFrom

theorem take (h : SameFrom ignored calls others) (count : Nat) :
    SameFrom ignored (calls.take count) (others.take count) where
  edits := by rw [List.map_take, List.map_take, h.edits]
  later := by rw [List.drop_take, List.drop_take, h.later]

theorem eq_nil (h : SameFrom ignored [] others) : others = [] :=
  List.map_eq_nil_iff.mp h.edits

theorem eq_cons {next : Call} {rest : List Call} (h : SameFrom ignored (next :: rest) others) :
    ∃ again tail, others = again :: tail ∧ again.edit = next.edit := by
  obtain ⟨again, tail, hothers, hedit, _⟩ := List.map_eq_cons_iff.mp h.edits
  exact ⟨again, tail, hothers, hedit⟩

theorem tail {next again : Call} {rest tail : List Call}
    (h : SameFrom (110 - made) (next :: rest) (again :: tail)) :
    SameFrom (110 - (made + 1)) rest tail := by
  refine ⟨(List.cons.inj h.edits).2, ?_⟩
  have hlater := h.later
  by_cases hearly : made < 110
  · have hcount : 110 - made = 110 - (made + 1) + 1 := by omega
    rwa [hcount, List.drop_succ_cons, List.drop_succ_cons] at hlater
  · rw [Nat.sub_eq_zero_of_le (Nat.le_of_not_lt hearly)] at hlater
    rw [(List.cons.inj hlater).2]

/-- A call is made with another argument only while arguments do not count. -/
theorem resultAt {next again : Call} {rest tail : List Call}
    (h : SameFrom (110 - made) (next :: rest) (again :: tail))
    (htimed : session.program.Timed made) : session.resultAt again = session.resultAt next := by
  by_cases hearly : made < 110
  · have hedit : again.edit = next.edit := (List.cons.inj h.edits).1
    rw [Session.resultAt, hedit]
    exact Program.tick_of_not_running (htimed.not_running hearly) _ _ _
  · have hlater := h.later
    rw [Nat.sub_eq_zero_of_le (Nat.le_of_not_lt hearly)] at hlater
    rw [(List.cons.inj hlater).1]

end SameFrom

def resultsAt (session : Session) (next : Call) : List Program.TickResult :=
  [session.resultAt next]

/-- Arguments of the boot leave no trace in a run. -/
theorem run_of_sameFrom (h : SameFrom (110 - made) calls others)
    (htimed : session.program.Timed made) :
    session.collect resultsAt others = session.collect resultsAt calls ∧
      session.run others = session.run calls := by
  -- along the calls: with each of them one argument fewer is ignored
  induction calls generalizing session made others with
  | nil =>
    rw [h.eq_nil]
    exact ⟨rfl, rfl⟩
  | cons next rest ih =>
    obtain ⟨again, tail, rfl, _⟩ := h.eq_cons
    have hresult := h.resultAt htimed
    have hcall : session.call again = session.call next := by
      change Session.mk (session.resultAt again).program (session.resultAt again).ship = _
      rw [hresult]
      rfl
    have hnext : (session.call next).program.Timed (made + 1) := htimed.tick _ next.argument
    obtain ⟨hcollect, hrun⟩ := ih h.tail hnext
    constructor
    · change [session.resultAt again] ++ (session.call again).collect resultsAt tail = _
      rw [hresult, hcall, hcollect]
      rfl
    · change (session.call again).run tail = (session.call next).run rest
      rw [hcall, hrun]

/-- The arguments of the 110 calls of the boot have no effect: with others in their place each call
gives the same result, the first report included, and leaves the same program and ship. -/
theorem boot_ignores_arguments (ship : Ship) {calls others : List Call}
    (h : SameFrom 110 calls others) :
    (start ship).collect resultsAt others = (start ship).collect resultsAt calls ∧
      ∀ made, (start ship).run (others.take made) = (start ship).run (calls.take made) := by
  have htimed := start_timed ship
  exact ⟨(run_of_sameFrom h htimed).1, fun made => (run_of_sameFrom (h.take made) htimed).2⟩

theorem sameFrom_undisturbed {first other : List String} (hfirst : first.length = ignored)
    (hother : other.length = ignored) (later : List String) :
    SameFrom ignored (undisturbed (first ++ later)) (undisturbed (other ++ later)) where
  edits := by
    rw [undisturbed, undisturbed, List.map_map, List.map_map]
    simp [Function.comp_def, List.map_const', hfirst, hother]
  later := by
    rw [undisturbed, undisturbed, ← List.map_drop, ← List.map_drop, List.drop_left' hfirst,
      List.drop_left' hother]

/-- A boot full of commands goes like a boot without any. -/
theorem boot_ignores_arguments_reload :
    let calls := undisturbed (List.replicate 110 "" ++ ["rcs"])
    let others := undisturbed (List.replicate 109 "burn" ++ ["setup"] ++ ["rcs"])
    (start .sample).run others = (start .sample).run calls ∧
      ((start .sample).run calls).program.phase = .running := by
  intro calls others
  have hsame : SameFrom 110 calls others :=
    sameFrom_undisturbed List.length_replicate (by simp) ["rcs"]
  have hrun := (boot_ignores_arguments .sample hsame).2 111
  exact ⟨hrun, by decide +kernel⟩

end Session

end CockpitHud
