import CockpitHud.Proofs.Propulsion.Sums

namespace CockpitHud.Propulsion

variable {withManeuvering allDirections : Bool} {ahead direction : Direction}

def pushing (direction : Direction) (thrusters : List Thruster) : List Thruster :=
  thrusters.filter fun thruster => thruster.enabled && thruster.push == direction

def totals (table : DirectionTable) : List Total :=
  Direction.all.filterMap table.get

/-- A thruster changes the total of the direction it pushes in, and only if that one is wanted. -/
theorem get_addByPush (table : DirectionTable) (thruster : Thruster) (direction : Direction) :
    (addByPush withManeuvering allDirections ahead table thruster).get direction =
      if (allDirections ∨ direction = ahead) ∧ thruster.enabled ∧ thruster.push = direction then
        (table.get direction).map fun total => total.addThruster withManeuvering thruster
      else table.get direction := by
  unfold addByPush Total.addThruster
  cases henabled : thruster.enabled with
  | false => simp
  | true =>
    cases counted? thruster.model withManeuvering with
    | none => simp
    | some flow =>
      by_cases hpush : thruster.push = direction
      · subst hpush
        cases allDirections <;> by_cases hahead : thruster.push = ahead <;>
          simp [hahead, PerDirection.get_modify]
      · have hother : ∀ f : Option Total → Option Total,
            (table.modify thruster.push f).get direction = table.get direction := by
          intro f
          rw [PerDirection.get_modify, if_neg (Ne.symm hpush)]
        simp only [hpush, and_false, if_false, if_true]
        split
        · rfl
        · exact hother _

theorem pushing_cons (direction : Direction) (thruster : Thruster) (thrusters : List Thruster) :
    pushing direction (thruster :: thrusters) =
      if thruster.enabled ∧ thruster.push = direction then
        thruster :: pushing direction thrusters
      else pushing direction thrusters := by
  simp only [pushing, List.filter_cons, Bool.and_eq_true, beq_iff_eq]

/-- One pass fills all entries of a table, each as if it were the only one. -/
theorem get_foldl_addByPush (thrusters : List Thruster) (table : DirectionTable)
    (direction : Direction) :
    (thrusters.foldl (addByPush withManeuvering allDirections ahead) table).get direction =
      if allDirections ∨ direction = ahead then
        (table.get direction).map fun total =>
          (pushing direction thrusters).foldl (Total.addThruster withManeuvering) total
      else table.get direction := by
  induction thrusters generalizing table with
  | nil => simp [pushing]
  | cons thruster thrusters ih =>
    rw [List.foldl_cons, ih, get_addByPush, pushing_cons]
    by_cases hwanted : allDirections ∨ direction = ahead
    · by_cases hpush : thruster.enabled ∧ thruster.push = direction
      · rw [if_pos hwanted, if_pos hwanted, if_pos ⟨hwanted, hpush⟩, if_pos hpush, Option.map_map]
        rfl
      · rw [if_pos hwanted, if_pos hwanted, if_neg (fun h => hpush h.2), if_neg hpush]
    · rw [if_neg hwanted, if_neg hwanted, if_neg (fun h => hwanted h.1)]

/-- The total of each direction on its own: of the thrusters that push its way if it is wanted, and
of none otherwise. -/
theorem get_directionTotals (thrusters : List Thruster) (direction : Direction) :
    (directionTotals thrusters withManeuvering allDirections ahead).get direction =
      some (if allDirections ∨ direction = ahead then
        .ofShares (shares withManeuvering (pushing direction thrusters))
      else .zero) := by
  rw [directionTotals, get_foldl_addByPush, PerDirection.get_replicate]
  split
  · rw [Option.map_some, foldl_addThruster_zero]
  · rfl

theorem totals_directionTotals (thrusters : List Thruster) :
    totals (directionTotals thrusters withManeuvering allDirections ahead) =
      Direction.all.map fun direction =>
        if allDirections ∨ direction = ahead then
          .ofShares (shares withManeuvering (pushing direction thrusters))
        else .zero := by
  rw [totals, ← List.filterMap_eq_map]
  exact List.filterMap_congr fun direction _ => get_directionTotals thrusters direction

theorem length_shares_pushing_cons (direction : Direction) (thruster : Thruster)
    (thrusters : List Thruster) :
    (shares withManeuvering (pushing direction (thruster :: thrusters))).length =
      (if thruster.enabled ∧ thruster.push = direction then
        (share? withManeuvering thruster).toList.length else 0) +
        (shares withManeuvering (pushing direction thrusters)).length := by
  rw [pushing_cons]
  split
  · rw [shares_cons, List.length_append]
  · rw [Nat.zero_add]

/-- A thruster pushes one way and no other, so that all have their share once. -/
theorem sum_length_shares (thrusters : List Thruster) :
    (Direction.all.map fun direction =>
        (shares withManeuvering (pushing direction thrusters)).length).sum =
      thrusters.countP fun thruster =>
        thruster.enabled && (counted? thruster.model withManeuvering).isSome := by
  induction thrusters with
  | nil => rfl
  | cons thruster thrusters ih =>
    have hone : (Direction.all.map fun direction =>
        if thruster.enabled ∧ thruster.push = direction then
          (share? withManeuvering thruster).toList.length else 0).sum =
        if thruster.enabled && (counted? thruster.model withManeuvering).isSome
          then 1 else 0 := by
      unfold share?
      cases thruster.enabled <;> cases counted? thruster.model withManeuvering <;>
        cases thruster.push <;> rfl
    simp only [length_shares_pushing_cons, List.sum_map_add, ih, hone, List.countP_cons]
    exact Nat.add_comm _ _

/-- The six totals part the thrusters between them: each is that of the thrusters which push its
way, in their order, and all that are switched on and count are counted once. With one direction
wanted its total is the same, and the others are zero. -/
theorem directions_partition (thrusters : List Thruster) (withManeuvering : Bool)
    (ahead : Direction) :
    let table := directionTotals thrusters withManeuvering true ahead
    let narrowed := directionTotals thrusters withManeuvering false ahead
    (totals table).length = 6 ∧ (totals narrowed).length = 6 ∧
      (∀ direction, table.get direction =
        some (.ofShares (shares withManeuvering (pushing direction thrusters)))) ∧
      ((totals table).map (·.contributors)).sum =
        (thrusters.countP fun thruster =>
          thruster.enabled && (counted? thruster.model withManeuvering).isSome) ∧
      ∀ direction, narrowed.get direction =
        if direction = ahead then table.get ahead else some .zero := by
  intro table narrowed
  have htable : ∀ direction, table.get direction =
      some (.ofShares (shares withManeuvering (pushing direction thrusters))) :=
    get_directionTotals thrusters
  have hcontributors : (totals table).map (·.contributors) =
      Direction.all.map fun direction =>
        (shares withManeuvering (pushing direction thrusters)).length := by
    rw [totals_directionTotals, List.map_map]
    rfl
  refine ⟨?_, ?_, htable, ?_, ?_⟩
  · rw [totals_directionTotals, List.length_map]
    rfl
  · rw [totals_directionTotals, List.length_map]
    rfl
  · rw [hcontributors, sum_length_shares]
  · intro direction
    rw [get_directionTotals, htable]
    by_cases hahead : direction = ahead
    · subst hahead
      rw [if_pos (Or.inr rfl), if_pos rfl]
    · rw [if_neg (by simp [hahead]), if_neg hahead]

end CockpitHud.Propulsion
