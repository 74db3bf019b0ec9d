import CockpitHud.Proofs.Decimal.Positive
import CockpitHud.Proofs.Propulsion.Directions

namespace CockpitHud.Propulsion

variable {withManeuvering : Bool} {thrusters : List Thruster} {sample : MassSample}

/-- There is no delta-V under a name: the ship has no group of this name, no thruster of the group
counts, or the thrust of those that do is not above zero. -/
def Thrustless (groups : List Group) (readings : BlockId → Option Thruster)
    (withManeuvering : Bool) (name : String) : Prop :=
  groupNamed? groups name = none ∨
    ∃ group, groupNamed? groups name = some group ∧
      ((∀ thruster ∈ group.members.filterMap readings,
          counted? thruster.model withManeuvering = none) ∨
        ¬ 0.0 < sumOf ((shares withManeuvering (group.members.filterMap readings)).map Prod.fst))

def totalOf (withManeuvering : Bool) (thrusters : List Thruster) : Total :=
  .ofShares (shares withManeuvering thrusters)

theorem contributors_eq_zero_iff :
    (totalOf withManeuvering thrusters).contributors = 0 ↔
      ∀ thruster ∈ thrusters, counted? thruster.model withManeuvering = none := by
  change (shares withManeuvering thrusters).length = 0 ↔ _
  simp only [List.length_eq_zero_iff, shares, List.filterMap_eq_nil_iff, share?,
    Option.map_eq_none_iff]

/-- Every model in the list burns something. -/
theorem consumption_pos : ∀ model ∈ models, 0.0 < model.consumption := by
  decide +kernel

theorem counted?_pos {name : String} {flow : Float}
    (h : counted? name withManeuvering = some flow) : 0.0 < flow := by
  unfold counted? at h
  split at h
  · contradiction
  · obtain ⟨model, hmodel, rfl⟩ := Option.map_eq_some_iff.mp h
    exact consumption_pos model (List.mem_of_find?_eq_some hmodel)

theorem shares_flow_pos :
    ∀ flow ∈ (shares withManeuvering thrusters).map Prod.snd, 0.0 < flow := by
  intro flow hflow
  obtain ⟨share, hshare, rfl⟩ := List.mem_map.mp hflow
  obtain ⟨thruster, _, hthruster⟩ := List.mem_filterMap.mp hshare
  obtain ⟨flow, hcounted, rfl⟩ := Option.map_eq_some_iff.mp hthruster
  exact counted?_pos hcounted

/-- Without a contributor nothing is burnt, with one something is. -/
theorem flow_pos_iff :
    0.0 < (totalOf withManeuvering thrusters).flow ↔
      (totalOf withManeuvering thrusters).contributors ≠ 0 := by
  change _ ↔ (shares withManeuvering thrusters).length ≠ 0
  rw [Ne, List.length_eq_zero_iff]
  constructor
  · rintro hpos hnil
    rw [totalOf, hnil] at hpos
    exact absurd hpos (by decide)
  · intro hne
    exact Decimal.foldl_add_pos (by decide) shares_flow_pos (by simpa using hne)

/-- A total without consumption is one without contributors. -/
theorem flow_le_zero_iff :
    (totalOf withManeuvering thrusters).flow ≤ 0.0 ↔
      (totalOf withManeuvering thrusters).contributors = 0 := by
  constructor
  · intro hle
    by_contra hne
    exact (Decimal.not_zero_lt_iff _).mpr (.inl hle) (flow_pos_iff.mpr hne)
  · intro hzero
    rw [totalOf, List.length_eq_zero_iff.mp hzero]
    decide

theorem exhaustVelocity?_eq_none_iff (thrust flow : Float) :
    exhaustVelocity? thrust flow = none ↔ ¬ 0.0 < thrust ∨ ¬ 0.0 < flow := by
  have hguard : (thrust ≤ 0.0 ∨ flow ≤ 0.0 ∨ thrust.isNaN = true ∨ flow.isNaN = true) ↔
      ¬ 0.0 < thrust ∨ ¬ 0.0 < flow := by
    rw [Decimal.not_zero_lt_iff, Decimal.not_zero_lt_iff]
    tauto
  rw [← hguard, exhaustVelocity?]
  split <;> simp_all

/-- The masses of a usable sample allow an estimate whenever thrust and consumption do. -/
theorem deltaV?_of_isValid (hvalid : sample.isValid = true) (thrust flow : Float) :
    deltaV? thrust flow sample.total sample.dry =
      (exhaustVelocity? thrust flow).map (· * logarithm (sample.total / sample.dry)) := by
  have hmasses : 0.0 < sample.total ∧ 0.0 < sample.dry ∧ sample.dry < sample.total :=
    of_decide_eq_true hvalid
  unfold deltaV?
  cases exhaustVelocity? thrust flow with
  | none => rfl
  | some velocity => exact if_pos hmasses

/-- There is no delta-V without a contributor, nor without thrust; nothing else is in its way. -/
theorem totalOf_deltaV?_eq_none_iff (hvalid : sample.isValid = true) :
    (totalOf withManeuvering thrusters).deltaV? sample = none ↔
      (totalOf withManeuvering thrusters).contributors = 0 ∨
        ¬ 0.0 < (totalOf withManeuvering thrusters).thrust := by
  unfold Total.deltaV?
  by_cases hzero : (totalOf withManeuvering thrusters).contributors = 0
  · rw [if_pos hzero]
    exact iff_of_true rfl (.inl hzero)
  · have hflow := flow_pos_iff.mpr hzero
    rw [if_neg hzero, deltaV?_of_isValid hvalid, Option.map_eq_none_iff,
      exhaustVelocity?_eq_none_iff]
    simp only [hflow, hzero, not_true_eq_false, or_false, false_or]

theorem totalOf_burnTime?_eq_none_iff :
    (totalOf withManeuvering thrusters).burnTime? sample = none ↔
      (totalOf withManeuvering thrusters).contributors = 0 := by
  unfold Total.burnTime?
  by_cases hzero : (totalOf withManeuvering thrusters).contributors = 0
  · rw [if_pos hzero]
    exact iff_of_true rfl hzero
  · have hflow : ¬ ((totalOf withManeuvering thrusters).flow ≤ 0.0 ∨
        (totalOf withManeuvering thrusters).flow.isNaN = true) := by
      rw [← Decimal.not_zero_lt_iff, not_not]
      exact flow_pos_iff.mpr hzero
    rw [if_neg hzero, burnTime?, if_neg hflow]
    exact iff_of_false (Option.some_ne_none _) hzero

/-- The delta-V under a name is missing in three cases. -/
theorem groupTotal_deltaV?_eq_none_iff (hvalid : sample.isValid = true) (groups : List Group)
    (readings : BlockId → Option Thruster) (name : String) :
    (((groupNamed? groups name).map fun group =>
        groupTotal readings withManeuvering group.members).bind (·.deltaV? sample)) = none ↔
      Thrustless groups readings withManeuvering name := by
  unfold Thrustless
  cases groupNamed? groups name with
  | none => exact iff_of_true rfl (.inl rfl)
  | some group =>
    have htotal : groupTotal readings withManeuvering group.members =
        totalOf withManeuvering (group.members.filterMap readings) := groupTotal_eq readings _
    rw [Option.map_some, Option.bind_some, htotal, totalOf_deltaV?_eq_none_iff hvalid,
      contributors_eq_zero_iff]
    simp only [reduceCtorEq, false_or, Option.some.injEq, exists_eq_left']
    rfl

/-- The thrusters that the total of a direction is to be added up from. -/
def burning (allDirections : Bool) (ahead : Direction) (thrusters : List Thruster)
    (direction : Direction) : List Thruster :=
  if allDirections ∨ direction = ahead then pushing direction thrusters else []

theorem mem_burning {allDirections : Bool} {ahead direction : Direction} {thruster : Thruster} :
    thruster ∈ burning allDirections ahead thrusters direction ↔
      thruster ∈ thrusters ∧ thruster.enabled = true ∧ thruster.push = direction ∧
        (allDirections ∨ direction = ahead) := by
  unfold burning
  split
  · rename_i hwanted
    simp only [pushing, List.mem_filter, Bool.and_eq_true, beq_iff_eq, hwanted, and_true]
  · rename_i hunwanted
    simp only [hunwanted, and_false, List.not_mem_nil]

/-- Each direction is added up from the thrusters that burn for it. -/
theorem get_directionTotals_eq_totalOf (thrusters : List Thruster)
    (withManeuvering allDirections : Bool) (ahead direction : Direction) :
    (directionTotals thrusters withManeuvering allDirections ahead).get direction =
      some (totalOf withManeuvering (burning allDirections ahead thrusters direction)) := by
  rw [get_directionTotals, burning]
  split <;> rfl

end CockpitHud.Propulsion
