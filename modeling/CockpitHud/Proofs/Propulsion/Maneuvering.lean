import CockpitHud.Proofs.Propulsion.Groups

namespace CockpitHud.Propulsion

variable {allDirections : Bool} {ahead : Direction}

def mainThrusters (thrusters : List Thruster) : List Thruster :=
  thrusters.filter fun thruster => !isManeuvering thruster.model

def mainReadings (readings : BlockId → Option Thruster) (id : BlockId) : Option Thruster :=
  (readings id).filter fun thruster => !isManeuvering thruster.model

/-- No more thrusters are counted in the first total than in the second, if there are any totals. -/
def NoMore : Option Total → Option Total → Prop :=
  Option.Rel fun total other => total.contributors ≤ other.contributors

theorem share?_false (thruster : Thruster) :
    share? false thruster =
      if !isManeuvering thruster.model then share? true thruster else none := by
  unfold share? counted?
  cases isManeuvering thruster.model <;> rfl

theorem shares_false (thrusters : List Thruster) :
    shares false thrusters = shares true (mainThrusters thrusters) := by
  rw [shares, shares, mainThrusters, List.filterMap_filter]
  exact List.filterMap_congr fun thruster _ => share?_false thruster

theorem length_shares_false_le (thrusters : List Thruster) :
    (shares false thrusters).length ≤ (shares true thrusters).length := by
  rw [shares_false]
  exact (List.filter_sublist.filterMap (share? true)).length_le

theorem groupTotal_false (readings : BlockId → Option Thruster) (members : List BlockId) :
    groupTotal readings false members = groupTotal (mainReadings readings) true members := by
  have hmain : mainThrusters (members.filterMap readings) =
      members.filterMap (mainReadings readings) := List.filter_filterMap
  rw [groupTotal_eq, groupTotal_eq, shares_false, hmain]

theorem pushing_mainThrusters (direction : Direction) (thrusters : List Thruster) :
    pushing direction (mainThrusters thrusters) = mainThrusters (pushing direction thrusters) := by
  simp only [pushing, mainThrusters, List.filter_filter, Bool.and_comm]

theorem eq_of_get {table other : DirectionTable}
    (h : ∀ direction, table.get direction = other.get direction) : table = other := by
  cases table
  cases other
  rw [PerDirection.mk.injEq]
  exact ⟨h .forward, h .backward, h .left, h .right, h .up, h .down⟩

/-- With the switch off, directions are totalled as on a ship without maneuvering thrusters, to the
last bit. -/
theorem directionTotals_false (thrusters : List Thruster) :
    directionTotals thrusters false allDirections ahead =
      directionTotals (mainThrusters thrusters) true allDirections ahead := by
  apply eq_of_get
  intro direction
  rw [get_directionTotals, get_directionTotals, pushing_mainThrusters, shares_false]

/-- With the switch off, groups are totalled as if no member were a maneuvering thruster. -/
theorem groupTotals_false (names : List String) (groups : List Group)
    (readings : BlockId → Option Thruster) :
    groupTotals names groups readings false =
      groupTotals names groups (mainReadings readings) true := by
  apply List.map_congr_left
  intro name _
  simp only [groupTotal_false]

theorem groupTotals_noMore (names : List String) (groups : List Group)
    (readings : BlockId → Option Thruster) :
    List.Forall₂ (fun off on => off.name = on.name ∧ NoMore off.total on.total)
      (groupTotals names groups readings false) (groupTotals names groups readings true) := by
  unfold groupTotals
  rw [List.forall₂_map_left_iff, List.forall₂_map_right_iff, List.forall₂_same]
  intro name _
  refine ⟨rfl, ?_⟩
  cases groupNamed? groups name with
  | none => exact .none
  | some group =>
    have hcount : (groupTotal readings false group.members).contributors ≤
        (groupTotal readings true group.members).contributors := by
      rw [groupTotal_eq, groupTotal_eq]
      exact length_shares_false_le _
    exact .some hcount

theorem directionTotals_noMore (thrusters : List Thruster) (direction : Direction) :
    NoMore ((directionTotals thrusters false allDirections ahead).get direction)
      ((directionTotals thrusters true allDirections ahead).get direction) := by
  rw [get_directionTotals, get_directionTotals]
  constructor
  split
  · exact length_shares_false_le _
  · exact Nat.le_refl _

/-- The totals with the switch off are those of a ship without maneuvering thrusters, so that no
group and no direction counts more thrusters than with the switch on. -/
theorem maneuvering_off (names : List String) (groups : List Group)
    (readings : BlockId → Option Thruster) (thrusters : List Thruster) (allDirections : Bool)
    (ahead : Direction) :
    groupTotals names groups readings false =
        groupTotals names groups (mainReadings readings) true ∧
      directionTotals thrusters false allDirections ahead =
        directionTotals (mainThrusters thrusters) true allDirections ahead ∧
      List.Forall₂ (fun off on => off.name = on.name ∧ NoMore off.total on.total)
        (groupTotals names groups readings false) (groupTotals names groups readings true) ∧
      ∀ direction, NoMore ((directionTotals thrusters false allDirections ahead).get direction)
        ((directionTotals thrusters true allDirections ahead).get direction) :=
  ⟨groupTotals_false names groups readings, directionTotals_false thrusters,
    groupTotals_noMore names groups readings, directionTotals_noMore thrusters⟩

end CockpitHud.Propulsion
