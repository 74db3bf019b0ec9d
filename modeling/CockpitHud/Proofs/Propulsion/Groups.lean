import CockpitHud.Proofs.Propulsion.Directions

namespace CockpitHud

/-- A thruster without what may change in flight: whether it is on, in order and on the grid, and
the way it points. -/
def Thruster.asBuilt (thruster : Thruster) : Thruster :=
  { thruster with enabled := true, functional := true, onGrid := true, facing := .forward }

namespace Propulsion

variable {withManeuvering : Bool} {names : List String} {groups : List Group}
  {thrusters others : List Thruster}

def withReadings (readings : BlockId → Option Thruster) (group : Group) : Group :=
  { group with members := group.members.filter fun id => (readings id).isSome }

def isNamed (names : List String) (groups : List Group) (id : BlockId) : Bool :=
  names.any fun name => (groupNamed? groups name).any fun group => group.members.contains id

theorem shares_filterMap (readings : BlockId → Option Thruster) (members : List BlockId) :
    shares withManeuvering (members.filterMap readings) =
      members.filterMap fun id => (readings id).bind (share? withManeuvering) := by
  rw [shares, List.filterMap_filterMap]

/-- The groups are told from the shares of their members, as far as the groups are named. -/
theorem groupTotals_congr {readings others : BlockId → Option Thruster}
    (h : ∀ name ∈ names, ∀ group ∈ groupNamed? groups name, ∀ id ∈ group.members,
      (others id).bind (share? withManeuvering) = (readings id).bind (share? withManeuvering)) :
    groupTotals names groups others withManeuvering =
      groupTotals names groups readings withManeuvering := by
  apply List.map_congr_left
  intro name hname
  have htotal : ∀ group ∈ groupNamed? groups name,
      groupTotal others withManeuvering group.members =
        groupTotal readings withManeuvering group.members := by
    intro group hgroup
    rw [groupTotal_eq, groupTotal_eq, shares_filterMap, shares_filterMap,
      List.filterMap_congr (h name hname group hgroup)]
  rw [Option.map_congr htotal]

/-- A reading is found among the watched thrusters as it is among all. -/
theorem readingsById_filter {watched : BlockId → Bool} {id : BlockId} (h : watched id = true)
    (thrusters : List Thruster) :
    readingsById (thrusters.filter fun thruster => watched thruster.id) id =
      readingsById thrusters id := by
  have hfits : ∀ thruster : Thruster,
      watched thruster.id = true ∧ thruster.id = id ↔ thruster.id = id := by
    intro thruster
    constructor
    · exact And.right
    · rintro rfl
      exact ⟨h, rfl⟩
  rw [readingsById, readingsById, ← List.filter_reverse, List.find?_filter]
  simp only [decide_eq_true_eq, hfits]

theorem readingsById_asBuilt (thrusters : List Thruster) (id : BlockId) :
    readingsById (thrusters.map Thruster.asBuilt) id =
      (readingsById thrusters id).map Thruster.asBuilt := by
  rw [readingsById, readingsById, ← List.map_reverse, List.find?_map]
  rfl

theorem share?_asBuilt (reading : Option Thruster) :
    (reading.map Thruster.asBuilt).bind (share? withManeuvering) =
      reading.bind (share? withManeuvering) := by
  cases reading <;> rfl

/-- Where no two thrusters share an id, each is found under its own. -/
theorem readingsById_of_mem (hids : (thrusters.map (·.id)).Nodup) {thruster : Thruster}
    (h : thruster ∈ thrusters) : readingsById thrusters thruster.id = some thruster := by
  have hfound : (readingsById thrusters thruster.id).isSome = true := by
    rw [readingsById, List.find?_isSome]
    exact ⟨thruster, List.mem_reverse.mpr h, decide_eq_true rfl⟩
  obtain ⟨found, hfound⟩ := Option.isSome_iff_exists.mp hfound
  have hid : found.id = thruster.id := by simpa using List.find?_some hfound
  have hmem : found ∈ thrusters := List.mem_reverse.mp (List.mem_of_find?_eq_some hfound)
  rw [hfound, List.inj_on_of_nodup_map hids hmem h hid]

/-- With distinct ids the thrusters listed by a group are read back as they are. -/
theorem filterMap_readingsById (hids : (thrusters.map (·.id)).Nodup) (direction : Direction) :
    ((pushing direction thrusters).map (·.id)).filterMap (readingsById thrusters) =
      pushing direction thrusters := by
  have hread : ∀ thruster ∈ pushing direction thrusters,
      (readingsById thrusters ∘ (·.id)) thruster = some thruster :=
    fun thruster h => readingsById_of_mem hids (List.mem_of_mem_filter h)
  rw [List.filterMap_map, List.filterMap_congr hread]
  exact List.filterMap_some

/-- Named thrusters that differ in what may change in flight only, with any others around them. -/
theorem groupTotals_of_named
    (h : (others.filter fun thruster => isNamed names groups thruster.id).map Thruster.asBuilt =
      (thrusters.filter fun thruster => isNamed names groups thruster.id).map Thruster.asBuilt) :
    groupTotals names groups (readingsById others) withManeuvering =
      groupTotals names groups (readingsById thrusters) withManeuvering := by
  apply groupTotals_congr
  intro name hname group hgroup id hid
  have hnamed : isNamed names groups id = true := by
    apply List.any_eq_true.mpr
    refine ⟨name, hname, ?_⟩
    rw [Option.mem_def.mp hgroup]
    exact List.contains_iff_mem.mpr hid
  have hsame := congrArg (readingsById · id) h
  simp only [readingsById_asBuilt, readingsById_filter hnamed] at hsame
  rw [← share?_asBuilt, hsame, share?_asBuilt]

/-- No total of a group tells what has changed in flight. -/
theorem groupTotals_of_asBuilt (h : others.map Thruster.asBuilt = thrusters.map Thruster.asBuilt) :
    groupTotals names groups (readingsById others) withManeuvering =
      groupTotals names groups (readingsById thrusters) withManeuvering := by
  apply groupTotals_of_named
  have hfilter : ∀ readings : List Thruster,
      (readings.filter fun thruster => isNamed names groups thruster.id).map Thruster.asBuilt =
        (readings.map Thruster.asBuilt).filter fun thruster =>
          isNamed names groups thruster.id := by
    intro readings
    rw [List.filter_map]
    rfl
  rw [hfilter, hfilter, h]

theorem groupNamed?_withReadings (readings : BlockId → Option Thruster) (groups : List Group)
    (name : String) :
    groupNamed? (groups.map (withReadings readings)) name =
      (groupNamed? groups name).map (withReadings readings) := by
  unfold groupNamed?
  rw [List.find?_map]
  rfl

/-- Members of which there is no reading add nothing to a group. -/
theorem groupTotal_withReadings (readings : BlockId → Option Thruster) (group : Group) :
    groupTotal readings withManeuvering (withReadings readings group).members =
      groupTotal readings withManeuvering group.members := by
  have hkeep : ∀ id, (if (readings id).isSome = true then readings id else none) = readings id := by
    intro id
    cases readings id <;> rfl
  simp only [groupTotal, withReadings, List.filterMap_filter, hkeep]

/-- Members without a reading may come and go. -/
theorem groupTotals_withReadings (readings : BlockId → Option Thruster) (groups : List Group) :
    groupTotals names (groups.map (withReadings readings)) readings withManeuvering =
      groupTotals names groups readings withManeuvering := by
  apply List.map_congr_left
  intro name _
  rw [groupNamed?_withReadings, Option.map_map]
  congr 2
  funext group
  exact groupTotal_withReadings readings group

/-- The two ways of adding up agree on a group that lists the thrusters of a direction. -/
theorem group_agrees_with_direction (hids : (thrusters.map (·.id)).Nodup) (names : List String)
    (groups : List Group) (withManeuvering : Bool) :
    let entries := groupTotals names groups (readingsById thrusters) withManeuvering
    (∀ direction ahead name group, groupNamed? groups name = some group →
      group.members = (pushing direction thrusters).map (·.id) →
      ∀ entry ∈ entries, entry.name = name →
        entry.total = (directionTotals thrusters withManeuvering true ahead).get direction) ∧
    entries.map (·.name) = names ∧
    (∀ others : List Thruster, others.map Thruster.asBuilt = thrusters.map Thruster.asBuilt →
      groupTotals names groups (readingsById others) withManeuvering = entries) ∧
    (∀ others : List Thruster,
      (others.filter fun thruster => isNamed names groups thruster.id) =
        (thrusters.filter fun thruster => isNamed names groups thruster.id) →
      groupTotals names groups (readingsById others) withManeuvering = entries) ∧
    ∀ others : List Group,
      others.map (withReadings (readingsById thrusters)) =
        groups.map (withReadings (readingsById thrusters)) →
      groupTotals names others (readingsById thrusters) withManeuvering = entries := by
  intro entries
  refine ⟨?_, ?_, ?_, ?_, ?_⟩
  · intro direction ahead name group hgroup hmembers entry hentry hname
    obtain ⟨configured, _, rfl⟩ := List.mem_map.mp hentry
    cases hname
    rw [get_directionTotals, hgroup, Option.map_some, groupTotal_eq, hmembers,
      filterMap_readingsById hids]
    rfl
  · change (names.map _).map _ = names
    rw [List.map_map]
    exact List.map_id names
  · intro others h
    exact groupTotals_of_asBuilt h
  · intro others h
    exact groupTotals_of_named (congrArg (List.map Thruster.asBuilt) h)
  · intro others h
    rw [← groupTotals_withReadings, h, groupTotals_withReadings]

/-- Thrusters of several kinds: maneuvering, of no known model, switched off. -/
def fleet : List Thruster := [
  { id := ⟨1⟩, model := "LargeBlockLargeHydrogenThrust", facing := .backward,
    maxThrust := 7200000.0 },
  { id := ⟨2⟩, model := "RCS2Cube", facing := .backward, maxThrust := 98000.0 },
  { id := ⟨3⟩, model := "LargeBlockSmallHydrogenThrust", facing := .forward,
    maxThrust := 1080000.0 },
  { id := ⟨4⟩, model := "LargeBlockLargeAtmosphericThrust", facing := .backward,
    maxThrust := 6480000.0 },
  { id := ⟨5⟩, model := "LargeBlockLargeHydrogenThrust", facing := .backward, enabled := false,
    maxThrust := 7200000.0 }]

def fleetGroups : List Group :=
  [⟨"Brakes", [⟨3⟩]⟩, ⟨"boost", [⟨1⟩, ⟨2⟩, ⟨4⟩]⟩, ⟨"Boost", [⟨5⟩]⟩]

theorem group_agrees_with_direction_fleet :
    (fleet.map (·.id)).Nodup ∧
      groupNamed? fleetGroups "BOOST" = some ⟨"boost", (pushing .forward fleet).map (·.id)⟩ ∧
      (groupTotals ["BOOST", "Ghost"] fleetGroups (readingsById fleet) true).map (·.name) =
        ["BOOST", "Ghost"] ∧
      ∀ entry ∈ groupTotals ["BOOST", "Ghost"] fleetGroups (readingsById fleet) true,
        entry.name = "BOOST" → entry.total = some ⟨7298000.0, 2227.27, 2⟩ := by
  have hids : (fleet.map (·.id)).Nodup := by decide
  have hgroup : groupNamed? fleetGroups "BOOST" =
      some ⟨"boost", (pushing .forward fleet).map (·.id)⟩ := by decide +kernel
  have htotal : (directionTotals fleet true true .up).get .forward =
      some ⟨7298000.0, 2227.27, 2⟩ := by decide +kernel
  obtain ⟨hagree, hnames, -⟩ :=
    group_agrees_with_direction hids ["BOOST", "Ghost"] fleetGroups true
  refine ⟨hids, hgroup, hnames, fun entry hentry hname => ?_⟩
  rw [hagree .forward .up "BOOST" _ hgroup rfl entry hentry hname, htotal]

end Propulsion

end CockpitHud
