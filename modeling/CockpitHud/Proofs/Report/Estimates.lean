import CockpitHud.Hud
import CockpitHud.Proofs.Propulsion.Estimates
import CockpitHud.Proofs.Report.Values
import CockpitHud.Ship.Build

namespace CockpitHud.Report

open Propulsion

variable {borders : Bool} {row : Row} {report : Report} {groups : List Group}
  {readings : BlockId → Option Thruster} {thrusters : List Thruster} {ahead : Direction}

/-- The totals of a report are those of its configured groups and, with burn times, of the
directions. -/
structure Measures (report : Report) (groups : List Group) (readings : BlockId → Option Thruster)
    (thrusters : List Thruster) (ahead : Direction) : Prop where
  groups : report.groups =
    groupTotals report.settings.groupNames groups readings report.toggles.maneuvering
  directions : report.directions =
    if report.toggles.burnTimes then
      some (directionTotals thrusters report.toggles.maneuvering report.toggles.allDirections
        ahead)
    else none

/-- What a running display reports was totalled from its ship. -/
theorem measures_report (hud : Hud) (ship : Ship) :
    (hud.report ship).Measures hud.groups (readingsById ship.thrusters)
      (ship.thrusters.filter fun thruster => hud.thrusters.contains thruster.id)
      hud.controller.forward :=
  ⟨rfl, rfl⟩

def noneText : List Char :=
  "│ ".toList ++ Layout.padLeft "N/a".toList valueWidth

/-- From its bar on, the line of a row reads N/a in the column of its value. -/
def Row.ShowsNone (borders : Bool) (row : Row) : Prop :=
  noneText <+: (row.draw borders).drop row.barPlace

theorem Row.text_of_none (hvalue : row.value = none) :
    row.text = row.lead ++ noneText ++ Layout.fill (row.unit.length + 2) ' ' := by
  have hspaces : ' ' :: Layout.fill row.unit.length ' ' ++ [' '] =
      Layout.fill (row.unit.length + 2) ' ' := by
    rw [Layout.fill, Layout.fill, List.replicate_succ, List.replicate_succ', List.cons_append]
  rw [← hspaces]
  simp only [text, hvalue, Report.row, lead, noneText, List.cons_append, List.append_assoc]
  rfl

theorem slash_not_mem_valueText (x : Float) : '/' ∉ valueText x := by
  intro h
  rcases mem_valueText h with h | h | h <;> exact absurd h (by decide)

/-- Uncut, the text of a row without a value reads N/a, and no other does. -/
theorem Row.noneText_prefix_iff (row : Row) :
    noneText <+: row.text.drop row.lead.length ↔ row.value = none := by
  cases hvalue : row.value with
  | none =>
    rw [text_of_none hvalue, List.append_assoc, List.drop_left]
    exact iff_of_true (List.prefix_append _ _) rfl
  | some x =>
    have hlength : noneText.length ≤ (valueText x).length := by
      rw [length_valueText]
      change 11 ≤ max 9 _ + 2
      omega
    rw [text_of_value hvalue, List.drop_left, prefix_append_iff hlength]
    refine iff_of_false (fun hstart => ?_) (Option.some_ne_none x)
    exact slash_not_mem_valueText x (hstart.subset (by decide))

theorem Row.length_noneText_le (row : Row) :
    row.lead.length + noneText.length ≤ row.text.length := by
  cases hvalue : row.value with
  | none =>
    rw [text_of_none hvalue, List.length_append, List.length_append]
    omega
  | some x =>
    rw [text_of_value hvalue, List.length_append, List.length_append, length_valueText]
    change _ + 11 ≤ _ + (max 9 _ + 2 + _)
    omega

/-- N/a is read in the box where a value is missing behind a name of 19 characters at most, and
nowhere else. -/
theorem Row.showsNone_iff (row : Row) (borders : Bool) :
    row.ShowsNone borders ↔ row.value = none ∧ row.name.length ≤ 19 := by
  have hroom : row.lead.length + noneText.length ≤ boxWidth - 2 ↔ row.name.length ≤ 19 := by
    have hlead : row.lead.length + 1 = max 13 row.name.length + 3 := row.length_lead
    change _ + 11 ≤ 32 ↔ _
    omega
  rw [← hroom, ← row.noneText_prefix_iff]
  constructor
  · intro hshows
    have hfits := fits_of_read (by decide) (List.cons_ne_nil _ _) hshows
    exact ⟨(read_iff_of_fits row.length_noneText_le hfits).mp hshows, hfits⟩
  · rintro ⟨hnone, hfits⟩
    exact (read_iff_of_fits row.length_noneText_le hfits).mpr hnone

/-- What is drawn for a missing value behind a name of any length: as much of N/a as the name
leaves room for. -/
theorem Row.draw_of_none (hvalue : row.value = none) (borders : Bool) :
    row.draw borders = side borders :: row.lead.take 32 ++
      (noneText.take (30 - max 13 row.name.length) ++
        Layout.fill (19 - max 13 row.name.length) ' ' ++ Layout.rightSide (side borders)) := by
  have hlead : row.lead.length + 1 = max 13 row.name.length + 3 := row.length_lead
  have hcut : (row.lead ++ noneText).take 32 =
      row.lead.take 32 ++ noneText.take (30 - max 13 row.name.length) := by
    rw [List.take_append]
    congr 2
    omega
  have hspare : 32 - (row.lead ++ noneText).length = 19 - max 13 row.name.length := by
    rw [List.length_append]
    change 32 - (_ + 11) = _
    omega
  rw [draw_eq, text_of_none hvalue, Layout.flushed_append_fill]
  change side borders :: ((row.lead ++ noneText).take 32 ++ Layout.fill (32 - _) ' ') ++ _ = _
  rw [hcut, hspare]
  simp only [List.append_assoc, List.cons_append]

/-- No digit is read in the column of a missing value. -/
theorem Row.no_digit_of_none (hvalue : row.value = none) (borders : Bool) :
    ∀ c ∈ (row.draw borders).drop row.barPlace, c.isDigit = false := by
  intro c hc
  have hfront : (side borders :: row.lead.take 32).length ≤ row.barPlace := by
    rw [← row.length_lead, List.length_cons, List.length_take]
    omega
  rw [draw_of_none hvalue, List.drop_append, List.drop_of_length_le hfront, List.nil_append] at hc
  rcases List.mem_append.mp (List.mem_of_mem_drop hc) with hc | hc
  · rcases List.mem_append.mp hc with hc | hc
    · have hnone : noneText.all (!·.isDigit) = true := by decide
      simpa using List.all_eq_true.mp hnone c (List.mem_of_mem_take hc)
    · rw [Layout.mem_fill hc]
      rfl
  · rw [Layout.mem_rightSide hc]
    cases borders <;> rfl

theorem Measures.groupRows_eq (h : report.Measures groups readings thrusters ahead) :
    report.groupRows = report.settings.groupNames.map fun name =>
      rowOfGroup report.sample ⟨name, (groupNamed? groups name).map fun group =>
        groupTotal readings report.toggles.maneuvering group.members⟩ := by
  rw [groupRows, h.groups, groupTotals, List.map_map]
  rfl

/-- There is a row for each configured name, in order, whether the ship has the group or not. -/
theorem Measures.groupRows_names (h : report.Measures groups readings thrusters ahead) :
    report.groupRows.map (·.name) = report.settings.groupNames.map String.toList := by
  rw [h.groupRows_eq, List.map_map]
  rfl

/-- The row of a configured name has no value if there is no thrust under the name. -/
theorem Measures.groupRow_value (h : report.Measures groups readings thrusters ahead)
    (hvalid : report.sample.isValid = true) :
    ∀ row ∈ report.groupRows, row.value = none ↔
      Thrustless groups readings report.toggles.maneuvering (String.ofList row.name) := by
  rw [h.groupRows_eq]
  intro row hrow
  obtain ⟨name, _, rfl⟩ := List.mem_map.mp hrow
  rw [rowOfGroup, String.ofList_toList]
  exact groupTotal_deltaV?_eq_none_iff hvalid groups readings name

/-- The row of a direction is left out only where there is no contributor. -/
theorem burnRows_directionTotals (sample : MassSample) (withManeuvering allDirections : Bool) :
    burnRows sample (directionTotals thrusters withManeuvering allDirections ahead) =
      Direction.all.filterMap fun direction =>
        let total := totalOf withManeuvering (burning allDirections ahead thrusters direction)
        if total.contributors = 0 then none else some (rowOfDirection sample direction total) := by
  apply List.filterMap_congr
  intro direction _
  rw [get_directionTotals_eq_totalOf, Option.bind_some]
  exact if_congr flow_le_zero_iff rfl rfl

theorem burnRows_names (sample : MassSample) (withManeuvering allDirections : Bool) :
    let table := directionTotals thrusters withManeuvering allDirections ahead
    (burnRows sample table).map (·.name) =
      (Direction.all.filter fun direction =>
        (table.get direction).any fun total => 0 < total.contributors).map (·.name.toList) := by
  intro table
  rw [burnRows_directionTotals, List.map_filterMap, ← List.filterMap_eq_filter, List.map_filterMap]
  apply List.filterMap_congr
  intro direction _
  rw [Option.guard, get_directionTotals_eq_totalOf, Option.any_some]
  by_cases hzero :
      (totalOf withManeuvering (burning allDirections ahead thrusters direction)).contributors = 0
  · simp [hzero]
  · simp [hzero, Nat.pos_of_ne_zero hzero, rowOfDirection]

/-- A direction that is not left out has a value. -/
theorem burnRows_value (sample : MassSample) (withManeuvering allDirections : Bool) :
    ∀ row ∈ burnRows sample (directionTotals thrusters withManeuvering allDirections ahead),
      row.value ≠ none := by
  intro row hrow
  rw [burnRows_directionTotals] at hrow
  obtain ⟨direction, _, hdirection⟩ := List.mem_filterMap.mp hrow
  obtain ⟨hcontributors, hdirection⟩ := Option.ite_none_left_eq_some.mp hdirection
  cases hdirection
  exact fun hnone => hcontributors (totalOf_burnTime?_eq_none_iff.mp hnone)

/-- With burn times there is a row for each direction that has a contributor. -/
theorem Measures.directionRows_names (h : report.Measures groups readings thrusters ahead) :
    report.directionRows.map (·.name) =
      if report.toggles.burnTimes then
        (Direction.all.filter fun direction =>
          ((directionTotals thrusters report.toggles.maneuvering report.toggles.allDirections
            ahead).get direction).any fun total => 0 < total.contributors).map (·.name.toList)
      else [] := by
  rw [directionRows, h.directions]
  split
  · exact burnRows_names _ _ _
  · rfl

theorem Measures.directionRow_value (h : report.Measures groups readings thrusters ahead) :
    ∀ row ∈ report.directionRows, row.value ≠ none := by
  rw [directionRows, h.directions]
  split
  · exact burnRows_value _ _ _
  · exact fun row hrow => absurd hrow List.not_mem_nil

theorem any_contributors_iff (withManeuvering allDirections : Bool) (direction : Direction) :
    (((directionTotals thrusters withManeuvering allDirections ahead).get direction).any
        fun total => 0 < total.contributors) = true ↔
      ∃ thruster ∈ thrusters, thruster.enabled = true ∧ thruster.push = direction ∧
        (allDirections ∨ direction = ahead) ∧
        counted? thruster.model withManeuvering ≠ none := by
  rw [get_directionTotals_eq_totalOf, Option.any_some, decide_eq_true_iff, Nat.pos_iff_ne_zero,
    Ne, contributors_eq_zero_iff]
  simp only [not_forall, mem_burning, exists_prop, and_assoc, ne_eq]

/-- What is drawn where a report has no estimate. The row of a configured group reads N/a if the
ship does not have the group, if no member of it counts, or if its thrust is not above zero, and the
name has 19 characters at most; behind a longer name as much of N/a is drawn as there is room for.
A number is read in none of these rows. A direction has a row if a thruster was counted for it, and
this row never reads N/a. The masses of a usable sample are never what an estimate is missing. -/
theorem showsNone_iff_thrustless (hmeasures : report.Measures groups readings thrusters ahead)
    (hvalid : report.sample.isValid = true) :
    let borders := report.settings.showBorders
    let withManeuvering := report.toggles.maneuvering
    let table := directionTotals thrusters withManeuvering report.toggles.allDirections ahead
    (report.text.toList = written (drawn borders report.plan ++ report.below) ∧
      report.plan.filterMap Line.row? = report.groupRows ++ report.directionRows ∧
      ∀ row ∈ report.groupRows ++ report.directionRows,
        row.draw borders ∈ drawn borders report.plan) ∧
    (report.groupRows.map (·.name) = report.settings.groupNames.map String.toList ∧
      ∀ row ∈ report.groupRows,
        let thrustless := Thrustless groups readings withManeuvering (String.ofList row.name)
        (row.ShowsNone borders ↔ thrustless ∧ row.name.length ≤ 19) ∧
        (thrustless → row.draw borders = side borders :: row.lead.take 32 ++
            (noneText.take (30 - max 13 row.name.length) ++
              Layout.fill (19 - max 13 row.name.length) ' ' ++
              Layout.rightSide (side borders)) ∧
          ∀ c ∈ (row.draw borders).drop row.barPlace, c.isDigit = false)) ∧
    (report.directionRows.map (·.name) =
      if report.toggles.burnTimes then
        (Direction.all.filter fun direction =>
          (table.get direction).any fun total => 0 < total.contributors).map (·.name.toList)
      else []) ∧
    (∀ direction, ((table.get direction).any fun total => 0 < total.contributors) = true ↔
      ∃ thruster ∈ thrusters, thruster.enabled = true ∧ thruster.push = direction ∧
        (report.toggles.allDirections ∨ direction = ahead) ∧
        counted? thruster.model withManeuvering ≠ none) ∧
    (∀ row ∈ report.directionRows, ¬ row.ShowsNone borders) ∧
    ∀ thrust flow, deltaV? thrust flow report.sample.total report.sample.dry =
      (exhaustVelocity? thrust flow).map
        (· * logarithm (report.sample.total / report.sample.dry)) := by
  intro borders withManeuvering table
  have hrows : report.rows = report.groupRows ++ report.directionRows := if_pos hvalid
  have hvalue := hmeasures.groupRow_value hvalid
  refine ⟨⟨report.toList_text, report.plan_rows.trans hrows, ?_⟩, ⟨hmeasures.groupRows_names, ?_⟩,
    hmeasures.directionRows_names, any_contributors_iff _ _, ?_, deltaV?_of_isValid hvalid⟩
  · rw [← hrows]
    exact fun row hrow => draw_mem_drawn hrow
  · intro row hrow thrustless
    refine ⟨?_, fun hthrustless => ?_⟩
    · rw [row.showsNone_iff, hvalue row hrow]
    · have hnone : row.value = none := (hvalue row hrow).mpr hthrustless
      exact ⟨row.draw_of_none hnone borders, row.no_digit_of_none hnone borders⟩
  · intro row hrow hshows
    exact hmeasures.directionRow_value row hrow ((row.showsNone_iff borders).mp hshows).1

/-- A display on the sample ship, with the default names; two of them are no groups of this ship. -/
def cruising : Hud where
  display := { id := ⟨1⟩, name := "LCD DeltaV" }
  controller := { id := ⟨3⟩, name := "Cockpit", isMain := true }
  settings := {}
  toggles := {}
  thrusters := .ofList (Ship.sample.thrusters.map (·.id))
  tanks := .ofList (Ship.sample.tanks.map (·.id))
  groups := Ship.sample.groups
  status := []

/-- On the sample ship there is no efficient group, and both ways of pushing have their rows. -/
theorem showsNone_iff_thrustless_cruising :
    let report := cruising.report Ship.sample
    report.Measures cruising.groups (readingsById Ship.sample.thrusters)
        (Ship.sample.thrusters.filter fun thruster => cruising.thrusters.contains thruster.id)
        .forward ∧
      report.sample.isValid = true ∧
      (∃ row ∈ report.groupRows, row.name = "Efficient".toList ∧ row.ShowsNone true) ∧
      (∃ row ∈ report.groupRows, row.name = "Boost".toList ∧ ¬ row.ShowsNone true) ∧
      report.directionRows.map (·.name) = ["Forward".toList, "Backward".toList] := by
  intro report
  have hmeasures := measures_report cruising Ship.sample
  have hvalid : report.sample.isValid = true := by decide +kernel
  obtain ⟨_, ⟨hnames, hgroups⟩, hdirections, _⟩ := showsNone_iff_thrustless hmeasures hvalid
  have hrow : ∀ name ∈ cruising.settings.groupNames,
      ∃ row ∈ report.groupRows, row.name = name.toList := by
    intro name hname
    have hmem : name.toList ∈ report.groupRows.map (·.name) :=
      hnames ▸ List.mem_map_of_mem hname
    exact List.mem_map.mp hmem
  refine ⟨hmeasures, hvalid, ?_, ?_, ?_⟩
  · obtain ⟨row, hrow, hname⟩ := hrow "Efficient" (by decide)
    refine ⟨row, hrow, hname, (hgroups row hrow).1.mpr ?_⟩
    rw [hname]
    exact ⟨.inl (by decide +kernel), by decide⟩
  · obtain ⟨row, hrow, hname⟩ := hrow "Boost" (by decide)
    have hboost : groupNamed? cruising.groups (String.ofList "Boost".toList) =
        some ⟨"boost", [⟨5⟩, ⟨6⟩]⟩ := by decide +kernel
    refine ⟨row, hrow, hname, fun hshows => ?_⟩
    obtain ⟨hthrustless, _⟩ := (hgroups row hrow).1.mp hshows
    rw [hname, Thrustless, hboost] at hthrustless
    rcases hthrustless with hmissing | ⟨group, hgroup, huncounted | hweak⟩
    · contradiction
    · cases hgroup
      exact absurd huncounted (by decide +kernel)
    · cases hgroup
      exact hweak (by decide +kernel)
  · rw [hdirections]
    decide +kernel

def unresolved : Report where
  settings := { groupNames := ["Emergency brake group"] }
  toggles := { burnTimes := false }
  groups := [⟨"Emergency brake group", none⟩]
  directions := none
  sample := ⟨10000.0, 2000.0⟩
  status := []

/-- Behind a name of 21 characters there is room for the first letter of N/a only. -/
theorem none_cut_unresolved :
    unresolved.Measures [] (fun _ => none) [] .forward ∧ unresolved.sample.isValid = true ∧
      Thrustless [] (fun _ => none) unresolved.toggles.maneuvering "Emergency brake group" ∧
      ∃ row ∈ unresolved.groupRows, row.name = "Emergency brake group".toList ∧
        row.draw true = "║ Emergency brake group │       N║".toList ∧
        row.draw true ∈ boxOf unresolved.text.toList ∧ ¬ row.ShowsNone true := by
  have hvalid : unresolved.sample.isValid = true := by decide +kernel
  have hnames : ∀ entry ∈ unresolved.groups, '\n' ∉ entry.name.toList := by decide
  have hrow : rowOfGroup unresolved.sample ⟨"Emergency brake group", none⟩ ∈
      unresolved.groupRows := List.mem_cons_self
  have hmem : rowOfGroup unresolved.sample ⟨"Emergency brake group", none⟩ ∈ unresolved.rows := by
    rw [rows, if_pos hvalid]
    exact List.mem_append_left _ hrow
  refine ⟨⟨rfl, rfl⟩, hvalid, .inl rfl, _, hrow, rfl, by decide +kernel, draw_mem_boxOf hnames hmem,
    ?_⟩
  rw [Row.showsNone_iff]
  exact fun hshows => absurd hshows.2 (by decide)

end CockpitHud.Report
