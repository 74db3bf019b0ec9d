import CockpitHud.Proofs.Report.Status

namespace CockpitHud.Report

structure Row where
  name : List Char
  value : Option Float
  unit : List Char

inductive Line where
  | rule (kind : Layout.Rule)
  | caption (text : List Char)
  | row (values : Row)

def Row.draw (borders : Bool) (row : Row) : List Char :=
  Layout.left (Report.row row.name row.value row.unit) boxWidth (side borders)

def Line.draw (borders : Bool) : Line → List (List Char)
  | .rule kind => ruleLine borders kind
  | .caption text => centerLine borders text
  | .row values => leftLine borders (Report.row values.name values.value values.unit)

def Line.caption? : Line → Option (List Char)
  | .caption text => some text
  | _ => none

def Line.row? : Line → Option Row
  | .row values => some values
  | _ => none

def groupsCaption : List Char := "ΔV by Group:".toList
def burnTimesCaption : List Char := "Burn Times (sec):".toList

def rowOfGroup (sample : MassSample) (entry : Propulsion.NamedTotal) : Row where
  name := entry.name.toList
  value := entry.total.bind fun total => total.deltaV? sample
  unit := "m/s".toList

def rowOfDirection (sample : MassSample) (direction : Direction) (total : Propulsion.Total) :
    Row where
  name := direction.name.toList
  value := total.burnTime? sample
  unit := "sec".toList

def groupRows (report : Report) : List Row :=
  report.groups.map (rowOfGroup report.sample)

/-- A row for each direction unless its consumption is zero or below, in the order of the
directions. -/
def burnRows (sample : MassSample) (table : Propulsion.DirectionTable) : List Row :=
  Direction.all.filterMap fun direction =>
    (table.get direction).bind fun total =>
      if total.flow ≤ 0.0 then none else some (rowOfDirection sample direction total)

def directionRows (report : Report) : List Row :=
  (report.directions.map (burnRows report.sample)).getD []

def groupPlan (report : Report) : List Line :=
  if report.groups = [] then [.caption noGroups.toList]
  else Line.caption groupsCaption :: report.groupRows.map Line.row ++ [Line.rule .mid]

def directionPlan (report : Report) : List Line :=
  match report.directions with
  | some table =>
    [Line.rule .separator, .caption burnTimesCaption, .rule .separator] ++
      (burnRows report.sample table).map Line.row
  | none => []

def fullPlan (report : Report) : List Line :=
  [Line.rule .top, .caption title.toList, .rule .mid] ++
    (if report.settings.showHeader then [Line.caption report.toggles.header] else []) ++
    [Line.rule .mid, .rule .separator] ++ report.groupPlan ++ report.directionPlan ++
    [Line.rule .bottom]

def unavailablePlan : List Line :=
  [.rule .top, .caption title.toList, .rule .mid, .caption unavailable.toList, .rule .bottom]

def plan (report : Report) : List Line :=
  if report.sample.isValid then report.fullPlan else unavailablePlan

def drawn (borders : Bool) (lines : List Line) : List (List Char) :=
  lines.flatMap (Line.draw borders)

def below (report : Report) : List (List Char) :=
  if report.sample.isValid ∧ report.status ≠ [] then
    [] :: statusHeading :: report.status.map String.toList
  else []

theorem drawn_nil (borders : Bool) : drawn borders [] = [] := rfl

theorem drawn_cons (borders : Bool) (line : Line) (rest : List Line) :
    drawn borders (line :: rest) = line.draw borders ++ drawn borders rest := rfl

theorem drawn_append (borders : Bool) (lines more : List Line) :
    drawn borders (lines ++ more) = drawn borders lines ++ drawn borders more :=
  List.flatMap_append

theorem drawn_rows (borders : Bool) (rows : List Row) :
    drawn borders (rows.map .row) = rows.map (Row.draw borders) := by
  rw [drawn, List.flatMap_map, List.map_eq_flatMap]
  rfl

theorem groupLines_eq (borders : Bool) (report : Report) :
    groupLines borders report.sample report.groups = drawn borders report.groupPlan := by
  unfold groupLines groupPlan
  split
  · rfl
  · have hrows : report.groups.flatMap (fun entry =>
        leftLine borders (groupRow report.sample entry)) =
          report.groupRows.map (Row.draw borders) := by
      rw [groupRows, List.map_map, List.map_eq_flatMap]
      rfl
    simp only [drawn_append, drawn_cons, drawn_nil, drawn_rows, hrows, List.append_nil]
    rfl

theorem directionLine_eq (borders : Bool) (sample : MassSample)
    (table : Propulsion.DirectionTable) (direction : Direction) :
    directionLine borders sample table direction =
      (((table.get direction).bind fun total =>
        if total.flow ≤ 0.0 then none else some (rowOfDirection sample direction total)).map
          (Row.draw borders)).toList := by
  unfold directionLine
  cases table.get direction with
  | none => rfl
  | some total =>
    simp only [Option.bind_some]
    split <;> rfl

theorem directionLines_eq (borders : Bool) (sample : MassSample)
    (table : Propulsion.DirectionTable) :
    directionLines borders sample table =
      drawn borders [.rule .separator, .caption burnTimesCaption, .rule .separator] ++
        (burnRows sample table).map (Row.draw borders) := by
  have hrows : Direction.all.flatMap (directionLine borders sample table) =
      (burnRows sample table).map (Row.draw borders) := by
    rw [burnRows, List.map_filterMap, List.filterMap_eq_flatMap_toList]
    exact congrArg (Direction.all.flatMap ·) (funext (directionLine_eq borders sample table))
  rw [directionLines, hrows]
  simp only [drawn_cons, drawn_nil, List.append_nil, List.append_assoc]
  rfl

/-- The box is drawn as planned. -/
theorem boxLines_eq (report : Report) :
    report.boxLines = drawn report.settings.showBorders report.fullPlan := by
  have hheader : headerLines report.settings report.toggles =
      drawn report.settings.showBorders
        (if report.settings.showHeader then [.caption report.toggles.header] else []) := by
    unfold headerLines
    split <;> rfl
  unfold boxLines fullPlan directionPlan
  cases report.directions with
  | none =>
    simp only [hheader, groupLines_eq, drawn_append, drawn_cons, drawn_nil, List.append_nil,
      List.append_assoc]
    rfl
  | some table =>
    simp only [hheader, groupLines_eq, directionLines_eq, drawn_append, drawn_cons, drawn_nil,
      drawn_rows, List.append_nil, List.append_assoc]
    rfl

theorem unavailableLines_eq (borders : Bool) :
    unavailableLines borders = drawn borders unavailablePlan := by
  simp only [unavailablePlan, drawn_cons, drawn_nil, List.append_nil]
  simp only [unavailableLines, List.append_assoc]
  rfl

theorem written_append (lines more : List (List Char)) :
    written (lines ++ more) = written lines ++ written more :=
  List.flatMap_append

theorem statusBlock_eq (status : List String) :
    statusBlock status =
      written (if status = [] then [] else [] :: statusHeading :: status.map String.toList) := by
  unfold statusBlock
  split <;> rfl

/-- A report is drawn line by line from its plan. -/
theorem drawn_plan (report : Report) : drawn report.settings.showBorders report.plan =
    if report.sample.isValid then report.boxLines
    else unavailableLines report.settings.showBorders := by
  unfold plan
  split
  · rw [boxLines_eq]
  · rw [unavailableLines_eq]

/-- The text is the lines of the box and those below it. -/
theorem toList_text (report : Report) :
    report.text.toList =
      written (drawn report.settings.showBorders report.plan ++ report.below) := by
  rw [drawn_plan]
  unfold text below
  split
  · rename_i hvalid
    simp only [hvalid, true_and, ne_eq, ite_not, String.toList_ofList, statusBlock_eq,
      written_append]
  · rename_i hvalid
    simp only [hvalid, Bool.false_eq_true, false_and, if_false, unavailableText,
      String.toList_ofList, List.append_nil]

def captions (report : Report) : List (List Char) :=
  if report.sample.isValid then
    [title.toList] ++ (if report.settings.showHeader then [report.toggles.header] else []) ++
      [if report.groups = [] then noGroups.toList else groupsCaption] ++
      (if report.directions.isSome then [burnTimesCaption] else [])
  else [title.toList, unavailable.toList]

def rows (report : Report) : List Row :=
  if report.sample.isValid then report.groupRows ++ report.directionRows else []

theorem filterMap_row?_rows (rows : List Row) : (rows.map Line.row).filterMap Line.row? = rows := by
  rw [List.filterMap_map]
  exact List.filterMap_some

theorem filterMap_caption?_rows (rows : List Row) :
    (rows.map Line.row).filterMap Line.caption? = [] := by
  rw [List.filterMap_map]
  exact List.filterMap_eq_nil_iff.mpr fun _ _ => rfl

theorem groupPlan_lines (report : Report) :
    report.groupPlan.filterMap Line.row? = report.groupRows ∧
      report.groupPlan.filterMap Line.caption? =
        [if report.groups = [] then noGroups.toList else groupsCaption] := by
  unfold groupPlan
  split
  · rename_i hnone
    rw [groupRows, hnone]
    exact ⟨rfl, rfl⟩
  · simp only [List.filterMap_append, List.filterMap_cons, Line.row?, Line.caption?,
      filterMap_row?_rows, filterMap_caption?_rows, List.filterMap_nil, List.append_nil, and_self]

theorem directionPlan_lines (report : Report) :
    report.directionPlan.filterMap Line.row? = report.directionRows ∧
      report.directionPlan.filterMap Line.caption? =
        if report.directions.isSome then [burnTimesCaption] else [] := by
  unfold directionPlan directionRows
  cases report.directions with
  | none => exact ⟨rfl, rfl⟩
  | some table =>
    constructor
    · rw [List.filterMap_append, filterMap_row?_rows]
      rfl
    · rw [List.filterMap_append, filterMap_caption?_rows]
      rfl

/-- The plan has the rows of the groups and then those of the directions, if the sample can be
used. -/
theorem plan_rows (report : Report) : report.plan.filterMap Line.row? = report.rows := by
  unfold plan rows
  split
  · have hheader : (if report.settings.showHeader then [Line.caption report.toggles.header]
        else []).filterMap Line.row? = [] := by
      split <;> rfl
    simp only [fullPlan, List.filterMap_append, hheader, (groupPlan_lines report).1,
      (directionPlan_lines report).1]
    exact List.append_nil _
  · rfl

theorem plan_captions (report : Report) :
    report.plan.filterMap Line.caption? = report.captions := by
  unfold plan captions
  split
  · have hheader : (if report.settings.showHeader then [Line.caption report.toggles.header]
        else []).filterMap Line.caption? =
          if report.settings.showHeader then [report.toggles.header] else [] := by
      split <;> rfl
    simp only [fullPlan, List.filterMap_append, hheader, (groupPlan_lines report).2,
      (directionPlan_lines report).2, List.filterMap_cons, List.filterMap_nil, Line.caption?,
      List.append_nil, List.nil_append, List.append_assoc]
  · rfl

end CockpitHud.Report
