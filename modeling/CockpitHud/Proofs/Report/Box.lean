import CockpitHud.Proofs.Report.Plan

namespace CockpitHud.Report

variable {borders : Bool} {report : Report} {lines : List (List Char)} {rest : List Char}

/-- The lines of a text down to the first empty one. -/
def boxOf (text : List Char) : List (List Char) :=
  (Text.lines text).takeWhile (· ≠ [])

def restOf (text : List Char) : List (List Char) :=
  (Text.lines text).dropWhile (· ≠ [])

/-- The width of a box, which is one less without a right side. -/
def drawnWidth (borders : Bool) : Nat :=
  if borders then 34 else 33

theorem Line.length_draw {line : Line} {chars : List Char} (h : chars ∈ line.draw borders) :
    chars.length = drawnWidth borders := by
  have hside : (if side borders = ' ' then max boxWidth 2 - 1 else max boxWidth 2) =
      drawnWidth borders := by
    cases borders <;> rfl
  cases line with
  | rule kind =>
    cases borders with
    | false => contradiction
    | true =>
      rw [List.mem_singleton.mp h, Layout.Rule.length_draw]
      cases kind <;> rfl
  | caption text => rw [List.mem_singleton.mp h, Layout.length_center, hside]
  | row values => rw [List.mem_singleton.mp h, Layout.length_left, hside]

/-- All lines of a box are of one width, whatever they show. -/
theorem length_drawn {planned : List Line} :
    ∀ line ∈ drawn borders planned, line.length = drawnWidth borders := by
  intro line hline
  obtain ⟨source, _, hdraw⟩ := List.mem_flatMap.mp hline
  exact Line.length_draw hdraw

theorem ne_nil_of_mem_drawn {planned : List Line} : ∀ line ∈ drawn borders planned, line ≠ [] := by
  intro line hline hnil
  have hwidth := length_drawn line hline
  rw [hnil] at hwidth
  cases borders <;> contradiction

theorem no_feed_of_mem_plan (report : Report)
    (h : ∀ entry ∈ report.groups, '\n' ∉ entry.name.toList) :
    ∀ line ∈ drawn report.settings.showBorders report.plan, '\n' ∉ line := by
  rw [drawn_plan]
  split
  · exact fun line hline => (boxLines_isBoxLine report h line hline).1
  · exact fun line hline => (unavailableLines_isBoxLine _ line hline).1

/-- A box with nothing or an empty line behind it is read back. -/
theorem boxOf_written (hfeed : ∀ line ∈ lines, '\n' ∉ line) (hne : ∀ line ∈ lines, line ≠ [])
    (hrest : (Text.lines rest).head? = some []) :
    boxOf (written lines ++ rest) = lines ∧ restOf (written lines ++ rest) = Text.lines rest := by
  obtain ⟨more, hmore⟩ := List.head?_eq_some_iff.mp hrest
  have hkeep : ∀ line ∈ lines, decide (line ≠ []) = true := by simpa using hne
  rw [boxOf, restOf, lines_written hfeed, List.takeWhile_append_of_pos hkeep,
    List.dropWhile_append_of_pos hkeep, hmore]
  exact ⟨List.append_nil lines, rfl⟩

theorem head?_lines_below (report : Report) :
    (Text.lines (written report.below)).head? = some [] := by
  unfold below
  split <;> rfl

/-- The box of a report is what was planned. -/
theorem boxOf_text (h : ∀ entry ∈ report.groups, '\n' ∉ entry.name.toList) :
    boxOf report.text.toList = drawn report.settings.showBorders report.plan ∧
      restOf report.text.toList = Text.lines (written report.below) := by
  rw [toList_text, written_append]
  exact boxOf_written (no_feed_of_mem_plan report h) ne_nil_of_mem_drawn (head?_lines_below report)

/-- The text of a report is its box, with the status below it if there is one to be shown. All
lines of the box are of one width. It has the planned captions, and one row for each group and for
each direction that burns, in order, or no row at all if the sample cannot be used. -/
theorem box_complete (report : Report) (h : ∀ entry ∈ report.groups, '\n' ∉ entry.name.toList) :
    let box := boxOf report.text.toList
    report.text.toList = written (box ++ report.below) ∧
      (∀ line ∈ box, '\n' ∉ line ∧
        line.length = if report.settings.showBorders then 34 else 33) ∧
      box = drawn report.settings.showBorders report.plan ∧
      report.plan.filterMap Line.caption? = report.captions ∧
      report.plan.filterMap Line.row? = report.rows := by
  intro box
  have hbox : box = drawn report.settings.showBorders report.plan := (boxOf_text h).1
  refine ⟨hbox ▸ report.toList_text, ?_, hbox, report.plan_captions, report.plan_rows⟩
  rw [hbox]
  exact fun line hline => ⟨no_feed_of_mem_plan report h line hline, length_drawn line hline⟩

/-- A report without borders, on a group that is not on the ship and a consumption that is no
number. -/
def motley : Report where
  settings := { showBorders := false }
  toggles := {}
  groups := [⟨"Boost", some ⟨500000.0, 200.0, 2⟩⟩, ⟨"Ghost", none⟩]
  directions := some
    { PerDirection.replicate (some .zero) with left := none, up := some ⟨1.0, 0.0 / 0.0, 1⟩ }
  sample := ⟨10000.0, 2000.0⟩
  status := ["[Toggle] RCS: OFF"]

/-- The box is complete also without borders, and with a consumption that is no number. -/
theorem box_complete_motley :
    (∀ entry ∈ motley.groups, '\n' ∉ entry.name.toList) ∧
      (∀ line ∈ boxOf motley.text.toList, line.length = 33) ∧
      (motley.plan.filterMap Line.row?).map
          (fun row => (String.ofList row.name, row.value.isSome)) =
        [("Boost", true), ("Ghost", false), ("Up", false)] := by
  have hnames : ∀ entry ∈ motley.groups, '\n' ∉ entry.name.toList := by decide
  obtain ⟨_, hwidth, _, _, hrows⟩ := box_complete motley hnames
  refine ⟨hnames, fun line hline => (hwidth line hline).2, ?_⟩
  rw [hrows]
  decide +kernel

end CockpitHud.Report
