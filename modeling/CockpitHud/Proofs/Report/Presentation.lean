import CockpitHud.Proofs.Report.Box

namespace CockpitHud

def Settings.withBorders (settings : Settings) (shown : Bool) : Settings :=
  { settings with showBorders := shown }

namespace Report

variable {report : Report} {planned : List Line}

def withBorders (report : Report) (shown : Bool) : Report :=
  { report with settings := report.settings.withBorders shown }

def withHeader (report : Report) (shown : Bool) : Report :=
  { report with settings := { report.settings with showHeader := shown } }

def ruleStarts : List Char :=
  "╔╠╟╚".toList

def withoutRightSide (line : List Char) : List Char :=
  if line.getLast? = some '║' then line.dropLast else line

/-- A line of a box without its borders. A rule is no line at all then, and of the sides of any
other line the left one becomes a space and the right one goes. -/
def unborderedLine : List Char → Option (List Char)
  | [] => some []
  | c :: rest =>
    if c ∈ ruleStarts then none
    else if c = '║' then some (' ' :: withoutRightSide rest)
    else some (c :: rest)

/-- A text with the borders taken off its box. What stands below the box stays. -/
def unbordered (text : List Char) : List Char :=
  Text.join '\n' ((boxOf text).filterMap unborderedLine ++ restOf text)

theorem unborderedLine_sides (inner : List Char) :
    unborderedLine (side true :: inner ++ Layout.rightSide (side true)) =
      some (side false :: inner ++ Layout.rightSide (side false)) := by
  have hstart : '║' ∉ ruleStarts := by decide
  change unborderedLine ('║' :: (inner ++ ['║'])) = some (' ' :: (inner ++ []))
  rw [unborderedLine, if_neg hstart, if_pos rfl, withoutRightSide, List.getLast?_concat,
    if_pos rfl, List.dropLast_concat, List.append_nil]

/-- A line drawn without borders is the line drawn with them less these. -/
theorem draw_unbordered (line : Line) :
    (line.draw true).filterMap unborderedLine = line.draw false := by
  cases line with
  | rule kind => cases kind <;> rfl
  | caption text => exact List.filterMap_cons_some (unborderedLine_sides _)
  | row values => exact List.filterMap_cons_some (unborderedLine_sides _)

/-- Taking the borders off what was drawn leaves what is drawn without borders. -/
theorem drawn_unbordered (planned : List Line) :
    (drawn true planned).filterMap unborderedLine = drawn false planned := by
  rw [drawn, List.filterMap_flatMap]
  exact congrArg (planned.flatMap ·) (funext draw_unbordered)

/-- Taking the borders off a box that is written above some text. -/
theorem unbordered_written {rest : List Char}
    (hfeed : ∀ borders, ∀ line ∈ drawn borders planned, '\n' ∉ line)
    (hrest : (Text.lines rest).head? = some []) :
    unbordered (written (drawn true planned) ++ rest) = written (drawn false planned) ++ rest := by
  obtain ⟨hbox, hbelow⟩ := boxOf_written (hfeed true) ne_nil_of_mem_drawn hrest
  rw [unbordered, hbox, hbelow, drawn_unbordered, ← lines_written (hfeed false)]
  exact Text.join_pieces _ _

theorem text_withBorders (report : Report) (shown : Bool) :
    (report.withBorders shown).text.toList =
      written (drawn shown report.plan) ++ written report.below := by
  rw [toList_text, written_append]
  rfl

/-- The setting for borders changes nothing but the borders. -/
theorem text_withoutBorders (h : ∀ entry ∈ report.groups, '\n' ∉ entry.name.toList) :
    (report.withBorders false).text.toList = unbordered (report.withBorders true).text.toList := by
  have hfeed : ∀ borders, ∀ line ∈ drawn borders report.plan, '\n' ∉ line :=
    fun borders => no_feed_of_mem_plan (report.withBorders borders) h
  rw [text_withBorders, text_withBorders, unbordered_written hfeed (head?_lines_below report)]

theorem unavailableText_withBorders (settings : Settings) (shown : Bool) :
    (unavailableText (settings.withBorders shown)).toList =
      written (drawn shown unavailablePlan) ++ [] := by
  rw [unavailableText, String.toList_ofList, unavailableLines_eq, List.append_nil]
  rfl

theorem unavailableText_withoutBorders (settings : Settings) :
    (unavailableText (settings.withBorders false)).toList =
      unbordered (unavailableText (settings.withBorders true)).toList := by
  have hfeed : ∀ borders, ∀ line ∈ drawn borders unavailablePlan, '\n' ∉ line := by
    intro borders line hline
    rw [← unavailableLines_eq] at hline
    exact (unavailableLines_isBoxLine borders line hline).1
  rw [unavailableText_withBorders, unavailableText_withBorders, unbordered_written hfeed rfl]

def planAbove : List Line :=
  [.rule .top, .caption title.toList, .rule .mid]

def planBelow (report : Report) : List Line :=
  [Line.rule .mid, .rule .separator] ++ report.groupPlan ++ report.directionPlan ++
    [Line.rule .bottom]

theorem fullPlan_withHeader (report : Report) (shown : Bool) :
    (report.withHeader shown).fullPlan =
      planAbove ++ (if shown then [Line.caption report.toggles.header] else []) ++
        report.planBelow := by
  simp only [fullPlan, planAbove, planBelow, List.append_assoc]
  rfl

def headerPlace (borders : Bool) : Nat :=
  if borders then 3 else 1

theorem length_drawn_planAbove (borders : Bool) :
    (drawn borders planAbove).length = headerPlace borders := by
  cases borders <;> rfl

/-- The lines of a report that can use its sample, with the header in its place or not at all. -/
theorem lines_withHeader (hvalid : report.sample.isValid = true)
    (h : ∀ entry ∈ report.groups, '\n' ∉ entry.name.toList) (shown : Bool) :
    Text.lines (report.withHeader shown).text.toList =
      drawn report.settings.showBorders planAbove ++
        ((if shown then centerLine report.settings.showBorders report.toggles.header else []) ++
          (drawn report.settings.showBorders report.planBelow ++
            Text.lines (written report.below))) := by
  have hplan : (report.withHeader shown).plan = (report.withHeader shown).fullPlan := if_pos hvalid
  have hfeed := no_feed_of_mem_plan (report.withHeader shown) h
  rw [toList_text, written_append, lines_written hfeed, hplan, fullPlan_withHeader]
  cases shown <;> simp only [drawn_append, List.append_assoc] <;> rfl

/-- The setting for the header puts in one line or takes it out. -/
theorem header_only (hvalid : report.sample.isValid = true)
    (h : ∀ entry ∈ report.groups, '\n' ∉ entry.name.toList) :
    let lines := Text.lines (report.withHeader true).text.toList
    let place := headerPlace report.settings.showBorders
    lines[place]? =
        some (Layout.center report.toggles.header boxWidth (side report.settings.showBorders)) ∧
      Text.lines (report.withHeader false).text.toList = lines.eraseIdx place := by
  have hplace := length_drawn_planAbove report.settings.showBorders
  simp only [lines_withHeader hvalid h, Bool.false_eq_true, if_true, if_false]
  constructor
  · rw [List.getElem?_append_right hplace.le, hplace, Nat.sub_self]
    rfl
  · rw [List.eraseIdx_append_of_length_le hplace.le, hplace, Nat.sub_self]
    rfl

/-- The header is not shown under a sample that cannot be used. -/
theorem text_withHeader_of_invalid (hvalid : ¬ report.sample.isValid = true) (shown : Bool) :
    (report.withHeader shown).text = report.text := by
  have hshown : ¬ (report.withHeader shown).sample.isValid = true := hvalid
  rw [text, text, if_neg hvalid, if_neg hshown]
  rfl

/-- Borders and header change only the looks. A report without borders is the report with its
borders taken off, and so is the box that stands for a report while the mass cannot be used. Without
the header one line is missing, or none under a sample that cannot be used. -/
theorem presentation_only (report : Report)
    (h : ∀ entry ∈ report.groups, '\n' ∉ entry.name.toList) :
    (report.withBorders false).text.toList = unbordered (report.withBorders true).text.toList ∧
      (∀ settings : Settings,
        (unavailableText (settings.withBorders false)).toList =
          unbordered (unavailableText (settings.withBorders true)).toList) ∧
      let lines := Text.lines (report.withHeader true).text.toList
      let place := headerPlace report.settings.showBorders
      if report.sample.isValid then
        lines[place]? =
            some (Layout.center report.toggles.header boxWidth (side report.settings.showBorders)) ∧
          (report.withHeader false).text.toList = Text.join '\n' (lines.eraseIdx place)
      else (report.withHeader false).text = (report.withHeader true).text := by
  refine ⟨text_withoutBorders h, unavailableText_withoutBorders, ?_⟩
  intro lines place
  split
  · rename_i hvalid
    obtain ⟨hheader, hothers⟩ := header_only hvalid h
    refine ⟨hheader, ?_⟩
    rw [← hothers]
    exact (Text.join_pieces _ _).symm
  · rename_i hvalid
    rw [text_withHeader_of_invalid hvalid, text_withHeader_of_invalid hvalid]

theorem presentation_only_motley :
    (∀ entry ∈ motley.groups, '\n' ∉ entry.name.toList) ∧ motley.sample.isValid = true ∧
      (motley.withBorders false).text.toList = unbordered (motley.withBorders true).text.toList ∧
      (Text.lines (motley.withHeader true).text.toList)[1]? =
        some "  RCS: ON   Burn: ON   Dir: ALL  ".toList := by
  have hnames : ∀ entry ∈ motley.groups, '\n' ∉ entry.name.toList := by decide
  have hvalid : motley.sample.isValid = true := by decide +kernel
  obtain ⟨hborders, _, hheader⟩ := presentation_only motley hnames
  rw [if_pos hvalid] at hheader
  refine ⟨hnames, hvalid, hborders, hheader.1.trans ?_⟩
  decide +kernel

end Report

end CockpitHud
