import CockpitHud.Proofs.Report.Box

namespace CockpitHud.Report

variable {borders : Bool} {row : Row} {x : Float}

/-- The bar of a row and the value behind it, set right in its column. -/
def valueText (x : Float) : List Char :=
  "│ ".toList ++ Layout.padLeft (Decimal.whole x) valueWidth

def Row.lead (row : Row) : List Char :=
  ' ' :: Layout.padRight row.name nameWidth ++ [' ']

def Row.barPlace (row : Row) : Nat :=
  max nameWidth row.name.length + 3

/-- From its bar on, the line of a row reads as the bar and the whole value. -/
def Row.Shows (borders : Bool) (row : Row) (x : Float) : Prop :=
  valueText x <+: (row.draw borders).drop row.barPlace

theorem length_valueText (x : Float) :
    (valueText x).length = max valueWidth (Decimal.whole x).length + 2 := by
  rw [valueText, List.length_append, Layout.length_padLeft, Nat.add_comm]
  rfl

/-- A value is written with the bar, spaces, and what numbers are written with. -/
theorem mem_valueText {c : Char} (h : c ∈ valueText x) :
    c ∈ "│ ".toList ∨ c.isDigit = true ∨ c ∈ "-infNaN".toList := by
  rcases List.mem_append.mp h with h | h
  · exact .inl h
  · rcases Layout.mem_padLeft h with h | rfl
    · exact .inr (Decimal.mem_whole h)
    · exact .inl (by decide)

theorem Row.length_lead (row : Row) : row.lead.length + 1 = row.barPlace := by
  rw [lead, barPlace, List.cons_append, List.length_cons, List.length_append,
    Layout.length_padRight]
  rfl

/-- The text of a row, before it is cut to the inside of the box. -/
def Row.text (row : Row) : List Char :=
  Report.row row.name row.value row.unit

theorem Row.draw_eq (row : Row) (borders : Bool) :
    row.draw borders =
      side borders :: Layout.flushed row.text (boxWidth - 2) ++ Layout.rightSide (side borders) :=
  rfl

theorem Row.text_of_value (hvalue : row.value = some x) :
    row.text = row.lead ++ (valueText x ++ (' ' :: row.unit ++ [' '])) := by
  simp only [text, hvalue, Report.row, lead, valueText, List.cons_append, List.append_assoc]
  rfl

theorem prefix_append_iff {visible front rest : List Char} (h : visible.length ≤ front.length) :
    visible <+: front ++ rest ↔ visible <+: front :=
  ⟨fun hstart => List.prefix_of_prefix_length_le hstart (List.prefix_append _ _) h,
    List.prefix_append_of_prefix⟩

/-- What ends inside the box is read behind the lead of a row in its line as it is in its text. -/
theorem Row.read_iff_of_fits {visible : List Char}
    (hlength : row.lead.length + visible.length ≤ row.text.length)
    (hfits : row.lead.length + visible.length ≤ boxWidth - 2) :
    visible <+: (row.draw borders).drop row.barPlace ↔
      visible <+: row.text.drop row.lead.length := by
  have hshown : row.lead.length + visible.length ≤ (row.text.take (boxWidth - 2)).length := by
    rw [List.length_take]
    omega
  have hdrop : visible.length ≤ ((row.text.take (boxWidth - 2)).drop row.lead.length).length := by
    rw [List.length_drop]
    omega
  have hroom : visible.length ≤ boxWidth - 2 - row.lead.length := by omega
  rw [← row.length_lead, draw_eq, List.cons_append, List.drop_succ_cons, Layout.flushed,
    Layout.padRight, List.append_assoc, List.drop_append_of_le_length (by omega),
    prefix_append_iff hdrop, List.drop_take, List.prefix_take_iff]
  exact and_iff_left hroom

/-- What is read in a line ends inside the box: nothing of it can stand on or behind the right
side. -/
theorem Row.fits_of_read {visible : List Char} (hside : '║' ∉ visible) (hne : visible ≠ [])
    (hread : visible <+: (row.draw borders).drop row.barPlace) :
    row.lead.length + visible.length ≤ boxWidth - 2 := by
  have hline : row.draw borders ∈ (Line.row row).draw borders := List.mem_cons_self
  have hdraw := Line.length_draw hline
  have hvisible := List.length_pos_iff.mpr hne
  have hlength := hread.length_le
  rw [List.length_drop, hdraw, ← row.length_lead] at hlength
  cases borders with
  | false =>
    change _ ≤ 33 - _ at hlength
    change _ ≤ 32
    omega
  | true =>
    change _ ≤ 34 - _ at hlength
    change _ ≤ 32
    by_contra hlong
    -- One character too many: the text would reach to the right side.
    have hlast : ((row.draw true).drop row.barPlace).getLast? = some '║' := by
      rw [List.getLast?_drop, if_neg, draw_eq]
      · exact List.getLast?_concat
      · rw [hdraw, ← row.length_lead]
        change ¬ 34 ≤ _
        omega
    have hall : visible = (row.draw true).drop row.barPlace := by
      apply hread.eq_of_length_le
      rw [List.length_drop, hdraw, ← row.length_lead]
      change 34 - _ ≤ _
      omega
    rw [← hall] at hlast
    exact hside (List.mem_of_getLast? hlast)

theorem right_side_not_mem_valueText (x : Float) : '║' ∉ valueText x := by
  intro h
  rcases mem_valueText h with h | h | h <;> exact absurd h (by decide)

/-- A value is shown if it ends inside the box, and then only. -/
theorem Row.shows_iff_fits (hvalue : row.value = some x) :
    row.Shows borders x ↔ row.lead.length + (valueText x).length ≤ boxWidth - 2 := by
  have hlength : row.lead.length + (valueText x).length ≤ row.text.length := by
    rw [text_of_value hvalue, List.length_append, List.length_append]
    omega
  have htext : valueText x <+: row.text.drop row.lead.length := by
    rw [text_of_value hvalue, List.drop_left]
    exact List.prefix_append _ _
  refine ⟨fits_of_read (right_side_not_mem_valueText x) (List.cons_ne_nil _ _), fun hfits => ?_⟩
  exact (read_iff_of_fits hlength hfits).mpr htext

theorem draw_mem_drawn {report : Report} (hrow : row ∈ report.rows) :
    row.draw borders ∈ drawn borders report.plan := by
  rw [← plan_rows] at hrow
  obtain ⟨line, hline, hrow⟩ := List.mem_filterMap.mp hrow
  cases line with
  | rule kind => contradiction
  | caption text => contradiction
  | row values =>
    cases hrow
    exact List.mem_flatMap.mpr ⟨_, hline, List.mem_cons_self⟩

/-- The line of a row is found in the box as a player reads it. -/
theorem draw_mem_boxOf {report : Report} (h : ∀ entry ∈ report.groups, '\n' ∉ entry.name.toList)
    (hrow : row ∈ report.rows) :
    row.draw report.settings.showBorders ∈ boxOf report.text.toList := by
  rw [(boxOf_text h).1]
  exact draw_mem_drawn hrow

/-- Every row of a report is in its box. It shows its value in full if the name and the value, each
no narrower than its column, leave room for the four characters around them, and then only. -/
theorem value_shown_iff (report : Report) (h : ∀ entry ∈ report.groups, '\n' ∉ entry.name.toList) :
    ∀ row ∈ report.rows,
      row.draw report.settings.showBorders ∈ boxOf report.text.toList ∧
        ∀ x, row.value = some x →
          (row.Shows report.settings.showBorders x ↔
            max nameWidth row.name.length + max valueWidth (Decimal.whole x).length ≤ 28) := by
  intro row hrow
  refine ⟨draw_mem_boxOf h hrow, fun x hvalue => ?_⟩
  have hroom : row.lead.length + (valueText x).length ≤ boxWidth - 2 ↔
      max nameWidth row.name.length + max valueWidth (Decimal.whole x).length ≤ 28 := by
    have hlead : row.lead.length + 1 = max nameWidth row.name.length + 3 := row.length_lead
    rw [length_valueText]
    change _ ≤ 32 ↔ _
    omega
  rw [← hroom]
  exact Row.shows_iff_fits hvalue

/-- A report on a group with a short name and on one whose name is longer than its column. -/
def overlong : Report where
  settings := {}
  toggles := {}
  groups := [⟨"Boost", some ⟨500000.0, 200.0, 2⟩⟩,
    ⟨"Emergency brake group", some ⟨500000.0, 200.0, 2⟩⟩]
  directions := none
  sample := ⟨10000.0, 2000.0⟩
  status := []

def overlongRows : List (List Char × List Char × List Char) :=
  [("Boost".toList, "55786".toList, "║ Boost         │     55786 m/s  ║".toList),
    ("Emergency brake group".toList, "55786".toList, "║ Emergency brake group │     557║".toList)]

theorem exists_row_overlong {name digits line : List Char}
    (h : (name, digits, line) ∈ overlongRows) :
    ∃ row ∈ overlong.rows, ∃ x, row.value = some x ∧ row.name = name ∧ Decimal.whole x = digits ∧
      row.draw true = line := by
  have hrows : overlong.rows.filterMap (fun row =>
      row.value.map fun x => (row.name, Decimal.whole x, row.draw true)) = overlongRows := by
    decide +kernel
  rw [← hrows] at h
  obtain ⟨row, hrow, heq⟩ := List.mem_filterMap.mp h
  obtain ⟨x, hvalue, hparts⟩ := Option.map_eq_some_iff.mp heq
  simp only [Prod.mk.injEq] at hparts
  exact ⟨row, hrow, x, hvalue, hparts⟩

/-- Of two rows with one value, the one with the short name shows it whole. -/
theorem value_shown_iff_overlong :
    (∀ entry ∈ overlong.groups, '\n' ∉ entry.name.toList) ∧
      ∃ row ∈ overlong.rows, ∃ x, row.value = some x ∧ Decimal.whole x = "55786".toList ∧
        row.draw true ∈ boxOf overlong.text.toList ∧ row.Shows true x := by
  have hnames : ∀ entry ∈ overlong.groups, '\n' ∉ entry.name.toList := by decide
  obtain ⟨row, hrow, x, hvalue, hname, hdigits, -⟩ := exists_row_overlong List.mem_cons_self
  obtain ⟨hbox, hshown⟩ := value_shown_iff overlong hnames row hrow
  refine ⟨hnames, row, hrow, x, hvalue, hdigits, hbox, (hshown x hvalue).mpr ?_⟩
  rw [hname, hdigits]
  decide

/-- The last two digits of the value are cut off, with its unit. -/
theorem value_cut_overlong :
    overlong.sample.isValid = true ∧ (∀ entry ∈ overlong.groups, '\n' ∉ entry.name.toList) ∧
      ∃ row ∈ overlong.rows, ∃ x, row.value = some x ∧ Decimal.whole x = "55786".toList ∧
        row.draw true = "║ Emergency brake group │     557║".toList ∧
        row.draw true ∈ boxOf overlong.text.toList ∧ ¬ row.Shows true x := by
  have hvalid : overlong.sample.isValid = true := by decide +kernel
  have hnames : ∀ entry ∈ overlong.groups, '\n' ∉ entry.name.toList := by decide
  obtain ⟨row, hrow, x, hvalue, hname, hdigits, hline⟩ :=
    exists_row_overlong (List.mem_cons_of_mem _ List.mem_cons_self)
  refine ⟨hvalid, hnames, row, hrow, x, hvalue, hdigits, hline, draw_mem_boxOf hnames hrow, ?_⟩
  intro hshows
  rw [Row.Shows, valueText, Row.barPlace, hline, hname, hdigits] at hshows
  exact absurd hshows (by decide)

end CockpitHud.Report
