import CockpitHud.Proofs.Decimal.ReadBack
import CockpitHud.Proofs.Layout.Box
import CockpitHud.Proofs.Text.Pieces
import CockpitHud.Report

namespace CockpitHud

namespace Decimal

/-- A whole number is written with digits, or it is infinite or no number. -/
theorem mem_whole {x : Float} {c : Char} (h : c ∈ whole x) :
    c.isDigit = true ∨ c ∈ "-infNaN".toList := by
  have hsign : ∀ negative, signText negative ⊆ "-infNaN".toList := by decide
  have hinfinite : "inf".toList ⊆ "-infNaN".toList := by decide
  have hnone : "NaN".toList ⊆ "-infNaN".toList := by decide
  simp only [whole] at h
  split at h
  · exact .inr (hnone h)
  · rcases List.mem_append.mp h with h | h
    · exact .inr (hsign _ h)
    · split at h
      · exact .inr (hinfinite h)
      · exact .inl (toDigits_isDigit _ c h)

theorem whole_no_feed (x : Float) : '\n' ∉ whole x := by
  intro h
  rcases mem_whole h with h | h <;> exact absurd h (by decide)

end Decimal

namespace Report

def statusHeading : List Char :=
  "[Status]".toList

/-- What a player reads below the heading, down to the last line feed. There is nothing to read
without a heading. -/
def statusEntries (text : String) : List String :=
  (((Text.lines text.toList).dropWhile (· ≠ statusHeading)).tail.dropLast).map String.ofList

/-- One line that cannot be taken for the heading. -/
def IsBoxLine (line : List Char) : Prop :=
  '\n' ∉ line ∧ line.head? ≠ some '['

theorem IsBoxLine.ne_heading {line : List Char} (h : IsBoxLine line) : line ≠ statusHeading := by
  rintro rfl
  exact h.2 rfl

theorem side_ne (borders : Bool) : side borders ≠ '\n' ∧ side borders ≠ '[' := by
  cases borders <;> decide

theorem ruleLine_isBoxLine (borders : Bool) (rule : Layout.Rule) :
    ∀ line ∈ ruleLine borders rule, IsBoxLine line := by
  have hchars : ∀ c, c = '\n' ∨ c = '[' → c ∉ rule.draw boxWidth := by
    intro c hc hmem
    have hrule := Layout.Rule.mem_draw hmem
    rcases hc with rfl | rfl <;> exact absurd hrule (by decide)
  intro line hline
  unfold ruleLine at hline
  split at hline
  · rw [List.mem_singleton.mp hline]
    exact ⟨hchars _ (.inl rfl), fun h => hchars _ (.inr rfl) (List.mem_of_head? h)⟩
  · contradiction

/-- A text between sides is a line of the box if it is one line. -/
theorem isBoxLine_of_sides {borders : Bool} {line text : List Char} (h : '\n' ∉ text)
    (hchars : ∀ c ∈ line, c ∈ text ∨ c = ' ' ∨ c = side borders)
    (hhead : line.head? = some (side borders)) : IsBoxLine line := by
  obtain ⟨hfeed, hbracket⟩ := side_ne borders
  constructor
  · intro hmem
    rcases hchars _ hmem with hmem | hmem | hmem
    · exact h hmem
    · contradiction
    · exact hfeed hmem.symm
  · rw [hhead]
    exact fun hmem => hbracket (Option.some.inj hmem)

theorem centerLine_isBoxLine (borders : Bool) {text : List Char} (h : '\n' ∉ text) :
    ∀ line ∈ centerLine borders text, IsBoxLine line := by
  intro line hline
  rw [List.mem_singleton.mp hline]
  exact isBoxLine_of_sides h (fun _ hc => Layout.mem_center hc) (Layout.head?_center _ _ _)

theorem leftLine_isBoxLine (borders : Bool) {text : List Char} (h : '\n' ∉ text) :
    ∀ line ∈ leftLine borders text, IsBoxLine line := by
  intro line hline
  rw [List.mem_singleton.mp hline]
  exact isBoxLine_of_sides h (fun _ hc => Layout.mem_left hc) (Layout.head?_left _ _ _)

theorem row_no_feed {name unit : List Char} (hname : '\n' ∉ name) (hunit : '\n' ∉ unit)
    (value : Option Float) : '\n' ∉ row name value unit := by
  have hright : '\n' ∉ Layout.padRight name nameWidth := fun h =>
    (Layout.mem_padRight h).elim hname (by decide)
  have hleft : ∀ {text : List Char}, '\n' ∉ text → '\n' ∉ Layout.padLeft text valueWidth :=
    fun htext h => (Layout.mem_padLeft h).elim htext (by decide)
  have hfill : ∀ n, '\n' ∉ Layout.fill n ' ' := fun n h => absurd (Layout.mem_fill h) (by decide)
  have hspace : '\n' ≠ ' ' := by decide
  have hbar : '\n' ∉ " │ ".toList := by decide
  have hmissing : '\n' ∉ "N/a".toList := by decide
  cases value with
  | none =>
    simp only [row, List.cons_append, List.mem_cons, List.mem_append, not_or]
    exact ⟨hspace, ⟨⟨hright, hbar⟩, hleft hmissing, hspace, hfill _⟩, hspace, List.not_mem_nil⟩
  | some x =>
    simp only [row, List.cons_append, List.mem_cons, List.mem_append, not_or]
    exact ⟨hspace, ⟨⟨hright, hbar⟩, hleft (Decimal.whole_no_feed x), hspace, hunit⟩, hspace,
      List.not_mem_nil⟩

theorem groupLines_isBoxLine (borders : Bool) (sample : MassSample)
    {groups : List Propulsion.NamedTotal} (h : ∀ entry ∈ groups, '\n' ∉ entry.name.toList) :
    ∀ line ∈ groupLines borders sample groups, IsBoxLine line := by
  unfold groupLines
  split
  · exact centerLine_isBoxLine borders (by decide)
  · rw [List.forall_mem_append, List.forall_mem_append]
    refine ⟨⟨centerLine_isBoxLine borders (by decide), ?_⟩, ruleLine_isBoxLine borders .mid⟩
    intro line hline
    obtain ⟨entry, hentry, hline⟩ := List.mem_flatMap.mp hline
    exact leftLine_isBoxLine borders (row_no_feed (h entry hentry) (by decide) _) line hline

theorem directionLine_isBoxLine (borders : Bool) (sample : MassSample)
    (table : Propulsion.DirectionTable) (direction : Direction) :
    ∀ line ∈ directionLine borders sample table direction, IsBoxLine line := by
  have hname : '\n' ∉ direction.name.toList := by cases direction <;> decide
  intro line hline
  unfold directionLine at hline
  split at hline
  · contradiction
  · split at hline
    · contradiction
    · exact leftLine_isBoxLine borders (row_no_feed hname (by decide) _) line hline

theorem directionLines_isBoxLine (borders : Bool) (sample : MassSample)
    (table : Propulsion.DirectionTable) :
    ∀ line ∈ directionLines borders sample table, IsBoxLine line := by
  simp only [directionLines, List.forall_mem_append]
  refine ⟨⟨⟨ruleLine_isBoxLine borders _, centerLine_isBoxLine borders (by decide)⟩,
    ruleLine_isBoxLine borders _⟩, ?_⟩
  intro line hline
  obtain ⟨direction, _, hline⟩ := List.mem_flatMap.mp hline
  exact directionLine_isBoxLine borders sample table direction line hline

theorem headerLines_isBoxLine (settings : Settings) (toggles : Toggles) :
    ∀ line ∈ headerLines settings toggles, IsBoxLine line := by
  have hheader : '\n' ∉ toggles.header := by
    obtain ⟨maneuvering, burnTimes, allDirections⟩ := toggles
    cases maneuvering <;> cases burnTimes <;> cases allDirections <;> decide
  unfold headerLines
  split
  · exact centerLine_isBoxLine settings.showBorders hheader
  · intro line hline
    contradiction

/-- The status cannot be mistaken for a part of the box. -/
theorem boxLines_isBoxLine (report : Report)
    (h : ∀ entry ∈ report.groups, '\n' ∉ entry.name.toList) :
    ∀ line ∈ report.boxLines, IsBoxLine line := by
  have hrule := ruleLine_isBoxLine report.settings.showBorders
  simp only [boxLines, List.forall_mem_append]
  refine ⟨⟨⟨⟨⟨⟨⟨⟨hrule _, centerLine_isBoxLine _ (by decide)⟩, hrule _⟩,
    headerLines_isBoxLine report.settings report.toggles⟩, hrule _⟩, hrule _⟩,
    groupLines_isBoxLine _ report.sample h⟩, ?_⟩, hrule _⟩
  cases report.directions with
  | none =>
    intro line hline
    contradiction
  | some table => exact directionLines_isBoxLine _ report.sample table

theorem unavailableLines_isBoxLine (borders : Bool) :
    ∀ line ∈ unavailableLines borders, IsBoxLine line := by
  have hrule := ruleLine_isBoxLine borders
  simp only [unavailableLines, List.forall_mem_append]
  exact ⟨⟨⟨⟨hrule _, centerLine_isBoxLine borders (by decide)⟩, hrule _⟩,
    centerLine_isBoxLine borders (by decide)⟩, hrule _⟩

/-- Lines that hold no line feed are read back from the text written of them. -/
theorem lines_written {lines : List (List Char)} (h : ∀ line ∈ lines, '\n' ∉ line)
    (rest : List Char) : Text.lines (written lines ++ rest) = lines ++ Text.lines rest :=
  Text.lines_append lines h rest

/-- Below a box alone there is no status. -/
theorem statusEntries_box {lines : List (List Char)} (h : ∀ line ∈ lines, IsBoxLine line) :
    statusEntries (String.ofList (written lines)) = [] := by
  have hlines : Text.lines (written lines) = lines ++ [[]] := by
    have := lines_written (fun line hline => (h line hline).1) []
    rwa [List.append_nil] at this
  have hdrop : (lines ++ [[]]).dropWhile (· ≠ statusHeading) = [] := by
    apply List.dropWhile_eq_nil_iff.mpr
    intro line hline
    rcases List.mem_append.mp hline with hline | hline
    · simpa using (h line hline).ne_heading
    · rw [List.mem_singleton.mp hline]
      decide
  rw [statusEntries, String.toList_ofList, hlines, hdrop]
  rfl

/-- Below a box and the status block, the status is read entry by entry. -/
theorem statusEntries_block {lines : List (List Char)} (h : ∀ line ∈ lines, IsBoxLine line)
    {status : List String} (hstatus : ∀ entry ∈ status, '\n' ∉ entry.toList) :
    statusEntries (String.ofList (written lines ++ statusBlock status)) = status := by
  by_cases hempty : status = []
  · rw [hempty, statusBlock, if_pos rfl, List.append_nil]
    exact statusEntries_box h
  · have hblock : Text.lines (statusBlock status) =
        [] :: statusHeading :: (status.map String.toList ++ [[]]) := by
      have hentries : ∀ line ∈ [] :: statusHeading :: status.map String.toList, '\n' ∉ line := by
        intro line hline
        rcases List.mem_cons.mp hline with rfl | hline
        · exact List.not_mem_nil
        · rcases List.mem_cons.mp hline with rfl | hline
          · decide
          · obtain ⟨entry, hentry, rfl⟩ := List.mem_map.mp hline
            exact hstatus entry hentry
      have hlines := lines_written hentries []
      rw [List.append_nil] at hlines
      rw [statusBlock, if_neg hempty]
      exact hlines
    have hdrop : (lines ++ [] :: statusHeading :: (status.map String.toList ++ [[]])).dropWhile
        (· ≠ statusHeading) = statusHeading :: (status.map String.toList ++ [[]]) := by
      rw [List.dropWhile_append_of_pos]
      · rfl
      · intro line hline
        simpa using (h line hline).ne_heading
    rw [statusEntries, String.toList_ofList, lines_written fun line hline => (h line hline).1,
      hblock, hdrop, List.tail_cons, List.dropLast_concat, List.map_map]
    exact List.map_id'' (fun entry => String.ofList_toList) status

/-- The status is printed as it is under a sample that can be used, and not at all under any
other. -/
theorem statusEntries_text (report : Report)
    (hgroups : ∀ entry ∈ report.groups, '\n' ∉ entry.name.toList)
    (hstatus : ∀ entry ∈ report.status, '\n' ∉ entry.toList) :
    statusEntries report.text = if report.sample.isValid then report.status else [] := by
  unfold text
  split
  · exact statusEntries_block (boxLines_isBoxLine report hgroups) hstatus
  · exact statusEntries_box (unavailableLines_isBoxLine _)

end Report

end CockpitHud
