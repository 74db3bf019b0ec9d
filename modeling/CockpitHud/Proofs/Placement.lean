import CockpitHud.Proofs.Settings.Value
import CockpitHud.Proofs.Ship.Blocks

namespace CockpitHud.Placement

variable {notes line first updated : List Char} {found above below : List (List Char)}

theorem mark_eq : mark = ['h', 'u', 'd', 'l', 'c', 'd', ':'] := by decide

theorem trim_mark_append (rest : List Char) :
    Text.trim (mark ++ rest) = mark ++ Text.trimEnd rest := by
  have hstart : Text.trimStart (mark ++ rest) = mark ++ rest := by
    rw [Text.trimStart_eq_self_iff, mark_eq]
    intro c hc
    rw [← Option.some.inj hc]
    decide
  have hmark : mark.reverse.dropWhile Text.isBlank = mark.reverse := by
    rw [mark_eq]
    decide
  rw [Text.trim, hstart, Text.trimEnd, List.reverse_append, List.dropWhile_append, hmark]
  split
  · rename_i hblank
    rw [Text.trimEnd, List.isEmpty_iff.mp hblank, List.reverse_reverse]
    simp
  · rw [List.reverse_append, List.reverse_reverse]
    rfl

/-- What follows the mark does not change its letters. -/
theorem isPlacement_mark_append (rest : List Char) : isPlacement (mark ++ rest) = true := by
  have hlower : ∀ tail, ∃ back, Text.lower (mark ++ tail) = mark ++ back := by
    intro tail
    rw [mark_eq]
    exact ⟨_, rfl⟩
  obtain ⟨back, hback⟩ := hlower (Text.trimEnd rest)
  rw [isPlacement, trim_mark_append, hback, Text.startsWith, List.isPrefixOf_iff_prefix]
  exact List.prefix_append mark back

/-- The line that the settings ask for is found again as a placement line. -/
theorem isPlacement_desired (settings : Settings) : isPlacement (desired settings) = true := by
  rw [desired, List.append_assoc, List.append_assoc]
  exact isPlacement_mark_append _

/-- The placement line is one line as long as the scale does not break it. -/
theorem desired_no_feed {settings : Settings} (h : '\n' ∉ settings.scale.toList) :
    '\n' ∉ desired settings := by
  have hmark : '\n' ∉ mark := by decide
  have hanchors : ∀ x, '\n' ∉ Decimal.plain x := fun x => (Settings.plain_isValue x).2
  simp [desired, hmark, hanchors, h]

/-- The lines hold placement lines, the first of them between the lines above and those below. -/
structure PartedAt (found above : List (List Char)) (first : List Char)
    (below : List (List Char)) : Prop where
  lines : found = above ++ first :: below
  none_above : ∀ other ∈ above, isPlacement other = false
  placement : isPlacement first = true

theorem find?_eq_some_iff_partedAt :
    found.find? isPlacement = some first ↔ ∃ above below, PartedAt found above first below := by
  rw [List.find?_eq_some_iff_append]
  constructor
  · rintro ⟨hfirst, above, below, hlines, habove⟩
    exact ⟨above, below, hlines, by simpa using habove, hfirst⟩
  · rintro ⟨above, below, h⟩
    exact ⟨h.placement, above, below, h.lines, by simpa using h.none_above⟩

/-- The lines with the placement line among them. It takes the place of the first one that there
is, or else comes to the top. -/
def placed (found : List (List Char)) (line : List Char) : List (List Char) :=
  match found.findIdx? isPlacement with
  | none => line :: found
  | some i => found.set i line

/-- Only the first placement line is replaced. -/
theorem PartedAt.placed_eq (h : PartedAt found above first below) :
    placed found line = above ++ line :: below := by
  have hindex : found.findIdx? isPlacement = some above.length := by
    rw [h.lines, List.findIdx?_append, List.findIdx?_eq_none_iff.mpr h.none_above,
      List.findIdx?_cons, if_pos h.placement]
    simp
  simp only [placed, hindex]
  rw [h.lines, List.set_append_right _ _ (Nat.le_refl _), Nat.sub_self, List.set_cons_zero]

/-- Where there is no placement line, a new one comes to the top. -/
theorem placed_of_none (h : ∀ other ∈ found, isPlacement other = false) :
    placed found line = line :: found := by
  rw [placed, List.findIdx?_eq_none_iff.mpr h]

theorem exists_partedAt_or_none (found : List (List Char)) :
    (∃ above first below, PartedAt found above first below) ∨
      ∀ other ∈ found, isPlacement other = false := by
  cases hfind : found.find? isPlacement with
  | none => exact .inr (by simpa using hfind)
  | some first =>
    obtain ⟨above, below, h⟩ := find?_eq_some_iff_partedAt.mp hfind
    exact .inl ⟨above, first, below, h⟩

/-- The first placement line is then the one that was put there. -/
theorem find?_placed (hline : isPlacement line = true) :
    (placed found line).find? isPlacement = some line := by
  rw [find?_eq_some_iff_partedAt]
  rcases exists_partedAt_or_none found with ⟨above, first, below, h⟩ | hnone
  · exact ⟨above, below, h.placed_eq, h.none_above, hline⟩
  · exact ⟨[], found, placed_of_none hnone, by simp, hline⟩

theorem mem_placed {other : List Char} (h : other ∈ placed found line) :
    other ∈ found ∨ other = line := by
  rw [placed] at h
  split at h
  · exact (List.mem_cons.mp h).symm
  · exact List.mem_or_eq_of_mem_set h

theorem placed_ne_nil (hfound : found ≠ []) : placed found line ≠ [] := by
  rw [placed]
  split
  · exact List.cons_ne_nil line found
  · simpa using hfound

theorem lines_join_placed (hline : '\n' ∉ line) (notes : List Char) :
    Text.lines (Text.join '\n' (placed (Text.lines notes) line)) =
      placed (Text.lines notes) line := by
  apply Text.pieces_join (placed_ne_nil (Text.pieces_ne_nil '\n' notes))
  intro piece hpiece
  rcases mem_placed hpiece with hpiece | rfl
  · exact Text.not_mem_of_mem_pieces hpiece
  · exact hline

/-- The notes are left alone if their first placement line is the right one, blanks at its ends put
aside. -/
theorem update?_eq (notes line : List Char) :
    update? notes line =
      if ((Text.lines notes).find? isPlacement).map Text.trim = some (Text.trim line) then none
      else some (Text.join '\n' (placed (Text.lines notes) line)) := by
  rw [update?, placed, List.find?_eq_bind_findIdx?_getElem?]
  cases (Text.lines notes).findIdx? isPlacement with
  | none => rfl
  | some i => rfl

/-- The notes need no second update. -/
theorem update?_updated (hline : '\n' ∉ line) (hplacement : isPlacement line = true)
    (h : update? notes line = some updated) : update? updated line = none := by
  rw [update?_eq] at h
  split at h
  · contradiction
  · cases h
    rw [update?_eq, lines_join_placed hline, find?_placed hplacement, Option.map_some, if_pos rfl]

theorem splitOn_updated (hline : '\n' ∉ line) (h : update? notes line = some updated) :
    updated.splitOn '\n' = placed (notes.splitOn '\n') line := by
  rw [update?_eq] at h
  split at h
  · contradiction
  · cases h
    have hlines := lines_join_placed hline notes
    simpa only [Text.lines, Text.pieces_eq_splitOn] using hlines

/-- An update leaves the player's notes as they are, the placement line apart. It does nothing if
the first placement line is the right one already, blanks at its ends put aside. Else the right line
takes the place of the first one, or comes to the top if there is none; the other lines stay as they
are, later placement lines and carriage returns among them, and a second update does nothing. The
scale that is read from any text is within a line. -/
theorem placement_keeps_notes (notes : List Char) {settings : Settings}
    (hscale : '\n' ∉ settings.scale.toList) :
    let line := desired settings
    let found := notes.splitOn '\n'
    (update? notes line = none ↔ ∃ above first below, PartedAt found above first below ∧
      Text.trim first = Text.trim line) ∧
    (∀ updated, update? notes line = some updated → update? updated line = none ∧
      ((∃ above first below, PartedAt found above first below ∧
          updated.splitOn '\n' = above ++ line :: below) ∨
        (∀ other ∈ found, isPlacement other = false) ∧ updated.splitOn '\n' = line :: found)) ∧
    ∀ text, '\n' ∉ (Settings.read text).settings.scale.toList := by
  intro line found
  have hline : '\n' ∉ line := desired_no_feed hscale
  refine ⟨?_, ?_, fun text => (Settings.read_storable text).scale.2⟩
  · have hfound : Text.lines notes = found := Text.pieces_eq_splitOn '\n' notes
    have hnone : update? notes line = none ↔
        (found.find? isPlacement).map Text.trim = some (Text.trim line) := by
      rw [update?_eq, hfound]
      split <;> simp [*]
    rw [hnone, Option.map_eq_some_iff]
    constructor
    · rintro ⟨first, hfirst, htrim⟩
      obtain ⟨above, below, h⟩ := find?_eq_some_iff_partedAt.mp hfirst
      exact ⟨above, first, below, h, htrim⟩
    · rintro ⟨above, first, below, h, htrim⟩
      exact ⟨first, find?_eq_some_iff_partedAt.mpr ⟨above, below, h⟩, htrim⟩
  · intro updated h
    have hlines : updated.splitOn '\n' = placed found line := splitOn_updated hline h
    refine ⟨update?_updated hline (isPlacement_desired settings) h, ?_⟩
    rcases exists_partedAt_or_none found with ⟨above, first, below, hfirst⟩ | hnone
    · exact .inl ⟨above, first, below, hfirst, hlines.trans hfirst.placed_eq⟩
    · exact .inr ⟨hnone, hlines.trans (placed_of_none hnone)⟩

/-- Capitals, blanks and a carriage return do not hide a placement line, and a later one stays. -/
theorem placement_keeps_notes_marked :
    let line := desired {}
    let notes := "log\n  HUDLCD:0:0:1\r\n\nhudlcd:old\r".toList
    '\n' ∉ ({} : Settings).scale.toList ∧ update? notes line ≠ none ∧
      ∀ updated, update? notes line = some updated → update? updated line = none ∧
        updated.splitOn '\n' = ["log".toList, line, [], "hudlcd:old\r".toList] := by
  intro line notes
  have hscale : '\n' ∉ ({} : Settings).scale.toList := by decide
  refine ⟨hscale, by decide +kernel, fun updated h => ?_⟩
  obtain ⟨hagain, hlines⟩ := (placement_keeps_notes notes hscale).2.1 updated h
  refine ⟨hagain, (splitOn_updated (desired_no_feed hscale) h).trans ?_⟩
  decide +kernel

section Refresh

variable {ship before after : Ship} {id : BlockId} {settings : Settings}

def UpToDate (ship : Ship) (id : BlockId) (settings : Settings) : Prop :=
  update? (ship.customData id).toList (desired settings) = none

theorem UpToDate.congr (h : UpToDate before id settings)
    (hdata : after.customData id = before.customData id) : UpToDate after id settings := by
  rw [UpToDate, hdata]
  exact h

/-- A placement line that is up to date is not written again. -/
theorem refresh_of_upToDate (h : UpToDate ship id settings) : refresh ship id settings = ship := by
  rw [refresh, show update? _ _ = none from h]

/-- A line that is brought up to date stays so: nothing is put into the notes twice. -/
theorem refresh_upToDate (hscale : '\n' ∉ settings.scale.toList)
    (hworks : ship.displayWorks id = true) : UpToDate (refresh ship id settings) id settings := by
  unfold refresh
  split
  · rename_i notes hnotes
    rw [UpToDate, Ship.customData_setCustomData hworks, String.toList_ofList]
    exact update?_updated (desired_no_feed hscale) (isPlacement_desired settings) hnotes
  · assumption

end Refresh

end CockpitHud.Placement
