import CockpitHud.Text.Pieces

namespace CockpitHud.Text

variable {separator c : Char} {piece text : List Char}

theorem headD_cons_tail_pieces (separator : Char) (text : List Char) :
    (pieces separator text).headD [] :: (pieces separator text).tail = pieces separator text := by
  cases h : pieces separator text with
  | nil => exact absurd h (pieces_ne_nil separator text)
  | cons piece others => rfl

theorem pieces_eq_splitOn (separator : Char) (text : List Char) :
    pieces separator text = text.splitOn separator := by
  induction text with
  | nil => rw [pieces, List.splitOn_nil]
  | cons c rest ih =>
    rw [pieces, List.splitOn_cons_eq_if_modifyHead, ← ih]
    cases hpieces : pieces separator rest with
    | nil => exact absurd hpieces (pieces_ne_nil separator rest)
    | cons piece others => simp

/-- No piece holds the separator, and what a piece holds stands in the text. -/
theorem mem_of_mem_pieces (hpiece : piece ∈ pieces separator text) (hc : c ∈ piece) :
    c ∈ text ∧ c ≠ separator := by
  induction text generalizing piece with
  | nil =>
    rw [List.mem_singleton.mp hpiece] at hc
    contradiction
  | cons first rest ih =>
    have hmem : ∀ p, p ∈ pieces separator rest → c ∈ p → c ∈ first :: rest ∧ c ≠ separator :=
      fun p hp hcp => ⟨List.mem_cons_of_mem _ (ih hp hcp).1, (ih hp hcp).2⟩
    simp only [pieces] at hpiece
    split at hpiece
    · rcases List.mem_cons.mp hpiece with rfl | hpiece
      · contradiction
      · exact hmem piece hpiece hc
    · rename_i hfirst
      have hparts := headD_cons_tail_pieces separator rest
      rcases List.mem_cons.mp hpiece with rfl | hpiece
      · rcases List.mem_cons.mp hc with rfl | hc
        · exact ⟨List.mem_cons_self, hfirst⟩
        · exact hmem _ (hparts ▸ List.mem_cons_self) hc
      · exact hmem piece (hparts ▸ List.mem_cons_of_mem _ hpiece) hc

theorem not_mem_of_mem_pieces (hpiece : piece ∈ pieces separator text) : separator ∉ piece :=
  fun h => (mem_of_mem_pieces hpiece h).2 rfl

theorem pieces_of_not_mem (h : separator ∉ text) : pieces separator text = [text] := by
  induction text with
  | nil => rfl
  | cons first rest ih =>
    have hfirst := List.ne_of_not_mem_cons h
    have hrest := List.not_mem_of_not_mem_cons h
    simp [pieces, Ne.symm hfirst, ih hrest]

theorem pieces_append_cons (h : separator ∉ piece) (rest : List Char) :
    pieces separator (piece ++ separator :: rest) = piece :: pieces separator rest := by
  induction piece with
  | nil => simp [pieces]
  | cons first others ih =>
    have hfirst := List.ne_of_not_mem_cons h
    have hothers := List.not_mem_of_not_mem_cons h
    simp [pieces, Ne.symm hfirst, ih hothers]

/-- Cutting undoes joining, for pieces that do not hold the separator. -/
theorem pieces_join {found : List (List Char)} (hne : found ≠ [])
    (h : ∀ piece ∈ found, separator ∉ piece) : pieces separator (join separator found) = found := by
  induction found with
  | nil => contradiction
  | cons piece rest ih =>
    have hpiece := h piece List.mem_cons_self
    have hrest := fun p hp => h p (List.mem_cons_of_mem _ hp)
    cases rest with
    | nil => exact pieces_of_not_mem hpiece
    | cons next others =>
      change pieces separator (piece ++ separator :: join separator (next :: others)) = _
      rw [pieces_append_cons hpiece, ih (by simp) hrest]

theorem lines_append (found : List (List Char)) (h : ∀ line ∈ found, '\n' ∉ line)
    (rest : List Char) :
    lines (found.flatMap (· ++ ['\n']) ++ rest) = found ++ lines rest := by
  induction found with
  | nil => rfl
  | cons line others ih =>
    have hline := h line List.mem_cons_self
    have hothers := fun l hl => h l (List.mem_cons_of_mem _ hl)
    have hsplit : (line :: others).flatMap (· ++ ['\n']) ++ rest =
        line ++ '\n' :: (others.flatMap (· ++ ['\n']) ++ rest) := by simp
    rw [hsplit, lines, pieces_append_cons hline]
    exact congrArg (line :: ·) (ih hothers)

end CockpitHud.Text
