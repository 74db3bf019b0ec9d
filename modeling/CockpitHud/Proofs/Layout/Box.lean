import CockpitHud.Layout.Box

namespace CockpitHud.Layout

variable {text : List Char} {width : Nat} {side c : Char}

theorem mem_fill {n : Nat} {d : Char} (h : c ∈ fill n d) : c = d :=
  List.eq_of_mem_replicate h

theorem mem_padRight (h : c ∈ padRight text width) : c ∈ text ∨ c = ' ' := by
  rcases List.mem_append.mp h with h | h
  · exact .inl h
  · exact .inr (mem_fill h)

theorem mem_padLeft (h : c ∈ padLeft text width) : c ∈ text ∨ c = ' ' := by
  rcases List.mem_append.mp h with h | h
  · exact .inr (mem_fill h)
  · exact .inl h

theorem mem_rightSide (h : c ∈ rightSide side) : c = side := by
  unfold rightSide at h
  split at h
  · contradiction
  · exact List.mem_singleton.mp h

theorem mem_center (h : c ∈ center text width side) : c ∈ text ∨ c = ' ' ∨ c = side := by
  simp only [center, List.cons_append, List.mem_cons, List.mem_append] at h
  rcases h with h | (((h | h) | h) | h)
  · exact .inr (.inr h)
  · exact .inr (.inl (mem_fill h))
  · exact .inl (List.mem_of_mem_take h)
  · exact .inr (.inl (mem_fill h))
  · exact .inr (.inr (mem_rightSide h))

theorem mem_left (h : c ∈ left text width side) : c ∈ text ∨ c = ' ' ∨ c = side := by
  simp only [left, List.cons_append, List.mem_cons, List.mem_append] at h
  rcases h with h | ((h | h) | h)
  · exact .inr (.inr h)
  · exact .inl (List.mem_of_mem_take h)
  · exact .inr (.inl (mem_fill h))
  · exact .inr (.inr (mem_rightSide h))

theorem head?_center (text : List Char) (width : Nat) (side : Char) :
    (center text width side).head? = some side := rfl

theorem head?_left (text : List Char) (width : Nat) (side : Char) :
    (left text width side).head? = some side := rfl

def ruleChars : List Char :=
  "╔═╗╠╣╟─┬╢╚╝".toList

theorem Rule.mem_draw {rule : Rule} (h : c ∈ rule.draw width) : c ∈ ruleChars := by
  have hfill : ∀ {n : Nat} {d : Char}, d ∈ ruleChars → c ∈ fill n d → c ∈ ruleChars :=
    fun hd hc => mem_fill hc ▸ hd
  cases rule with
  | top | mid | bottom =>
    simp only [draw, List.cons_append, List.mem_cons, List.mem_append, List.not_mem_nil,
      or_false] at h
    rcases h with rfl | h | rfl
    · decide
    · exact hfill (by decide) h
    · decide
  | separator =>
    simp only [draw, List.cons_append, List.mem_cons, List.mem_append, List.not_mem_nil,
      or_false] at h
    rcases h with rfl | (h | rfl | h) | rfl
    · decide
    · exact hfill (by decide) h
    · decide
    · exact hfill (by decide) h
    · decide

theorem length_fill (n : Nat) (d : Char) : (fill n d).length = n :=
  List.length_replicate

theorem length_padRight (text : List Char) (width : Nat) :
    (padRight text width).length = max width text.length := by
  rw [padRight, List.length_append, length_fill]
  omega

theorem length_padLeft (text : List Char) (width : Nat) :
    (padLeft text width).length = max width text.length := by
  rw [padLeft, List.length_append, length_fill]
  omega

def Rule.leastWidth : Rule → Nat
  | .separator => 3
  | _ => 2

/-- A rule is as wide as asked for, unless its corners and its join take more. -/
theorem Rule.length_draw (rule : Rule) (width : Nat) :
    (rule.draw width).length = max width rule.leastWidth := by
  cases rule with
  | top | mid | separator | bottom =>
    simp only [draw, leastWidth, List.length_cons, List.length_append, length_fill,
      List.length_nil]
    omega

/-- What stands between the sides of a centered text. -/
def centered (text : List Char) (inner : Nat) : List Char :=
  let shown := text.take inner
  let spare := inner - shown.length
  fill (spare / 2) ' ' ++ shown ++ fill (spare - spare / 2) ' '

def flushed (text : List Char) (inner : Nat) : List Char :=
  padRight (text.take inner) inner

theorem center_eq (text : List Char) (width : Nat) (side : Char) :
    center text width side = side :: centered text (width - 2) ++ rightSide side := rfl

theorem left_eq (text : List Char) (width : Nat) (side : Char) :
    left text width side = side :: flushed text (width - 2) ++ rightSide side := rfl

theorem length_centered (text : List Char) (inner : Nat) :
    (centered text inner).length = inner := by
  simp only [centered, List.length_append, length_fill, List.length_take]
  omega

theorem length_flushed (text : List Char) (inner : Nat) : (flushed text inner).length = inner := by
  rw [flushed, length_padRight, List.length_take]
  omega

/-- Spaces behind a text at the left side are not told from those that fill the line. -/
theorem flushed_append_fill (text : List Char) (n inner : Nat) :
    flushed (text ++ fill n ' ') inner = text.take inner ++ fill (inner - text.length) ' ' := by
  simp only [flushed, padRight, fill, List.take_append, List.take_replicate, List.length_append,
    List.length_take, List.length_replicate, List.append_assoc, List.replicate_append_replicate]
  congr 2
  omega

theorem length_rightSide (side : Char) :
    (rightSide side).length = if side = ' ' then 0 else 1 := by
  unfold rightSide
  split <;> rfl

/-- A side that is a space is drawn on the left only, and the line is one shorter. -/
theorem length_center (text : List Char) (width : Nat) (side : Char) :
    (center text width side).length = if side = ' ' then max width 2 - 1 else max width 2 := by
  rw [center_eq, List.cons_append, List.length_cons, List.length_append, length_centered,
    length_rightSide]
  split <;> omega

/-- Between sides that are spaces nothing but spaces stands around a text that fits. -/
theorem center_of_fits (h : text.length ≤ width - 2) :
    ∃ before behind, center text width ' ' = fill before ' ' ++ text ++ fill behind ' ' := by
  have hshown : text.take (width - 2) = text := List.take_of_length_le h
  let spare := width - 2 - text.length
  refine ⟨spare / 2 + 1, spare - spare / 2, ?_⟩
  rw [center_eq, centered, hshown, rightSide, if_pos rfl, List.append_nil]
  rfl

theorem length_left (text : List Char) (width : Nat) (side : Char) :
    (left text width side).length = if side = ' ' then max width 2 - 1 else max width 2 := by
  rw [left_eq, List.cons_append, List.length_cons, List.length_append, length_flushed,
    length_rightSide]
  split <;> omega

end CockpitHud.Layout
