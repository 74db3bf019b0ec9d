import CockpitHud.Proofs.Text.Trim
import CockpitHud.Settings.Line
import Mathlib.Data.List.TakeWhile

namespace CockpitHud.Settings.Line

theorem readEntry_append {key : List Char} (hne : key ≠ []) (hkey : '=' ∉ key)
    (value : List Char) :
    readEntry (key ++ '=' :: value) = some (.entry (Text.trim key) (Text.trim value), []) := by
  have hall : ∀ c ∈ key, decide (c ≠ '=') = true := by
    intro c hc
    have : c ≠ '=' := by
      rintro rfl
      exact hkey hc
    simpa using this
  have htake : (key ++ '=' :: value).takeWhile (· ≠ '=') = key := by
    rw [List.takeWhile_append_of_pos hall]
    simp
  have hdrop : (key ++ '=' :: value).dropWhile (· ≠ '=') = '=' :: value := by
    rw [List.dropWhile_append_of_pos hall]
    simp
  simp only [readEntry, htake, hdrop]

/-- An entry is parted at its first equals sign, with something before it. -/
theorem readEntry_eq_some_iff {text rest : List Char} {line : Line} :
    readEntry text = some (line, rest) ↔ ∃ key value, key ≠ [] ∧ '=' ∉ key ∧
      text = key ++ '=' :: value ∧ line = .entry (Text.trim key) (Text.trim value) ∧ rest = [] := by
  constructor
  · intro h
    have hsplit := List.takeWhile_append_dropWhile (p := (· ≠ '=')) (l := text)
    have hkey : '=' ∉ text.takeWhile (· ≠ '=') := by
      intro hmem
      simpa using List.mem_takeWhile_imp hmem
    have hsign := List.head?_dropWhile_not (· ≠ '=') text
    simp only [readEntry] at h
    generalize text.takeWhile (· ≠ '=') = key at h hsplit hkey
    generalize text.dropWhile (· ≠ '=') = after at h hsplit hsign
    cases key with
    | nil => contradiction
    | cons first others =>
      cases after with
      | nil => contradiction
      | cons sign value =>
        simp only [Option.some.injEq, Prod.mk.injEq] at h
        obtain ⟨rfl, rfl⟩ := h
        have hsign : sign = '=' := by simpa using hsign
        rw [hsign] at hsplit
        exact ⟨_, value, List.cons_ne_nil _ _, hkey, hsplit.symm, rfl, rfl⟩
  · rintro ⟨key, value, hne, hkey, rfl, rfl, rfl⟩
    exact readEntry_append hne hkey value

theorem readHeader_line {text rest : List Char} {line : Line}
    (h : readHeader text = some (line, rest)) : ∃ name, line = .header name := by
  unfold readHeader at h
  split at h
  · split at h
    · simp only [Option.some.injEq, Prod.mk.injEq] at h
      exact ⟨_, h.1.symm⟩
    · contradiction
  · contradiction

theorem readComment_line {text rest : List Char} {line : Line}
    (h : readComment text = some (line, rest)) : line = .comment := by
  unfold readComment at h
  split at h
  · split at h
    · simp only [Option.some.injEq, Prod.mk.injEq] at h
      exact h.1.symm
    · contradiction
  · contradiction

/-- A line that starts with a semicolon or a number sign is a comment, whatever stands behind it. -/
theorem read?_of_head? {raw : List Char} {c : Char} (hc : c = ';' ∨ c = '#')
    (h : (Text.trim raw).head? = some c) : read? raw = some .comment := by
  obtain ⟨rest, htext⟩ := List.head?_eq_some_iff.mp h
  rw [read?, htext]
  rcases hc with rfl | rfl <;> rfl

theorem read?_semicolon (rest : List Char) : read? (';' :: rest) = some .comment :=
  read?_of_head? (.inl rfl) (Text.head?_trim (by decide) rest)

/-- A line is an entry when it is neither a header nor a comment and has an equals sign behind a
key. -/
theorem read?_eq_entry_iff {raw key value : List Char} :
    read? raw = some (.entry key value) ↔ ∃ front back, front ≠ [] ∧ '=' ∉ front ∧
      Text.trim raw = front ++ '=' :: back ∧ readHeader (Text.trim raw) = none ∧
      readComment (Text.trim raw) = none ∧ key = Text.trim front ∧ value = Text.trim back := by
  unfold read?
  split
  · rename_i hblank
    simp [hblank]
  · rename_i hne
    generalize Text.trim raw = text at hne ⊢
    cases hheader : readHeader text with
    | some found =>
      obtain ⟨line, rest⟩ := found
      obtain ⟨name, rfl⟩ := readHeader_line hheader
      cases rest <;> simp
    | none =>
      cases hcomment : readComment text with
      | some found =>
        obtain ⟨line, rest⟩ := found
        rw [readComment_line hcomment]
        cases rest <;> simp
      | none =>
        simp only [Option.none_or, true_and]
        constructor
        · intro h
          split at h
          · rename_i line hentry
            obtain ⟨front, back, hfront, hsign, htext, hline, _⟩ := readEntry_eq_some_iff.mp hentry
            simp only [hline, Option.some.injEq, entry.injEq] at h
            exact ⟨front, back, hfront, hsign, htext, h.1.symm, h.2.symm⟩
          · contradiction
        · rintro ⟨front, back, hfront, hsign, htext, rfl, rfl⟩
          rw [readEntry_eq_some_iff.mpr ⟨front, back, hfront, hsign, htext, rfl, rfl⟩]

end CockpitHud.Settings.Line
