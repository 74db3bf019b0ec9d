import CockpitHud.Text.Blank
import Mathlib.Data.List.DropRight
import Mathlib.Data.List.TakeWhile

namespace CockpitHud.Text

theorem trimEnd_prefix_self (text : List Char) : trimEnd text <+: text :=
  List.rdropWhile_prefix isBlank text

theorem trim_subset {text : List Char} {c : Char} (h : c ∈ trim text) : c ∈ text :=
  (List.dropWhile_suffix isBlank).subset ((trimEnd_prefix_self _).subset h)

/-- Nothing is trimmed from a text that starts with no blank. -/
theorem trimStart_eq_self_iff (text : List Char) :
    trimStart text = text ↔ ∀ c, text.head? = some c → isBlank c = false := by
  cases text with
  | nil => simp [trimStart]
  | cons first rest => simp [trimStart, List.dropWhile_eq_self_iff]

theorem trimEnd_eq_self_iff (text : List Char) :
    trimEnd text = text ↔ ∀ c, text.getLast? = some c → isBlank c = false := by
  refine List.rdropWhile_eq_self_iff.trans ?_
  constructor
  · intro h c hc
    obtain ⟨front, rfl⟩ := List.getLast?_eq_some_iff.mp hc
    simpa using h (by simp)
  · intro h hne
    simp [h _ (List.getLast?_eq_some_getLast hne)]

theorem trim_eq_self_iff (text : List Char) :
    trim text = text ↔ trimStart text = text ∧ trimEnd text = text := by
  constructor
  · intro h
    have hstart := trimStart_length_le text
    have hend := (trimEnd_prefix_self (trimStart text)).length_le
    have hlength : (trimEnd (trimStart text)).length = text.length := congrArg List.length h
    have hself : trimStart text = text :=
      (List.dropWhile_suffix isBlank).eq_of_length (Nat.le_antisymm hstart (hlength ▸ hend))
    refine ⟨hself, ?_⟩
    rwa [trim, hself] at h
  · rintro ⟨hstart, hend⟩
    rw [trim, hstart, hend]

theorem trimStart_trimEnd {text : List Char} (h : trimStart text = text) :
    trimStart (trimEnd text) = trimEnd text := by
  rw [trimStart_eq_self_iff] at h ⊢
  intro c hc
  obtain ⟨rest, hrest⟩ := trimEnd_prefix_self text
  apply h
  rw [← hrest, List.head?_append, hc]
  rfl

@[simp] theorem trim_trim (text : List Char) : trim (trim text) = trim text := by
  rw [trim_eq_self_iff]
  constructor
  · exact trimStart_trimEnd (List.dropWhile_idempotent _ _)
  · exact List.rdropWhile_idempotent _ _

/-- A character that is no blank keeps what stands before it from being trimmed at the end, and a
trimmed text behind it stays whole. -/
theorem trim_append_cons {front value : List Char} {c : Char} (hfront : trimStart front = front)
    (hne : front ≠ []) (hc : isBlank c = false) (hvalue : trim value = value) :
    trim (front ++ c :: value) = front ++ c :: value := by
  rw [trim_eq_self_iff, trimStart_eq_self_iff, trimEnd_eq_self_iff]
  rw [trimStart_eq_self_iff] at hfront
  have hend := (trim_eq_self_iff value).mp hvalue |>.2
  rw [trimEnd_eq_self_iff] at hend
  constructor
  · intro d hd
    rw [List.head?_append_of_ne_nil _ hne] at hd
    exact hfront d hd
  · intro d hd
    rw [List.getLast?_append, List.getLast?_cons] at hd
    cases hlast : value.getLast? with
    | none =>
      simp only [hlast, Option.getD_none, Option.some_or, Option.some.injEq] at hd
      rw [← hd, hc]
    | some e =>
      simp only [hlast, Option.getD_some, Option.some_or, Option.some.injEq] at hd
      exact hend d (by rw [hlast, hd])

theorem head?_trimEnd {c : Char} (hc : isBlank c = false) (rest : List Char) :
    (trimEnd (c :: rest)).head? = some c := by
  have hne : trimEnd (c :: rest) ≠ [] := by
    intro hnil
    have hblank := List.rdropWhile_eq_nil_iff.mp hnil c List.mem_cons_self
    rw [hc] at hblank
    contradiction
  obtain ⟨back, hback⟩ := trimEnd_prefix_self (c :: rest)
  have hhead := congrArg List.head? hback
  rwa [List.head?_append_of_ne_nil _ hne] at hhead

theorem head?_trim {c : Char} (hc : isBlank c = false) (rest : List Char) :
    (trim (c :: rest)).head? = some c := by
  have hstart : trimStart (c :: rest) = c :: rest := by
    rw [trimStart_eq_self_iff]
    intro d hd
    rw [← Option.some.inj hd, hc]
  rw [trim, hstart, head?_trimEnd hc]

/-- A text without blanks is trimmed. -/
theorem trim_of_no_blank {text : List Char} (h : ∀ c ∈ text, isBlank c = false) :
    trim text = text := by
  rw [trim_eq_self_iff, trimStart_eq_self_iff, trimEnd_eq_self_iff]
  exact ⟨fun c hc => h c (List.mem_of_head? hc), fun c hc => h c (List.mem_of_getLast? hc)⟩

theorem trim_of_all_blank {text : List Char} (h : ∀ c ∈ text, isBlank c = true) :
    trim text = [] := by
  rw [trim, trimStart, List.dropWhile_eq_nil_iff.mpr h]
  rfl

theorem trimEnd_append_blank {c : Char} (hc : isBlank c = true) (text : List Char) :
    trimEnd (text ++ [c]) = trimEnd text := by
  simp [trimEnd, hc]

/-- A blank at the end makes no difference to a trimmed text. -/
theorem trim_append_blank {c : Char} (hc : isBlank c = true) (text : List Char) :
    trim (text ++ [c]) = trim text := by
  have hstart : trimStart (text ++ [c]) =
      if trimStart text = [] then [] else trimStart text ++ [c] := by
    simp [trimStart, List.dropWhile_append, hc]
  rw [trim, hstart]
  split
  · rename_i hnil
    rw [trim, hnil]
  · rw [trimEnd_append_blank hc, trim]

theorem exists_append_trimStart (text : List Char) :
    ∃ front, (∀ c ∈ front, isBlank c = true) ∧ front ++ trimStart text = text :=
  ⟨text.takeWhile isBlank, fun _ hc => List.mem_takeWhile_imp hc, List.takeWhile_append_dropWhile⟩

theorem exists_trimEnd_append (text : List Char) :
    ∃ back, (∀ c ∈ back, isBlank c = true) ∧ trimEnd text ++ back = text :=
  ⟨text.rtakeWhile isBlank, fun _ hc => List.mem_rtakeWhile_imp hc,
    List.rdropWhile_append_rtakeWhile⟩

def visible (text : List Char) : List Char :=
  text.filter (!isBlank ·)

theorem visible_append (front back : List Char) :
    visible (front ++ back) = visible front ++ visible back :=
  List.filter_append front back

theorem visible_of_all_blank {text : List Char} (h : ∀ c ∈ text, isBlank c = true) :
    visible text = [] := by
  simpa [visible, List.filter_eq_nil_iff] using h

/-- Trimming takes away nothing but blanks. -/
theorem visible_trimStart (text : List Char) : visible (trimStart text) = visible text := by
  obtain ⟨front, hfront, htext⟩ := exists_append_trimStart text
  conv_rhs => rw [← htext]
  rw [visible_append, visible_of_all_blank hfront, List.nil_append]

theorem visible_trimEnd (text : List Char) : visible (trimEnd text) = visible text := by
  obtain ⟨back, hback, htext⟩ := exists_trimEnd_append text
  conv_rhs => rw [← htext]
  rw [visible_append, visible_of_all_blank hback, List.append_nil]

theorem head?_trimStart (text : List Char) :
    ∀ c, (trimStart text).head? = some c → isBlank c = false :=
  (trimStart_eq_self_iff _).mp (List.dropWhile_idempotent isBlank text)

end CockpitHud.Text
