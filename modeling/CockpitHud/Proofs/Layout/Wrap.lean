import CockpitHud.Layout.Wrap
import CockpitHud.Proofs.Text.Words

namespace CockpitHud.Layout

open Text (trimStart trimEnd isBlank visible words chunks firstWord)

variable {max : Nat} {text line : List Char} {found below : List (List Char)}

theorem space_not_mem_of_lastSpace?_eq_none (h : lastSpace? text = none) : ' ' ∉ text := by
  induction text with
  | nil => simp
  | cons c rest ih =>
    cases hrest : lastSpace? rest with
    | some i => simp [lastSpace?, hrest] at h
    | none =>
      have hc : c ≠ ' ' := by simpa [lastSpace?, hrest] using h
      simpa [Ne.symm hc] using ih hrest

theorem lastSpace?_eq_some {i : Nat} (h : lastSpace? text = some i) :
    ∃ front back, text = front ++ ' ' :: back ∧ ' ' ∉ back ∧ front.length = i := by
  induction text generalizing i with
  | nil => contradiction
  | cons c rest ih =>
    cases hrest : lastSpace? rest with
    | some j =>
      obtain ⟨front, back, rfl, hback, hlength⟩ := ih hrest
      have hi : j + 1 = i := by simpa [lastSpace?, hrest] using h
      exact ⟨c :: front, back, rfl, hback, by rw [List.length_cons, hlength, hi]⟩
    | none =>
      obtain ⟨rfl, rfl⟩ : c = ' ' ∧ 0 = i := by simpa [lastSpace?, hrest] using h
      exact ⟨[], rest, rfl, space_not_mem_of_lastSpace?_eq_none hrest, rfl⟩

/-- A text is cut at the last space within reach that has something before it, or else after a full
line. -/
theorem cut_cases (max : Nat) (text : List Char) :
    (∃ front back, text.take (max + 1) = front ++ ' ' :: back ∧ front ≠ [] ∧ ' ' ∉ back ∧
      cut max text = front.length) ∨
    ' ' ∉ (text.take (max + 1)).tail ∧ cut max text = max := by
  rw [cut]
  cases hspace : lastSpace? (text.take (max + 1)) with
  | none =>
    exact .inr ⟨fun h => space_not_mem_of_lastSpace?_eq_none hspace (List.mem_of_mem_tail h), rfl⟩
  | some i =>
    obtain ⟨front, back, htake, hback, rfl⟩ := lastSpace?_eq_some hspace
    cases front with
    | nil => exact .inr ⟨by rwa [htake], rfl⟩
    | cons c front => exact .inl ⟨c :: front, back, htake, List.cons_ne_nil c front, hback, rfl⟩

theorem cut_le (max : Nat) (text : List Char) : cut max text ≤ max := by
  rcases cut_cases max text with ⟨front, back, htake, _, _, hcut⟩ | ⟨_, hcut⟩
  · have hlength := List.length_take_le (max + 1) text
    rw [htake, List.length_append, List.length_cons] at hlength
    omega
  · exact Nat.le_of_eq hcut

/-- The lines that are cut off a text one after the other, whatever `max` is. -/
inductive Wraps (max : Nat) : List Char → List (List Char) → Prop where
  | empty : Wraps max [] []
  | whole {text : List Char} (hne : text ≠ []) (hfits : text.length ≤ max) : Wraps max text [text]
  | parted {text : List Char} {below : List (List Char)} (hlong : max < text.length)
      (hbelow : Wraps max (trimStart (text.drop (cut max text))) below) :
      Wraps max text (trimEnd (text.take (cut max text)) :: below)

/-- Wrapping cuts off one line after the other. -/
theorem wraps_wrap (positive : 0 < max) (text : List Char) :
    Wraps max text (wrap max positive text) := by
  induction text using wrap.induct max positive with
  | case1 hfits =>
    rw [wrap, if_pos hfits, if_pos rfl]
    exact .empty
  | case2 text hfits hne =>
    rw [wrap, if_pos hfits, if_neg hne]
    exact .whole hne hfits
  | case3 text hlong ih =>
    rw [wrap, if_neg hlong]
    exact .parted (Nat.lt_of_not_le hlong) ih

/-- There is only one way to cut off the lines of a text. -/
theorem Wraps.eq_wrap (positive : 0 < max) (h : Wraps max text found) :
    found = wrap max positive text := by
  induction h with
  | empty => rw [wrap, if_pos (by simp), if_pos rfl]
  | whole hne hfits => rw [wrap, if_pos hfits, if_neg hne]
  | parted hlong _ ih => rw [wrap, if_neg (Nat.not_le_of_lt hlong), ih]

/-- Each cut takes a character away. -/
theorem Wraps.length_le (positive : 0 < max) (h : Wraps max text found) :
    found.length ≤ text.length := by
  induction h with
  | empty => exact Nat.le_refl 0
  | whole hne _ => exact List.length_pos_iff.mpr hne
  | @parted text below hlong _ ih =>
    have hcut := cut_pos positive text
    have hrest := Text.trimStart_length_le (text.drop (cut max text))
    rw [List.length_drop] at hrest
    rw [List.length_cons]
    omega

/-- Where a line can hold nothing, a cut takes nothing but blanks away, and no text that shows
something comes to an end. -/
theorem wraps_zero_iff (text : List Char) :
    (∃ found, Wraps 0 text found) ↔ ∀ c ∈ text, isBlank c = true := by
  have hcut : ∀ text, cut 0 text = 0 := fun text => Nat.le_zero.mp (cut_le 0 text)
  constructor
  · rintro ⟨found, h⟩
    induction h with
    | empty => simp
    | whole hne hfits => exact absurd (List.length_eq_zero_iff.mp (Nat.le_zero.mp hfits)) hne
    | @parted text below _ _ ih =>
      rw [hcut, List.drop_zero] at ih
      obtain ⟨front, hfront, htext⟩ := Text.exists_append_trimStart text
      intro c hc
      rw [← htext] at hc
      exact (List.mem_append.mp hc).elim (hfront c) (ih c)
  · intro hblank
    by_cases hne : text = []
    · rw [hne]
      exact ⟨[], .empty⟩
    · have hrest : Wraps 0 (trimStart (text.drop (cut 0 text))) [] := by
        rw [hcut, List.drop_zero, trimStart, List.dropWhile_eq_nil_iff.mpr hblank]
        exact .empty
      exact ⟨_, .parted (List.length_pos_iff.mpr hne) hrest⟩

/-- No line is longer than `max`. -/
theorem Wraps.fits (h : Wraps max text found) : ∀ line ∈ found, line.length ≤ max := by
  induction h with
  | empty => simp
  | whole _ hfits => simpa using hfits
  | @parted text below _ _ ih =>
    have hfirst := (Text.trimEnd_prefix_self (text.take (cut max text))).length_le
    have hcut := (List.length_take_le (cut max text) text).trans (cut_le max text)
    exact List.forall_mem_cons.mpr ⟨hfirst.trans hcut, ih⟩

/-- Nothing stands on the lines that does not stand in the text. -/
theorem Wraps.subset (h : Wraps max text found) : ∀ line ∈ found, line ⊆ text := by
  induction h with
  | empty => simp
  | @whole text => simp
  | @parted text below _ _ ih =>
    have hfirst : trimEnd (text.take (cut max text)) ⊆ text :=
      List.Subset.trans (Text.trimEnd_prefix_self _).subset (List.take_subset _ _)
    have hrest : trimStart (text.drop (cut max text)) ⊆ text :=
      List.Subset.trans (List.dropWhile_suffix isBlank).subset (List.drop_subset _ _)
    exact List.forall_mem_cons.mpr
      ⟨hfirst, fun line hline => List.Subset.trans (ih line hline) hrest⟩

/-- Cutting loses nothing that is seen of a text. -/
theorem Wraps.visible_flatten (h : Wraps max text found) :
    visible found.flatten = visible text := by
  induction h with
  | empty => rfl
  | whole => simp
  | @parted text below _ _ ih =>
    rw [List.flatten_cons, Text.visible_append, ih, Text.visible_trimEnd, Text.visible_trimStart,
      ← Text.visible_append, List.take_append_drop]

theorem Wraps.ne_nil_of_cons (h : Wraps max text (line :: below)) : text ≠ [] := by
  cases h with
  | whole hne _ => exact hne
  | parted hlong _ => exact List.ne_nil_of_length_pos (Nat.zero_lt_of_lt hlong)

/-- The first line starts as the text does. -/
theorem Wraps.head?_line (positive : 0 < max) (h : Wraps max text (line :: below))
    (hstart : ∀ c, text.head? = some c → isBlank c = false) : line.head? = text.head? := by
  cases h with
  | whole => rfl
  | parted hlong _ =>
    cases text with
    | nil => exact absurd hlong (Nat.not_lt_zero max)
    | cons c rest =>
      obtain ⟨n, hn⟩ := Nat.exists_eq_add_one.mpr (cut_pos positive (c :: rest))
      rw [hn, List.take_succ_cons, Text.head?_trimEnd (hstart c rfl), List.head?_cons]

/-- Where no blank stands at the front, no line is empty. -/
theorem Wraps.ne_nil (positive : 0 < max) (h : Wraps max text found)
    (hstart : ∀ c, text.head? = some c → isBlank c = false) : [] ∉ found := by
  induction h with
  | empty => simp
  | whole hne _ => simpa using Ne.symm hne
  | @parted text below hlong hbelow ih =>
    have hhead := (Wraps.parted hlong hbelow).head?_line positive hstart
    have hline : trimEnd (text.take (cut max text)) ≠ [] := by
      intro hnil
      rw [hnil, List.head?_nil, eq_comm, List.head?_eq_none_iff] at hhead
      rw [hhead] at hlong
      contradiction
    simpa [Ne.symm hline] using ih (Text.head?_trimStart _)

/-- The only empty line there can be is the first, of a text that starts with a blank. -/
theorem Wraps.empty_line (positive : 0 < max) (h : Wraps max text found) {i : Nat}
    (hi : found[i]? = some []) : i = 0 ∧ ∃ c, text.head? = some c ∧ isBlank c = true := by
  constructor
  · cases h with
    | empty => contradiction
    | whole => exact (List.getElem?_eq_some_iff.mp hi).1 |> Nat.lt_one_iff.mp
    | parted _ hbelow =>
      cases i with
      | zero => rfl
      | succ i =>
        rw [List.getElem?_cons_succ] at hi
        have hnone := hbelow.ne_nil positive (Text.head?_trimStart _)
        exact absurd (List.mem_of_getElem? hi) hnone
  · by_contra hstart
    apply h.ne_nil positive _ (List.mem_of_getElem? hi)
    intro c hc
    simpa using fun hblank => hstart ⟨c, hc, hblank⟩

/-- The lines of a text: the cuts come to an end after no more of them than the text has characters,
and they end in these lines alone. No line is longer than `max`, together they show what the text
shows, and none is empty but the first of a text that starts with a blank. -/
theorem wrap_complete (positive : 0 < max) (text : List Char) :
    let found := wrap max positive text
    (∀ other, Wraps max text other ↔ other = found) ∧ found.length ≤ text.length ∧
      (∀ line ∈ found, line.length ≤ max) ∧ visible found.flatten = visible text ∧
      ∀ i, found[i]? = some [] → i = 0 ∧ ∃ c, text.head? = some c ∧ isBlank c = true := by
  intro found
  have h : Wraps max text found := wraps_wrap positive text
  refine ⟨fun other => ⟨Wraps.eq_wrap positive, fun heq => heq ▸ h⟩, h.length_le positive, h.fits,
    h.visible_flatten, fun i hi => h.empty_line positive hi⟩

/-- A blank that is no space parts no words, and is dropped at a cut like any other. -/
theorem wrap_complete_indented :
    let text := "\t  abé \u3000defg ".toList
    let found := [[], "abé".toList, "def".toList, "g ".toList]
    0 < 3 ∧ (∀ other, Wraps 3 text other ↔ other = found) ∧ (∀ line ∈ found, line.length ≤ 3) ∧
      visible found.flatten = visible text := by
  intro text found
  have hfound : wrap 3 (by decide) text = found := by decide +kernel
  obtain ⟨hwraps, _, hfits, hvisible, _⟩ := wrap_complete (by decide : 0 < 3) text
  rw [hfound] at hwraps hfits hvisible
  exact ⟨by decide, hwraps, hfits, hvisible⟩

structure Prose (text : List Char) : Prop where
  spaces : Text.OnlySpaces text
  start : text.head? ≠ some ' '

instance (text : List Char) : Decidable (Prose text) :=
  decidable_of_iff (Text.OnlySpaces text ∧ text.head? ≠ some ' ')
    ⟨fun h => ⟨h.1, h.2⟩, fun h => ⟨h.1, h.2⟩⟩

theorem Prose.head?_not_blank (h : Prose text) :
    ∀ c, text.head? = some c → isBlank c = false := by
  intro c hc
  apply h.spaces.isBlank_eq_false (List.mem_of_head? hc)
  rintro rfl
  exact h.start hc

theorem Prose.trimStart_drop (h : Prose text) (n : Nat) : Prose (trimStart (text.drop n)) := by
  refine ⟨h.spaces.of_subset fun c hc => ?_, fun hspace => ?_⟩
  · exact List.mem_of_mem_drop ((List.dropWhile_suffix isBlank).subset hc)
  · exact absurd (Text.head?_trimStart _ ' ' hspace) (by decide)

/-- A long text of words is cut at its last space within reach, or within its first word if that is
too long for a line. -/
theorem Prose.cut_cases (h : Prose text) (hlong : max < text.length) :
    (∃ front back rest, text = front ++ ' ' :: (back ++ rest) ∧ ' ' ∉ back ∧
      front.length + back.length = max ∧ cut max text = front.length) ∨
    max < (firstWord text).length ∧ cut max text = max := by
  have htext := List.take_append_drop (max + 1) text
  have hlength : (text.take (max + 1)).length = max + 1 := List.length_take_of_le hlong
  rcases Layout.cut_cases max text with ⟨front, back, htake, _, hback, hcut⟩ | ⟨htail, hcut⟩
  · rw [htake] at htext hlength
    refine .inl ⟨front, back, text.drop (max + 1), by simpa using htext.symm, hback, ?_, hcut⟩
    rw [List.length_append, List.length_cons] at hlength
    omega
  · refine .inr ⟨?_, hcut⟩
    have hspace : ' ' ∉ text.take (max + 1) := by
      cases text with
      | nil => exact absurd hlong (Nat.not_lt_zero max)
      | cons c rest =>
        have hc : c ≠ ' ' := by simpa using h.start
        simpa [Ne.symm hc] using htail
    have hword := Text.length_le_firstWord hspace (text.drop (max + 1))
    rw [htext, hlength] at hword
    exact hword

/-- The words of the lines are those of the text, the long ones in pieces of a full line. -/
theorem Wraps.flatMap_words (positive : 0 < max) (h : Wraps max text found) (hprose : Prose text) :
    found.flatMap words = (words text).flatMap (chunks max) := by
  induction h with
  | empty => rfl
  | whole _ hfits => rw [Text.flatMap_chunks_words hfits, List.flatMap_singleton]
  | @parted text below hlong _ ih =>
    have hline : Text.OnlySpaces (text.take (cut max text)) :=
      hprose.spaces.of_subset (List.take_subset _ _)
    have hrest : Text.OnlySpaces (text.drop (cut max text)) :=
      hprose.spaces.of_subset (List.drop_subset _ _)
    rw [List.flatMap_cons, ih (hprose.trimStart_drop _), Text.words_trimEnd hline,
      Text.words_trimStart hrest]
    rcases hprose.cut_cases hlong with ⟨front, back, rest, htext, _, hlength, hcut⟩ | ⟨hword, hcut⟩
    · -- The words before the space fit on the line, so none of them is in pieces.
      have hfits : front.length ≤ max := by omega
      rw [hcut, htext, List.take_left, List.drop_left, Text.words_cons_space,
        Text.words_append_space, List.flatMap_append, Text.flatMap_chunks_words hfits]
    · -- The line is one piece of the first word, and the rest starts with what is left of it.
      have hne : text ≠ [] := List.ne_nil_of_length_pos (Nat.zero_lt_of_lt hlong)
      rw [hcut, Text.words_take_of_lt_firstWord hword positive,
        Text.words_drop_of_lt_firstWord hword, Text.words_eq_cons hne hprose.start,
        List.flatMap_cons, List.flatMap_cons, Text.chunks_of_lt positive hword]
      rfl

/-- The first line starts with the first word, or with as much of it as a line can hold. -/
theorem Wraps.head?_words (positive : 0 < max) (h : Wraps max text (line :: below))
    (hprose : Prose text) : (words line).head? = some ((firstWord text).take max) := by
  have hne := h.ne_nil_of_cons
  have hhead := h.head?_line positive hprose.head?_not_blank
  have hline : words line ≠ [] := by
    have hlinene : line ≠ [] := by
      rintro rfl
      exact hne (List.head?_eq_none_iff.mp hhead.symm)
    rw [Text.words_eq_cons hlinene (hhead ▸ hprose.start)]
    exact List.cons_ne_nil _ _
  have hwords := congrArg List.head? (h.flatMap_words positive hprose)
  rw [Text.words_eq_cons hne hprose.start, List.flatMap_cons, List.flatMap_cons,
    List.head?_append_of_ne_nil _ hline, List.head?_append,
    Text.head?_chunks positive (Text.firstWord_ne_nil hne hprose.start)] at hwords
  exact hwords

/-- The next line starts with a word for which there is no room left. -/
def Crowds (max : Nat) (line next : List Char) : Prop :=
  ∃ word, (words next).head? = some word ∧ max < line.length + 1 + word.length

/-- A line that is cut off leaves no room for the word behind the cut. -/
theorem crowds_cut (positive : 0 < max) (hlong : max < text.length) (hprose : Prose text)
    (hsingle : Text.SinglySpaced text)
    (hbelow : Wraps max (trimStart (text.drop (cut max text))) (line :: below)) :
    Crowds max (trimEnd (text.take (cut max text))) line := by
  refine ⟨_, hbelow.head?_words positive (hprose.trimStart_drop _), ?_⟩
  rcases hprose.cut_cases hlong with
    ⟨front, back, rest, htext, hback, hlength, hcut⟩ | ⟨hword, hcut⟩
  · -- Up to the reach of the cut the next word has no end, so it is at least as long as `back`.
    have hdrop : trimStart (text.drop (cut max text)) = trimStart (back ++ rest) := by
      rw [hcut, htext, List.drop_left]
      exact List.dropWhile_cons_of_pos (by decide)
    have hmore : trimStart (back ++ rest) ≠ [] := hdrop ▸ hbelow.ne_nil_of_cons
    have hspaces := hprose.spaces
    rw [htext] at hspaces hsingle
    have hfirst := Text.length_le_firstWord hback rest
    rw [hdrop, hcut, htext, List.take_left, Text.trimEnd_before_space hspaces hsingle hmore,
      Text.trimStart_behind_space hspaces hsingle hmore, List.length_take]
    omega
  · have hfull : trimEnd (text.take max) = (firstWord text).take max := by
      rw [Text.take_of_lt_firstWord hword, Text.trimEnd_eq_self_iff]
      intro c hc
      have hmem := List.mem_of_mem_take (List.mem_of_getLast? hc)
      exact Text.isBlank_of_mem_firstWord hprose.spaces hmem
    rw [hcut, hfull, List.length_take]
    omega

/-- In prose with single spaces each line but the last is as full as it can be. -/
theorem Wraps.crowded (positive : 0 < max) (h : Wraps max text found) (hprose : Prose text)
    (hsingle : Text.SinglySpaced text) : found.IsChain (Crowds max) := by
  induction h with
  | empty => exact .nil
  | @whole text => exact .singleton text
  | @parted text below hlong hbelow ih =>
    have hchain := ih (hprose.trimStart_drop _)
      (hsingle.of_suffix ((List.dropWhile_suffix isBlank).trans (List.drop_suffix _ text)))
    cases below with
    | nil => exact .singleton _
    | cons line below =>
      exact .cons_cons (crowds_cut positive hlong hprose hsingle hbelow) hchain

/-- The lines of a text of words: its words in order, the ones too long for a line in pieces of a
full line each; and where single spaces part the words, no line has room for the word that follows
it. -/
theorem wrap_greedy (positive : 0 < max) (h : Prose text) :
    (wrap max positive text).flatMap words = (words text).flatMap (chunks max) ∧
      (Text.SinglySpaced text → (wrap max positive text).IsChain (Crowds max)) := by
  have hwraps := wraps_wrap positive text
  exact ⟨hwraps.flatMap_words positive h, hwraps.crowded positive h⟩

/-- A word too long for a line is cut in two, and what is left of it stands alone, since there is no
room for the next word beside it. -/
theorem wrap_greedy_overlong :
    let text := "so abcdefgh it is  ".toList
    0 < 5 ∧ Prose text ∧ Text.SinglySpaced text ∧
      (wrap 5 (by decide) text).flatMap words =
        ["so".toList, "abcde".toList, "fgh".toList, "it".toList, "is".toList] ∧
      (wrap 5 (by decide) text).IsChain (Crowds 5) := by
  intro text
  have hprose : Prose text := by decide
  have hsingle : Text.SinglySpaced text := by decide
  obtain ⟨hwords, hchain⟩ := wrap_greedy (by decide : 0 < 5) hprose
  exact ⟨by decide, hprose, hsingle, hwords.trans (by decide), hchain hsingle⟩

end CockpitHud.Layout
