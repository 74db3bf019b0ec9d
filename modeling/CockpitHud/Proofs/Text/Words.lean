import CockpitHud.Proofs.Text.Trim
import Mathlib.Data.List.Infix

namespace CockpitHud.Text

variable {text front back word rest : List Char} {size : Nat}

def words (text : List Char) : List (List Char) :=
  (text.splitOn ' ').filter (· ≠ [])

/-- The consecutive pieces of a word, all of one size but the last, which may be shorter. -/
def chunks (size : Nat) (word : List Char) : List (List Char) :=
  (List.range ((word.length + size - 1) / size)).map fun i => (word.drop (i * size)).take size

def OnlySpaces (text : List Char) : Prop :=
  ∀ c ∈ text, isBlank c = true → c = ' '

/-- Two spaces in a row stand at the end only, with nothing but spaces behind them. -/
def SinglySpaced (text : List Char) : Prop :=
  ∀ back ∈ text.tails, [' ', ' '] <+: back → back.all (· = ' ') = true

-- By default the search for an instance may settle on all characters instead of those of the text.
instance (text : List Char) : Decidable (OnlySpaces text) :=
  List.decidableBAll (fun c => isBlank c = true → c = ' ') text

instance (text : List Char) : Decidable (SinglySpaced text) :=
  inferInstanceAs (Decidable (∀ back ∈ text.tails, _ → _))

theorem OnlySpaces.of_subset (h : OnlySpaces text) (hrest : rest ⊆ text) : OnlySpaces rest :=
  fun c hc => h c (hrest hc)

theorem OnlySpaces.isBlank_eq_false {c : Char} (h : OnlySpaces text) (hc : c ∈ text)
    (hne : c ≠ ' ') : isBlank c = false :=
  Bool.eq_false_iff.mpr fun hblank => hne (h c hc hblank)

theorem SinglySpaced.of_suffix (h : SinglySpaced text) (hrest : rest <:+ text) :
    SinglySpaced rest := by
  intro back hback
  exact h back ((List.mem_tails back text).mpr (((List.mem_tails back rest).mp hback).trans hrest))

/-- Nothing but spaces stands behind two spaces in a row. -/
theorem SinglySpaced.spaces (h : SinglySpaced (front ++ ' ' :: ' ' :: back)) :
    ∀ c ∈ back, c = ' ' := by
  have htail : ' ' :: ' ' :: back ∈ (front ++ ' ' :: ' ' :: back).tails :=
    (List.mem_tails _ _).mpr (List.suffix_append front _)
  simpa using h _ htail (List.prefix_append [' ', ' '] back)

theorem trimStart_of_spaces (h : ∀ c ∈ text, c = ' ') : trimStart text = [] := by
  rw [trimStart, List.dropWhile_eq_nil_iff]
  intro c hc
  rw [h c hc]
  decide

section BeforeMore

variable (hspaces : OnlySpaces (front ++ ' ' :: rest))
  (h : SinglySpaced (front ++ ' ' :: rest)) (hmore : trimStart rest ≠ [])

include hspaces h hmore

/-- A single space with more behind it is the only blank there. -/
theorem trimEnd_before_space : trimEnd front = front := by
  rw [trimEnd_eq_self_iff]
  intro c hc
  obtain ⟨text, rfl⟩ := List.getLast?_eq_some_iff.mp hc
  apply hspaces.isBlank_eq_false (by simp)
  rintro rfl
  rw [List.append_assoc] at h
  exact hmore (trimStart_of_spaces h.spaces)

theorem trimStart_behind_space : trimStart rest = rest := by
  rw [trimStart_eq_self_iff]
  intro c hc
  obtain ⟨text, rfl⟩ := List.head?_eq_some_iff.mp hc
  apply hspaces.isBlank_eq_false (by simp)
  rintro rfl
  exact hmore (trimStart_of_spaces (List.forall_mem_cons.mpr ⟨rfl, h.spaces⟩))

end BeforeMore

@[simp] theorem words_nil : words [] = [] := rfl

/-- The words before a space and those behind it. -/
theorem words_append_space (front back : List Char) :
    words (front ++ ' ' :: back) = words front ++ words back := by
  rw [words, List.splitOn, List.splitOnP_append_cons front back (by simp), List.filter_append]
  rfl

theorem words_cons_space (text : List Char) : words (' ' :: text) = words text := by
  simpa using words_append_space [] text

theorem words_spaces_append (h : ∀ c ∈ front, c = ' ') (back : List Char) :
    words (front ++ back) = words back := by
  induction front with
  | nil => rfl
  | cons c front ih =>
    rw [h c List.mem_cons_self, List.cons_append, words_cons_space]
    exact ih fun d hd => h d (List.mem_cons_of_mem _ hd)

theorem words_append_spaces (h : ∀ c ∈ back, c = ' ') (front : List Char) :
    words (front ++ back) = words front := by
  cases back with
  | nil => rw [List.append_nil]
  | cons c back =>
    have hback : words (back ++ []) = words [] :=
      words_spaces_append (fun d hd => h d (List.mem_cons_of_mem _ hd)) []
    rw [h c List.mem_cons_self, words_append_space, ← List.append_nil back, hback]
    simp

theorem words_of_no_space (hne : word ≠ []) (h : ' ' ∉ word) : words word = [word] := by
  rw [words, List.splitOn_eq_singleton h]
  simp [hne]

/-- A word, and what follows it behind a space. -/
theorem words_word_append (hne : word ≠ []) (h : ' ' ∉ word)
    (hrest : ∀ c, rest.head? = some c → c = ' ') : words (word ++ rest) = word :: words rest := by
  cases rest with
  | nil => simp [words_of_no_space hne h]
  | cons c rest =>
    rw [hrest c rfl, words_append_space, words_of_no_space hne h, words_cons_space]
    rfl

/-- The words hold all of the text but its spaces. -/
theorem flatten_words (text : List Char) : (words text).flatten = text.filter (· ≠ ' ') := by
  rw [words, List.flatten_filter_ne_nil]
  induction text with
  | nil => rfl
  | cons c rest ih =>
    rw [List.splitOn_cons_eq_if_modifyHead]
    by_cases hc : c = ' '
    · simp [hc, ih]
    · cases hpieces : rest.splitOn ' ' with
      | nil => exact absurd hpieces (List.splitOnP_ne_nil _ rest)
      | cons piece others =>
        rw [hpieces, List.flatten_cons] at ih
        simpa [hc] using ih

theorem ne_nil_of_mem_words (h : word ∈ words text) : word ≠ [] := by
  simpa using (List.mem_filter.mp h).2

theorem length_le_of_mem_words (h : word ∈ words text) : word.length ≤ text.length := by
  have hword := List.sublist_flatten_of_mem h
  rw [flatten_words] at hword
  exact (hword.trans List.filter_sublist).length_le

theorem words_trimStart (h : OnlySpaces text) : words (trimStart text) = words text := by
  obtain ⟨front, hfront, htext⟩ := exists_append_trimStart text
  have hspaces : ∀ c ∈ front, c = ' ' :=
    fun c hc => h c (htext ▸ List.mem_append_left _ hc) (hfront c hc)
  conv_rhs => rw [← htext, words_spaces_append hspaces]

theorem words_trimEnd (h : OnlySpaces text) : words (trimEnd text) = words text := by
  obtain ⟨back, hback, htext⟩ := exists_trimEnd_append text
  have hspaces : ∀ c ∈ back, c = ' ' :=
    fun c hc => h c (htext ▸ List.mem_append_right _ hc) (hback c hc)
  conv_rhs => rw [← htext, words_append_spaces hspaces]

def firstWord (text : List Char) : List Char :=
  text.takeWhile (· ≠ ' ')

def afterWord (text : List Char) : List Char :=
  text.dropWhile (· ≠ ' ')

theorem firstWord_append_afterWord (text : List Char) : firstWord text ++ afterWord text = text :=
  List.takeWhile_append_dropWhile

theorem space_not_mem_firstWord (text : List Char) : ' ' ∉ firstWord text := by
  intro h
  simpa using List.mem_takeWhile_imp h

theorem isBlank_of_mem_firstWord {c : Char} (h : OnlySpaces text) (hc : c ∈ firstWord text) :
    isBlank c = false :=
  h.isBlank_eq_false ((List.takeWhile_prefix _).subset hc)
    (ne_of_mem_of_not_mem hc (space_not_mem_firstWord text))

theorem head?_afterWord (text : List Char) :
    ∀ c, (afterWord text).head? = some c → c = ' ' := by
  intro c hc
  have hspace := List.head?_dropWhile_not (fun d => decide (d ≠ ' ')) text
  rw [← afterWord, hc] at hspace
  simpa using hspace

theorem firstWord_ne_nil (hne : text ≠ []) (h : text.head? ≠ some ' ') : firstWord text ≠ [] := by
  cases text with
  | nil => contradiction
  | cons c rest =>
    have hc : c ≠ ' ' := by simpa using h
    simp [firstWord, hc]

/-- A text that starts with no space is its first word and what follows. -/
theorem words_eq_cons (hne : text ≠ []) (h : text.head? ≠ some ' ') :
    words text = firstWord text :: words (afterWord text) := by
  have hwords := words_word_append (firstWord_ne_nil hne h) (space_not_mem_firstWord text)
    (head?_afterWord text)
  rwa [firstWord_append_afterWord] at hwords

/-- A text without spaces at the front of another is part of its first word. -/
theorem length_le_firstWord (h : ' ' ∉ front) (rest : List Char) :
    front.length ≤ (firstWord (front ++ rest)).length := by
  have hall : ∀ c ∈ front, decide (c ≠ ' ') = true := by
    intro c hc
    simpa using ne_of_mem_of_not_mem hc h
  rw [firstWord, List.takeWhile_append_of_pos hall, List.length_append]
  exact Nat.le_add_right _ _

section InFirstWord

variable {n : Nat} (h : n < (firstWord text).length)

include h

/-- A cut within the first word. -/
theorem take_of_lt_firstWord : text.take n = (firstWord text).take n := by
  conv_lhs => rw [← firstWord_append_afterWord text]
  rw [List.take_append_of_le_length (Nat.le_of_lt h)]

theorem drop_of_lt_firstWord : text.drop n = (firstWord text).drop n ++ afterWord text := by
  conv_lhs => rw [← firstWord_append_afterWord text]
  rw [List.drop_append_of_le_length (Nat.le_of_lt h)]

theorem words_take_of_lt_firstWord (hn : 0 < n) :
    words (text.take n) = [(firstWord text).take n] := by
  have hlength : ((firstWord text).take n).length = n := List.length_take_of_le (Nat.le_of_lt h)
  rw [take_of_lt_firstWord h]
  apply words_of_no_space
  · apply List.ne_nil_of_length_pos
    rw [hlength]
    exact hn
  · exact fun hspace => space_not_mem_firstWord text (List.mem_of_mem_take hspace)

theorem words_drop_of_lt_firstWord :
    words (text.drop n) = (firstWord text).drop n :: words (afterWord text) := by
  rw [drop_of_lt_firstWord h]
  apply words_word_append _ _ (head?_afterWord text)
  · simpa using h
  · exact fun hspace => space_not_mem_firstWord text (List.mem_of_mem_drop hspace)

end InFirstWord

/-- What fits is not cut. -/
theorem chunks_of_le (hne : word ≠ []) (h : word.length ≤ size) : chunks size word = [word] := by
  have hpos := List.length_pos_iff.mpr hne
  have hcount : (word.length + size - 1) / size = 1 := by
    rw [Nat.div_eq_iff (by omega)]
    omega
  simp [chunks, hcount, List.take_of_length_le h]

/-- A text that fits on a line has no word to cut up. -/
theorem flatMap_chunks_words (h : text.length ≤ size) :
    (words text).flatMap (chunks size) = words text := by
  have hwords : ∀ word ∈ words text, chunks size word = [word] := by
    intro word hword
    exact chunks_of_le (ne_nil_of_mem_words hword) ((length_le_of_mem_words hword).trans h)
  rw [List.flatMap_congr hwords]
  simp

theorem chunks_of_lt (hsize : 0 < size) (h : size < word.length) :
    chunks size word = word.take size :: chunks size (word.drop size) := by
  have hcount : (word.length + size - 1) / size =
      ((word.drop size).length + size - 1) / size + 1 := by
    rw [List.length_drop, ← Nat.add_div_right _ hsize]
    congr 1
    omega
  rw [chunks, hcount, List.range_succ_eq_map, List.map_cons, List.map_map, chunks]
  simp [Function.comp_def, Nat.succ_mul, Nat.add_comm]

example : chunks 3 "abcdefgh".toList = ["abc".toList, "def".toList, "gh".toList] := by decide

theorem head?_chunks (hsize : 0 < size) (hne : word ≠ []) :
    (chunks size word).head? = some (word.take size) := by
  by_cases h : word.length ≤ size
  · rw [chunks_of_le hne h, List.take_of_length_le h, List.head?_cons]
  · rw [chunks_of_lt hsize (by omega), List.head?_cons]

end CockpitHud.Text
