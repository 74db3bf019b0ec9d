import CockpitHud.Proofs.Decimal.ReadBack
import CockpitHud.Proofs.Settings.Storable
import CockpitHud.Settings.Writer

namespace CockpitHud

namespace Text

theorem isBlank_of_visible {c : Char} (hlow : 0x20 < c.toNat) (hhigh : c.toNat < 0x7F) :
    isBlank c = false := by
  simp only [isBlank, Bool.or_eq_false_iff, Bool.and_eq_false_iff, decide_eq_false_iff_not,
    beq_eq_false_iff_ne, ne_eq]
  omega

theorem isBlank_of_isDigit {c : Char} (h : c.isDigit = true) : isBlank c = false := by
  simp only [Char.isDigit, Bool.and_eq_true, decide_eq_true_eq, ge_iff_le,
    UInt32.le_iff_toNat_le] at h
  have hnat : c.toNat = c.val.toNat := rfl
  simp at h
  apply isBlank_of_visible <;> omega

end Text

namespace Settings

/-- A text without blanks can stand behind a key. -/
theorem isValue_of_no_blank {text : List Char} (h : ∀ c ∈ text, Text.isBlank c = false) :
    IsValue text := by
  refine ⟨Text.trim_of_no_blank h, fun hc => ?_⟩
  have := h '\n' hc
  contradiction

theorem isBlank_of_isPlainChar {c : Char} (h : Decimal.isPlainChar c = true) :
    Text.isBlank c = false := by
  simp only [Decimal.isPlainChar, Decimal.isNumeralChar, Bool.or_eq_true, beq_iff_eq] at h
  rcases h with (hdigit | rfl) | hletter
  · exact Text.isBlank_of_isDigit hdigit
  · decide
  · have hcases : c = '-' ∨ c = 'i' ∨ c = 'n' ∨ c = 'f' ∨ c = 'N' ∨ c = 'a' := by
      simpa using hletter
    rcases hcases with rfl | rfl | rfl | rfl | rfl | rfl <;> decide

theorem plain_isValue (x : Float) : IsValue (Decimal.plain x) :=
  isValue_of_no_blank fun c hc => isBlank_of_isPlainChar (Decimal.plain_chars x c hc)

namespace Value

theorem writeBool_isValue (value : Bool) : IsValue (writeBool value) := by
  cases value <;> decide

theorem readBool?_writeBool (value : Bool) : readBool? (writeBool value) = some value := by
  cases value <;> decide

theorem join_isValue {names : List (List Char)} (h : ∀ name ∈ names, IsName name) :
    IsValue (Text.join ',' names) := by
  induction names with
  | nil => decide
  | cons name rest ih =>
    obtain ⟨⟨htrim, hline⟩, hne, _⟩ := h name List.mem_cons_self
    cases rest with
    | nil => exact ⟨htrim, hline⟩
    | cons next others =>
      obtain ⟨hrest, hlines⟩ := ih fun n hn => h n (List.mem_cons_of_mem _ hn)
      constructor
      · exact Text.trim_append_cons ((Text.trim_eq_self_iff name).mp htrim).1 hne (by decide) hrest
      · intro hmem
        rcases List.mem_append.mp hmem with hmem | hmem
        · exact hline hmem
        · exact hlines ((List.mem_cons.mp hmem).resolve_left (by decide))

/-- Names without commas are read back from their list. -/
theorem readNames_writeNames {names : List String} (h : ∀ name ∈ names, IsName name.toList) :
    readNames (writeNames names) = names := by
  cases names with
  | nil => rfl
  | cons first rest =>
    have hpieces : Text.pieces ',' (writeNames (first :: rest)) =
        (first :: rest).map String.toList := by
      apply Text.pieces_join (by simp)
      intro piece hpiece
      obtain ⟨name, hname, rfl⟩ := List.mem_map.mp hpiece
      exact (h name hname).2.2
    have htrim : ((first :: rest).map String.toList).map Text.trim =
        (first :: rest).map String.toList := by
      rw [List.map_map]
      exact List.map_congr_left fun name hname => (h name hname).1.1
    have hfilter : ((first :: rest).map String.toList).filter (· ≠ []) =
        (first :: rest).map String.toList := by
      apply List.filter_eq_self.mpr
      intro piece hpiece
      obtain ⟨name, hname, rfl⟩ := List.mem_map.mp hpiece
      simpa using (h name hname).2.1
    rw [readNames, hpieces, htrim, hfilter, List.map_map]
    exact List.map_id'' (fun name => String.ofList_toList) _

/-- Reading digits one by one stops where the value gets too great for a part. -/
theorem foldlM_addDigit? (digits : List Char) (value : Nat) (h : value ≤ 255) :
    digits.foldlM addDigit? value =
      if Nat.ofDigitChars 10 digits value ≤ 255 then some (Nat.ofDigitChars 10 digits value)
      else none := by
  induction digits generalizing value with
  | nil => simp [h]
  | cons digit rest ih =>
    rw [List.foldlM_cons, Nat.ofDigitChars_cons]
    simp only [addDigit?]
    change (if 10 * value + (digit.toNat - '0'.toNat) ≤ 255 then
      some (10 * value + (digit.toNat - '0'.toNat)) else none).bind _ = _
    generalize 10 * value + (digit.toNat - '0'.toNat) = next
    split
    · rename_i hle
      exact ih next hle
    · rename_i hgt
      have hmono : next ≤ Nat.ofDigitChars 10 rest next := by
        rw [Nat.ofDigitChars_eq_ofDigitChars_zero]
        have := Nat.le_mul_of_pos_left next (Nat.pow_pos (n := rest.length) (by decide : 0 < 10))
        omega
      rw [if_neg (by omega)]
      rfl

/-- A part is read up to the first character that is no digit. -/
theorem readPart?_append {digits rest : List Char} (hdigits : ∀ c ∈ digits, c.isDigit = true)
    (hne : digits ≠ []) (hrest : ∀ c, rest.head? = some c → c.isDigit = false) :
    readPart? (digits ++ rest) =
      if Decimal.digitsValue digits ≤ 255 then
        some (UInt8.ofNat (Decimal.digitsValue digits), rest)
      else none := by
  have htake : (digits ++ rest).takeWhile Char.isDigit = digits := by
    rw [List.takeWhile_append_of_pos hdigits]
    cases rest with
    | nil => simp
    | cons c others => simp [hrest c rfl]
  have hdrop : (digits ++ rest).dropWhile Char.isDigit = rest := by
    rw [List.dropWhile_append_of_pos hdigits]
    cases rest with
    | nil => rfl
    | cons c others => simp [hrest c rfl]
  unfold readPart?
  rw [htake, hdrop]
  cases digits with
  | nil => exact absurd rfl hne
  | cons first others =>
    change ((first :: others).foldlM addDigit? 0).map _ = _
    rw [foldlM_addDigit? _ 0 (by decide), Decimal.digitsValue, apply_ite (Option.map _)]
    rfl

theorem readPart?_toDigits (part : UInt8) (rest : List Char)
    (hrest : ∀ c, rest.head? = some c → c.isDigit = false) :
    readPart? (Nat.toDigits 10 part.toNat ++ rest) = some (part, rest) := by
  have hle : part.toNat ≤ 255 := Nat.le_of_lt_succ part.toNat_lt
  rw [readPart?_append (Decimal.toDigits_isDigit _) Nat.toDigits_ne_nil hrest,
    Decimal.digitsValue_toDigits, if_pos hle, UInt8.ofNat_toNat]

theorem readComma?_toDigits (part : UInt8) (rest : List Char) :
    readComma? (',' :: (Nat.toDigits 10 part.toNat ++ rest)) =
      some (Nat.toDigits 10 part.toNat ++ rest) := by
  have hstart : skipSpaces (Nat.toDigits 10 part.toNat ++ rest) =
      Nat.toDigits 10 part.toNat ++ rest := by
    cases hdigits : Nat.toDigits 10 part.toNat with
    | nil => exact absurd hdigits Nat.toDigits_ne_nil
    | cons first others =>
      have hblank := Text.isBlank_of_isDigit
        (Decimal.toDigits_isDigit part.toNat first (hdigits ▸ List.mem_cons_self))
      have hskip : (first == ' ' || first == '\t') = false := by
        rw [Bool.or_eq_false_iff, beq_eq_false_iff_ne, beq_eq_false_iff_ne]
        constructor <;> (rintro rfl; contradiction)
      simp [skipSpaces, hskip]
  simpa [readComma?, skipSpaces] using hstart

theorem color_isValue (color : Color) : IsValue color.text := by
  apply isValue_of_no_blank
  intro c hc
  simp only [Color.text, List.mem_append, List.mem_cons] at hc
  rcases hc with (hc | rfl | hc) | rfl | hc
  · exact Text.isBlank_of_isDigit (Decimal.toDigits_isDigit _ c hc)
  · decide
  · exact Text.isBlank_of_isDigit (Decimal.toDigits_isDigit _ c hc)
  · decide
  · exact Text.isBlank_of_isDigit (Decimal.toDigits_isDigit _ c hc)

/-- Every color is read back from its text. -/
theorem readColor?_text (color : Color) : readColor? color.text = some color := by
  have hcomma : ∀ (rest : List Char) (c : Char), (',' :: rest).head? = some c →
      c.isDigit = false := by
    rintro rest c hc
    cases hc
    rfl
  have hred := readPart?_toDigits color.red _ (hcomma (Nat.toDigits 10 color.green.toNat ++
    ',' :: Nat.toDigits 10 color.blue.toNat))
  have hgreen := readPart?_toDigits color.green _ (hcomma (Nat.toDigits 10 color.blue.toNat))
  have hblue := readPart?_toDigits color.blue [] (by simp)
  have hlast := readComma?_toDigits color.blue []
  rw [List.append_nil] at hblue hlast
  have htext : color.text = Nat.toDigits 10 color.red.toNat ++ ',' ::
      (Nat.toDigits 10 color.green.toNat ++ ',' :: Nat.toDigits 10 color.blue.toNat) := by
    simp [Color.text]
  rw [readColor?, (color_isValue color).1, htext, hred]
  simp only [readComma?_toDigits, Option.bind_some, hgreen, hlast, hblue]

end Value

theorem value_isValue {settings : Settings} (h : settings.Storable) (key : Key) :
    IsValue (settings.value key) := by
  cases key with
  | groups =>
    apply Value.join_isValue
    intro text htext
    obtain ⟨name, hname, rfl⟩ := List.mem_map.mp htext
    exact h.names name hname
  | positionX => exact plain_isValue _
  | positionY => exact plain_isValue _
  | header => exact Value.writeBool_isValue _
  | color => exact Value.color_isValue _
  | font => exact h.font
  | borders => exact Value.writeBool_isValue _
  | size => exact h.scale

end Settings

end CockpitHud
