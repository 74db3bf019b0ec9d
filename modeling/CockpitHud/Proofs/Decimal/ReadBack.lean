import CockpitHud.Decimal.Plain
import CockpitHud.Decimal.Reader
import CockpitHud.Proofs.Decimal.Rounding

namespace CockpitHud.Decimal

theorem leadingDigits_append {digits : List Char} (h : ∀ c ∈ digits, c.isDigit = true)
    (rest : List Char) : leadingDigits (digits ++ rest) = digits ++ leadingDigits rest :=
  List.takeWhile_append_of_pos h

theorem afterDigits_append {digits : List Char} (h : ∀ c ∈ digits, c.isDigit = true)
    (rest : List Char) : afterDigits (digits ++ rest) = afterDigits rest :=
  List.dropWhile_append_of_pos h

theorem leadingDigits_self {digits : List Char} (h : ∀ c ∈ digits, c.isDigit = true) :
    leadingDigits digits = digits := by
  simpa [leadingDigits] using leadingDigits_append h []

theorem afterDigits_self {digits : List Char} (h : ∀ c ∈ digits, c.isDigit = true) :
    afterDigits digits = [] := by
  simpa [afterDigits] using afterDigits_append h []

theorem readNumeral_digits {digits : List Char} (h : ∀ c ∈ digits, c.isDigit = true)
    (hne : digits ≠ []) : readNumeral digits = some ⟨digitsValue digits, 0⟩ := by
  simp [readNumeral, leadingDigits_self h, afterDigits_self h, splitFraction, readExponent, hne]

theorem readNumeral_point {front fraction : List Char} (hfront : ∀ c ∈ front, c.isDigit = true)
    (hfraction : ∀ c ∈ fraction, c.isDigit = true) (hne : front ≠ []) :
    readNumeral (front ++ '.' :: fraction) =
      some ⟨digitsValue (front ++ fraction), -(fraction.length : Int)⟩ := by
  have hlead : leadingDigits (front ++ '.' :: fraction) = front := by
    rw [leadingDigits_append hfront]
    exact List.append_nil front
  have hafter : afterDigits (front ++ '.' :: fraction) = '.' :: fraction := by
    rw [afterDigits_append hfront]
    rfl
  simp [readNumeral, hlead, hafter, splitFraction, leadingDigits_self hfraction,
    afterDigits_self hfraction, readExponent, hne]

theorem toDigits_isDigit (n : Nat) : ∀ c ∈ Nat.toDigits 10 n, c.isDigit = true :=
  fun _ hc => Nat.isDigit_of_mem_toDigits (by decide) (by decide) hc

theorem digitsValue_toDigits (n : Nat) : digitsValue (Nat.toDigits 10 n) = n :=
  Nat.ofDigitChars_ten_toDigits

theorem replicate_zero_isDigit (n : Nat) : ∀ c ∈ List.replicate n '0', c.isDigit = true := by
  intro c hc
  rw [List.eq_of_mem_replicate hc]
  rfl

theorem digitsValue_append_zeros (digits : List Char) (n : Nat) :
    digitsValue (digits ++ List.replicate n '0') = digitsValue digits * 10 ^ n := by
  simp only [digitsValue, Nat.ofDigitChars_append, Nat.ofDigitChars_replicate_zero, Nat.mul_comm]

theorem digitsValue_zeros_append (digits : List Char) (n : Nat) :
    digitsValue (List.replicate n '0' ++ digits) = digitsValue digits := by
  simp only [digitsValue, Nat.ofDigitChars_append, Nat.ofDigitChars_replicate_zero, Nat.mul_zero]

/-- The point tells the number of digits behind it, the zeros filled in included. -/
theorem readNumeral_withPoint {digits : List Char} (h : ∀ c ∈ digits, c.isDigit = true)
    {places : Nat} (hplaces : 0 < places) :
    readNumeral (withPoint digits places) = some ⟨digitsValue digits, -(places : Int)⟩ := by
  simp only [withPoint]
  split
  · rename_i hle
    have hfraction : ∀ c ∈ List.replicate (places - digits.length) '0' ++ digits,
        c.isDigit = true := by
      intro c hc
      rcases List.mem_append.mp hc with hc | hc
      · exact replicate_zero_isDigit _ c hc
      · exact h c hc
    have hzero : ∀ c ∈ ['0'], c.isDigit = true := replicate_zero_isDigit 1
    have hread := readNumeral_point hzero hfraction (List.cons_ne_nil _ _)
    have hvalue : digitsValue (['0'] ++ (List.replicate (places - digits.length) '0' ++ digits)) =
        digitsValue digits := by
      rw [← List.append_assoc]
      exact digitsValue_zeros_append digits (places - digits.length + 1)
    have hlength : (List.replicate (places - digits.length) '0' ++ digits).length = places := by
      simp only [List.length_append, List.length_replicate]
      omega
    rw [hvalue, hlength] at hread
    exact hread
  · rename_i hlt
    have hfront : ∀ c ∈ digits.take (digits.length - places), c.isDigit = true :=
      fun c hc => h c (List.mem_of_mem_take hc)
    have hfraction : ∀ c ∈ digits.drop (digits.length - places), c.isDigit = true :=
      fun c hc => h c (List.mem_of_mem_drop hc)
    have hne : digits.take (digits.length - places) ≠ [] := by
      intro hnil
      have := congrArg List.length hnil
      simp only [List.length_take, List.length_nil] at this
      omega
    have hread := readNumeral_point hfront hfraction hne
    have hlength : (digits.drop (digits.length - places)).length = places := by
      simp only [List.length_drop]
      omega
    rw [List.take_append_drop, hlength] at hread
    exact hread

/-- The numeral in the text of a grid point stands for that point. -/
theorem readNumeral_text (point : GridPoint) :
    ∃ coefficient places : Nat, readNumeral point.text = some ⟨coefficient, -(places : Int)⟩ ∧
      places ≤ 1074 ∧ coefficient * Nat.pow 10 1074 =
        point.coefficient * Nat.pow 10 point.scale * Nat.pow 10 places := by
  obtain ⟨coefficient, scale⟩ := point
  simp only [GridPoint.text]
  split
  · rename_i hle
    refine ⟨coefficient * 10 ^ (scale - 1074), 0, ?_, Nat.zero_le _, ?_⟩
    · rw [readNumeral_digits, digitsValue_append_zeros, digitsValue_toDigits]
      · rfl
      · intro c hc
        rcases List.mem_append.mp hc with hc | hc
        · exact toDigits_isDigit _ c hc
        · exact replicate_zero_isDigit _ c hc
      · simp [Nat.toDigits_ne_nil]
    · generalize 1074 = k at hle ⊢
      change coefficient * 10 ^ (scale - k) * 10 ^ k = coefficient * 10 ^ scale * 10 ^ 0
      rw [Nat.mul_assoc, ← Nat.pow_add, Nat.sub_add_cancel hle, Nat.pow_zero, Nat.mul_one]
  · rename_i hlt
    refine ⟨coefficient, 1074 - scale, ?_, Nat.sub_le _ _, ?_⟩
    · rw [readNumeral_withPoint (toDigits_isDigit _) (by omega), digitsValue_toDigits]
    · generalize 1074 = k at hlt ⊢
      change coefficient * 10 ^ k = coefficient * 10 ^ scale * 10 ^ (k - scale)
      rw [Nat.mul_assoc, ← Nat.pow_add, Nat.add_sub_cancel' (by omega)]

def isNumeralChar (c : Char) : Bool :=
  c.isDigit || c == '.'

theorem withPoint_chars {digits : List Char} (h : ∀ c ∈ digits, c.isDigit = true) (places : Nat) :
    ∀ c ∈ withPoint digits places, isNumeralChar c = true := by
  have hdigits : ∀ c ∈ digits, isNumeralChar c = true := fun c hc => by
    simp [isNumeralChar, h c hc]
  intro c hc
  simp only [withPoint] at hc
  split at hc
  · simp only [List.mem_cons, List.mem_append] at hc
    rcases hc with rfl | rfl | hc | hc
    · rfl
    · rfl
    · simp [isNumeralChar, replicate_zero_isDigit _ c hc]
    · exact hdigits c hc
  · simp only [List.mem_append, List.mem_cons] at hc
    rcases hc with hc | rfl | hc
    · exact hdigits c (List.mem_of_mem_take hc)
    · rfl
    · exact hdigits c (List.mem_of_mem_drop hc)

theorem GridPoint.text_chars (point : GridPoint) :
    ∀ c ∈ point.text, isNumeralChar c = true := by
  intro c hc
  simp only [GridPoint.text] at hc
  split at hc
  · rcases List.mem_append.mp hc with hc | hc
    · simp [isNumeralChar, toDigits_isDigit _ c hc]
    · simp [isNumeralChar, replicate_zero_isDigit _ c hc]
  · exact withPoint_chars (toDigits_isDigit _) _ c hc

theorem not_isUpper_of_numeral {c : Char} (h : isNumeralChar c = true) : ¬ c.isUpper = true := by
  simp only [isNumeralChar, Char.isDigit, Char.isUpper, Bool.or_eq_true, Bool.and_eq_true,
    decide_eq_true_eq, beq_iff_eq, ge_iff_le, UInt32.le_iff_toNat_le] at h ⊢
  rcases h with hdigit | rfl
  · simp at hdigit ⊢
    omega
  · decide

/-- Digits and points are no letters, so such a text is none of the words. -/
theorem lowerAscii_ne_of_chars {text word : List Char} (h : ∀ c ∈ text, isNumeralChar c = true)
    (letter : Char) (hletter : letter ∈ word)
    (hother : isNumeralChar letter = false) : Text.lowerAscii text ≠ word := by
  intro he
  rw [← he] at hletter
  obtain ⟨c, hc, hlower⟩ := List.mem_map.mp hletter
  rw [Char.toLower_eq_of_not_isUpper (not_isUpper_of_numeral (h c hc))] at hlower
  rw [← hlower, h c hc] at hother
  contradiction

theorem readMagnitude_of_chars {text : List Char} (h : ∀ c ∈ text, isNumeralChar c = true) :
    readMagnitude text = (readNumeral text).map Numeral.magnitude := by
  have hinf : Text.lowerAscii text ≠ "inf".toList := lowerAscii_ne_of_chars h 'i' (by decide) rfl
  have hinfinity : Text.lowerAscii text ≠ "infinity".toList :=
    lowerAscii_ne_of_chars h 'i' (by decide) rfl
  have hnan : Text.lowerAscii text ≠ "nan".toList := lowerAscii_ne_of_chars h 'n' (by decide) rfl
  simp only [readMagnitude, hinf, hinfinity, hnan, or_self, if_false]

theorem nearestScaled_eq {coefficient places value p : Nat} (hplaces : places ≤ 1074)
    (hcoefficient : 0 < coefficient)
    (hvalue : coefficient * Nat.pow 10 1074 = value * Nat.pow 10 places)
    (hfinite : p < infinity) (hholds : (Interval.around p).holds (2 * value) = true) :
    nearestScaled coefficient (-(places : Int)) = p := by
  have hnear : nearest coefficient (Nat.pow 10 places) = p :=
    nearest_of_holds ⟨Nat.pow_pos (n := places) (by decide), hvalue⟩ hfinite hholds
  have hlow : ¬ (400 : Int) < -(places : Int) := by omega
  have hhigh : ¬ -(places : Int) + coefficient.log2 < -1100 := by omega
  rw [nearestScaled, if_neg (by omega), if_neg hlow, if_neg hhigh]
  split
  · have hzero : places = 0 := by omega
    subst hzero
    simpa using hnear
  · simpa using hnear

/-- A magnitude, infinity included, is read back from its text. -/
theorem readMagnitude_text {p : Nat} (h : p ≤ infinity) :
    readMagnitude (magnitudeText p) = some p := by
  unfold magnitudeText
  split
  · rename_i hzero
    subst hzero
    rfl
  · rename_i hne
    have hp : 0 < p := by omega
    split
    · rename_i hfinite
      obtain ⟨coefficient, places, hread, hplaces, hvalue⟩ := readNumeral_text (shortest p)
      have hcoefficient : 0 < coefficient := by
        have hpos : 0 < (shortest p).coefficient * Nat.pow 10 (shortest p).scale *
            Nat.pow 10 places :=
          Nat.mul_pos (Nat.mul_pos (shortest_coefficient_pos hp)
            (Nat.pow_pos (n := (shortest p).scale) (by decide)))
            (Nat.pow_pos (n := places) (by decide))
        rw [← hvalue] at hpos
        exact Nat.pos_of_mul_pos_right hpos
      rw [readMagnitude_of_chars (GridPoint.text_chars _), hread, Option.map_some,
        Numeral.magnitude, nearestScaled_eq hplaces hcoefficient hvalue hfinite
          (shortest_holds hp)]
    · rename_i hinfinite
      have he : p = infinity := by omega
      subst he
      rfl

/-- Nothing is lost in taking a double apart. -/
theorem toFloat_of (x : Float) : (Parts.of x).toFloat = x := by
  have hlt : x.toBits.toNat < 2 * signBit := x.toBits.toNat_lt
  have hbits : (if signBit ≤ x.toBits.toNat then signBit else 0) + x.toBits.toNat % signBit =
      x.toBits.toNat := by
    split
    · rename_i hle
      rw [Nat.mod_eq_sub_mod hle, Nat.mod_eq_of_lt (by omega)]
      omega
    · rename_i hle
      rw [Nat.mod_eq_of_lt (by omega), Nat.zero_add]
  simp only [Parts.toFloat, Parts.of, decide_eq_true_eq, hbits, UInt64.ofNat_toNat,
    Float.ofBits_toBits]

/-- All patterns above that of infinity stand for the one double that is no number. -/
theorem eq_notANumber {x : Float} (h : infinity < (Parts.of x).magnitude) :
    Parts.toFloat ⟨false, notANumber⟩ = x := by
  have hmagnitude : infinity < x.toBits.toNat % signBit := h
  simp only [infinity, signBit, binade] at hmagnitude
  have hexponent : @Float.Model.UnpackedFloat.unpackExponent Float.Model.Format.binary64
      x.toBits.toBitVec = -1#_ := by
    apply BitVec.eq_of_toNat_eq
    simp [Float.Model.UnpackedFloat.unpackExponent_def, BitVec.extractLsb'_toNat,
      Nat.shiftRight_eq_div_pow]
    omega
  have hmantissa : @Float.Model.UnpackedFloat.unpackMantissa Float.Model.Format.binary64
      x.toBits.toBitVec ≠ 0#_ := by
    intro hzero
    have := congrArg BitVec.toNat hzero
    simp [Float.Model.UnpackedFloat.unpackMantissa_def, BitVec.extractLsb'_toNat] at this
    omega
  have hbits := x.toModel.valid.eq_packedNaN hexponent hmantissa
  apply Float.toBits_inj.mp
  apply UInt64.toBitVec_inj.mp
  exact Eq.trans (by decide) hbits.symm

theorem read_unsigned {text : List Char} (hminus : ∀ rest, text ≠ '-' :: rest)
    (hplus : ∀ rest, text ≠ '+' :: rest) :
    read text = (readMagnitude text).map fun magnitude => Parts.toFloat ⟨false, magnitude⟩ := by
  unfold read
  split
  · rename_i rest
    exact absurd rfl (hminus rest)
  · rename_i rest
    exact absurd rfl (hplus rest)
  · rfl

/-- What shortest forms are made of: a sign, digits and a point, or the letters of the words. -/
def isPlainChar (c : Char) : Bool :=
  isNumeralChar c || ['-', 'i', 'n', 'f', 'N', 'a'].contains c

theorem magnitudeText_chars (p : Nat) : ∀ c ∈ magnitudeText p, isPlainChar c = true ∧ c ≠ '-' := by
  intro c hc
  unfold magnitudeText at hc
  split at hc
  · rw [List.mem_singleton.mp hc]
    decide
  · split at hc
    · have hchar := GridPoint.text_chars _ c hc
      refine ⟨by simp [isPlainChar, hchar], ?_⟩
      rintro rfl
      contradiction
    · have hletters : c = 'i' ∨ c = 'n' ∨ c = 'f' := by simpa using hc
      rcases hletters with rfl | rfl | rfl <;> decide

/-- A shortest form is made of a sign, digits and a point, or of the letters of its word. -/
theorem plain_chars (x : Float) : ∀ c ∈ plain x, isPlainChar c = true := by
  intro c hc
  simp only [plain] at hc
  split at hc
  · have hletters : c = 'N' ∨ c = 'a' ∨ c = 'N' := by simpa using hc
    rcases hletters with rfl | rfl | rfl <;> decide
  · rcases List.mem_append.mp hc with hc | hc
    · have hsign : c = '-' := by
        simp only [signText] at hc
        split at hc
        · exact List.mem_singleton.mp hc
        · contradiction
      rw [hsign]
      decide
    · exact (magnitudeText_chars _ c hc).1

/-- Every double reads back from its shortest form. -/
theorem read_plain (x : Float) : read (plain x) = some x := by
  simp only [plain]
  split
  · rename_i hnan
    rw [show read "NaN".toList = some (Parts.toFloat ⟨false, notANumber⟩) from rfl,
      eq_notANumber hnan]
  · rename_i hle
    have hmagnitude := readMagnitude_text (Nat.le_of_not_lt hle)
    have hparts := toFloat_of x
    have hchars := magnitudeText_chars (Parts.of x).magnitude
    generalize Parts.of x = parts at hmagnitude hparts hchars
    obtain ⟨negative, magnitude⟩ := parts
    cases negative with
    | true => simp only [signText, if_true, List.cons_append, List.nil_append, read, hmagnitude,
        Option.map_some, hparts]
    | false =>
      simp only [signText, Bool.false_eq_true, if_false, List.nil_append]
      rw [read_unsigned, hmagnitude, Option.map_some, hparts]
      · intro rest he
        exact (hchars '-' (by simp [he])).2 rfl
      · intro rest he
        have := (hchars '+' (by simp [he])).1
        contradiction

end CockpitHud.Decimal
