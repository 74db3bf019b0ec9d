import Mathlib

namespace CockpitHud.Decimal

open Float.Model Float.Model.UnpackedFloat

variable {mantissa : Nat} {exponent : Int} {a b : UnpackedFloat} {x y : Float}

inductive Unpacks (bits : BitVec Format.binary64.numBits) : UnpackedFloat → Prop
  | infinity (hexponent : unpackExponent bits = -1#11) (hdigits : unpackMantissa bits = 0#52) :
      Unpacks bits (.infinity (.ofBitVec (unpackSign bits)))
  | notANumber (hexponent : unpackExponent bits = -1#11) (hdigits : unpackMantissa bits ≠ 0#52) :
      Unpacks bits .notANumber
  | zero (hexponent : unpackExponent bits = 0#11) (hdigits : unpackMantissa bits = 0#52) :
      Unpacks bits (.zero (.ofBitVec (unpackSign bits)))
  | finite {mantissa : Nat} {exponent : Int} (hpos : 0 < mantissa) (hlength : mantissa < 2 ^ 53)
      (hfine : -1074 ≤ exponent) :
      Unpacks bits (.finite (.ofBitVec (unpackSign bits)) mantissa exponent hpos)

/-- There are no other bits: each pattern is an infinity, a zero, no number, or a number with at
most 53 digits and no finer than 2^-1074. -/
theorem unpacks (bits : BitVec Format.binary64.numBits) :
    Unpacks bits (unpack .binary64 bits) := by
  have hbias : (Format.binary64.exponentBias : Int) = 1023 := rfl
  unfold UnpackedFloat.unpack
  dsimp only
  split
  · rename_i hexponent
    split
    · exact .infinity hexponent ‹_›
    · exact .notANumber hexponent ‹_›
  · split
    · rename_i hexponent
      split
      · exact .zero hexponent ‹_›
      · have hdigits : (unpackMantissa bits).toNat < 2 ^ 52 := (unpackMantissa bits).isLt
        exact .finite _ (by omega) (by omega)
    · rename_i hexponent
      have hnormal : (unpackExponent bits).toNat ≠ 0 :=
        fun hzero => hexponent (BitVec.eq_of_toNat_eq hzero)
      exact .finite _ (1#1 ++ unpackMantissa bits).isLt (by omega)

theorem lt_iff (x y : Float) :
    x < y ↔ x.toModel.unpack.compare y.toModel.unpack = some .lt :=
  decide_eq_true_iff.trans beq_iff_eq

theorem le_iff (x y : Float) :
    x ≤ y ↔ (x.toModel.unpack.compare y.toModel.unpack).any (·.isLE) = true :=
  decide_eq_true_iff

theorem unpack_zero : (0.0 : Float).toModel.unpack = .zero .positive := rfl

/-- Infinity, or a number above zero with no more digits and no finer than a double. -/
inductive Positive : UnpackedFloat → Prop
  | infinity : Positive (.infinity .positive)
  | finite {mantissa : Nat} {exponent : Int} (hpos : 0 < mantissa) (hlength : mantissa < 2 ^ 53)
      (hfine : -1074 ≤ exponent) : Positive (.finite .positive mantissa exponent hpos)

/-- What is above zero unpacks to infinity or to a positive number. -/
theorem zero_lt_iff (x : Float) : 0.0 < x ↔ Positive x.toModel.unpack := by
  rw [lt_iff, unpack_zero]
  have hx : Unpacks x.toModel.toBits.toBitVec x.toModel.unpack := unpacks _
  generalize x.toModel.unpack = unpacked at hx
  constructor
  · intro h
    cases hx with
    | infinity =>
      generalize Sign.ofBitVec _ = sign at h ⊢
      cases sign with
      | negative => simp [UnpackedFloat.compare] at h
      | positive => exact .infinity
    | notANumber => simp [UnpackedFloat.compare] at h
    | zero => simp [UnpackedFloat.compare] at h
    | finite hpos hlength hfine =>
      generalize Sign.ofBitVec _ = sign at h ⊢
      cases sign with
      | negative => simp [UnpackedFloat.compare] at h
      | positive => exact .finite hpos hlength hfine
  · rintro (_ | _) <;> rfl

/-- What is not above zero is at most zero, or no number. -/
theorem not_zero_lt_iff (x : Float) : ¬ 0.0 < x ↔ x ≤ 0.0 ∨ x.isNaN = true := by
  have hnan : x.isNaN = x.toModel.unpack.isNaN := rfl
  rw [lt_iff, le_iff, unpack_zero, hnan]
  rcases x.toModel.unpack with ⟨_ | _⟩ | _ | sign | ⟨_ | _⟩ <;>
    simp [UnpackedFloat.compare, UnpackedFloat.isNaN]

theorem mantissa_shiftRight (extended : ExtendedMantissa) (n : Nat) :
    (extended >>> n).mantissa = extended.mantissa / 2 ^ n := by
  change (n.repeat ExtendedMantissa.shiftRightOne extended).mantissa = _
  induction n with
  | zero => exact (Nat.div_one _).symm
  | succ n ih =>
    rw [Nat.pow_succ, ← Nat.div_div_eq_div_mul, ← ih]
    rfl

theorem le_roundedMantissa (extended : ExtendedMantissa) :
    extended.mantissa ≤ extended.roundedMantissa := by
  obtain ⟨mantissa, roundBit, stickyBit⟩ := extended
  cases roundBit <;> cases stickyBit <;>
    simp [ExtendedMantissa.roundedMantissa, ExtendedMantissa.accuracy,
      Accuracy.roundToNearestEven]

/-- Digits are dropped down to 53 only, so that something is left. -/
theorem shift_bounds (hpos : 0 < mantissa) (hfine : -1074 ≤ exponent) :
    let shifted := shiftToTargetExponent .binary64 mantissa exponent .exact
    0 < shifted.1.mantissa ∧ shifted.1.mantissa < 2 ^ 53 ∧ -1074 ≤ shifted.2 := by
  have hamount : (Format.binary64.targetExponent (totalExponent mantissa exponent) -
      exponent).toNat = mantissa.log2 - 52 := by
    change (max (mantissa.log2 + 1 + exponent - 53) (-1074) - exponent).toNat = _
    omega
  have hlow : 2 ^ mantissa.log2 ≤ mantissa := Nat.log2_self_le (Nat.ne_of_gt hpos)
  have hhigh : mantissa < 2 ^ (mantissa.log2 + 1) := Nat.lt_log2_self
  simp only [shiftToTargetExponent, shiftToExponent, hamount, mantissa_shiftRight,
    ExtendedMantissa.ofMantissaAndAccuracy]
  refine ⟨?_, ?_, by omega⟩
  · apply Nat.div_pos _ (Nat.two_pow_pos _)
    exact Nat.le_trans (Nat.pow_le_pow_right (by decide) (Nat.sub_le _ _)) hlow
  · rw [Nat.div_lt_iff_lt_mul (Nat.two_pow_pos _), ← Nat.pow_add]
    exact Nat.lt_of_lt_of_le hhigh (Nat.pow_le_pow_right (by decide) (by omega))

/-- A positive number that is no finer than a double is not rounded to zero. -/
theorem positive_round (hpos : 0 < mantissa) (hfine : -1074 ≤ exponent) :
    Positive (UnpackedFloat.round .binary64 .positive mantissa exponent) := by
  generalize htarget : Format.binary64.targetExponent (totalExponent mantissa exponent) = target
  have hleast : -1074 ≤ target := by
    rw [← htarget]
    exact Int.le_max_right _ _
  have hpos' : 0 < mantissa <<< (exponent - target).toNat := by
    rw [Nat.shiftLeft_eq]
    exact Nat.mul_pos hpos (Nat.two_pow_pos _)
  have hfine' : -1074 ≤ exponent - (exponent - target).toNat := by omega
  -- Digits are dropped twice: rounding up may have made one too many.
  obtain ⟨hfirst, -, hfineFirst⟩ := shift_bounds hpos' hfine'
  have hrounded := Nat.lt_of_lt_of_le hfirst (le_roundedMantissa _)
  obtain ⟨hsecond, hlength, hfineSecond⟩ := shift_bounds hrounded hfineFirst
  unfold UnpackedFloat.round roundWithAccuracy
  simp only [htarget, decreaseExponent, Nat.ne_of_gt hsecond, dite_false]
  exact .finite _ hlength hfineSecond

theorem positive_normalize {sum : Int} {zeroSign : Sign} (hpos : 0 < sum)
    (hfine : -1074 ≤ exponent) :
    Positive (UnpackedFloat.normalize .binary64 sum exponent zeroSign) := by
  unfold UnpackedFloat.normalize
  rw [Int.compare_eq_gt.mpr hpos]
  exact positive_round (Int.pos_iff_toNat_pos.mp hpos) hfine

/-- The sum of two positive doubles is no finer than they are, so it is positive. -/
theorem Positive.add (ha : Positive a) (hb : Positive b) :
    Positive (UnpackedFloat.add .binary64 a b) := by
  cases ha with
  | infinity => cases hb <;> exact .infinity
  | finite hpos _ hfine =>
    cases hb with
    | infinity => exact .infinity
    | finite hpos' _ hfine' =>
      apply positive_normalize
      · simp only [Sign.apply, Nat.shiftLeft_eq]
        positivity
      · exact Int.le_min.mpr ⟨hfine, hfine'⟩

theorem unpackSign_packComponents (exponent : BitVec 11) (digits : BitVec 52) :
    unpackSign (packComponents .binary64 .positive exponent digits) = 0#1 := by
  have hsign : (packComponents .binary64 .positive exponent digits).getLsbD 63 = false := by
    rw [packComponents, BitVec.getLsbD_append, BitVec.getLsbD_append]
    rfl
  ext i hi
  obtain rfl : i = 0 := by omega
  simpa [unpackSign] using hsign

/-- Three fields are a double above zero unless they are those of zero or of no number. -/
theorem positive_unpack {exponent : BitVec 11} {digits : BitVec 52}
    (hnumber : exponent = -1#11 → digits = 0#52) (hzero : exponent = 0#11 → digits ≠ 0#52) :
    Positive (unpack .binary64 (packComponents .binary64 .positive exponent digits)) := by
  have hunpacks := unpacks (packComponents .binary64 .positive exponent digits)
  generalize unpack .binary64 (packComponents .binary64 .positive exponent digits) = u at hunpacks
  cases hunpacks with
  | infinity =>
    rw [unpackSign_packComponents]
    exact .infinity
  | notANumber hexponent hdigits =>
    rw [unpackExponent_packComponents] at hexponent
    rw [unpackMantissa_packComponents] at hdigits
    exact absurd (hnumber hexponent) hdigits
  | zero hexponent hdigits =>
    rw [unpackExponent_packComponents] at hexponent
    rw [unpackMantissa_packComponents] at hdigits
    exact absurd hdigits (hzero hexponent)
  | finite hpos hlength hfine =>
    rw [unpackSign_packComponents]
    exact .finite hpos hlength hfine

theorem positive_normal {field : Nat} (hpos : 0 < field) (hfinite : field + 1 < 2 ^ 11)
    (digits : BitVec 52) :
    Positive (unpack .binary64 (packComponents .binary64 .positive (.ofNat 11 field) digits)) := by
  have hvalue : (BitVec.ofNat 11 field).toNat = field := by
    rw [BitVec.toNat_ofNat]
    exact Nat.mod_eq_of_lt (by omega)
  apply positive_unpack
  · intro hones
    have hfull : (BitVec.ofNat 11 field).toNat = 2047 := congrArg BitVec.toNat hones
    omega
  · intro hnone
    have hempty : (BitVec.ofNat 11 field).toNat = 0 := congrArg BitVec.toNat hnone
    omega

theorem positive_subnormal (hpos : 0 < mantissa) (hsmall : mantissa < 2 ^ 52) :
    Positive (unpack .binary64
      (packComponents .binary64 .positive 0#11 (.ofNat 52 mantissa))) := by
  apply positive_unpack
  · intro hones
    exact absurd hones (by decide)
  · intro _ hnone
    have hempty : mantissa % 2 ^ 52 = 0 := congrArg BitVec.toNat hnone
    rw [Nat.mod_eq_of_lt hsmall] at hempty
    omega

theorem Positive.pack (ha : Positive a) :
    Positive (unpack .binary64 (UnpackedFloat.pack .binary64 a)) := by
  cases ha with
  | infinity => exact .infinity
  | @finite mantissa exponent hpos hlength hfine =>
    have hfield : (exponent + Format.binary64.exponentBias +
        Format.binary64.mantissaBitsWithoutImplicit).toNat = (exponent + 1075).toNat :=
      congrArg Int.toNat (Int.add_assoc exponent 1023 52)
    unfold UnpackedFloat.pack
    simp only [hfield]
    split
    · exact .infinity
    · split
      · exact positive_normal (by omega) (by omega) _
      · rename_i hshort
        have hbits : ¬ mantissa.log2 + 1 = 53 := hshort
        have hlog : mantissa.log2 < 53 := (Nat.log2_lt (Nat.ne_of_gt hpos)).mpr hlength
        exact positive_subnormal hpos ((Nat.log2_lt (Nat.ne_of_gt hpos)).mp (by omega))

theorem pos_or_zero_of_nonneg (hx : 0.0 ≤ x) :
    0.0 < x ∨ ∃ sign, x.toModel.unpack = .zero sign := by
  rw [le_iff, unpack_zero] at hx
  rw [lt_iff, unpack_zero]
  generalize x.toModel.unpack = unpacked at hx ⊢
  rcases unpacked with ⟨_ | _⟩ | _ | sign | ⟨_ | _⟩ <;> simp [UnpackedFloat.compare] at hx ⊢

/-- What is above zero stays above zero, whatever else is added that is not below zero. -/
theorem add_pos_of_nonneg_of_pos (hx : 0.0 ≤ x) (hy : 0.0 < y) : 0.0 < x + y := by
  rw [zero_lt_iff] at hy ⊢
  change Positive (unpack .binary64 (UnpackedFloat.pack .binary64
    (UnpackedFloat.add .binary64 x.toModel.unpack y.toModel.unpack)))
  apply Positive.pack
  rcases pos_or_zero_of_nonneg hx with hx | ⟨sign, hx⟩
  · exact ((zero_lt_iff x).mp hx).add hy
  · rw [hx]
    generalize y.toModel.unpack = summand at hy
    cases hy with
    | infinity => exact .infinity
    | finite hpos hlength hfine => exact .finite hpos hlength hfine

theorem le_of_pos (h : 0.0 < x) : 0.0 ≤ x := by
  rw [lt_iff] at h
  rw [le_iff, h]
  rfl

/-- Adding something positive, a sum from zero on ends above zero. -/
theorem foldl_add_pos {values : List Float} {start : Float} (hstart : 0.0 ≤ start)
    (hvalues : ∀ value ∈ values, 0.0 < value) (hne : values ≠ []) :
    0.0 < values.foldl (· + ·) start := by
  induction values generalizing start with
  | nil => exact absurd rfl hne
  | cons value values ih =>
    have hsum : 0.0 < start + value :=
      add_pos_of_nonneg_of_pos hstart (hvalues value List.mem_cons_self)
    cases values with
    | nil => exact hsum
    | cons next rest =>
      exact ih (le_of_pos hsum) (fun v hv => hvalues v (List.mem_cons_of_mem _ hv))
        (List.cons_ne_nil next rest)

end CockpitHud.Decimal
