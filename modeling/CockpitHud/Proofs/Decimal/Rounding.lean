import CockpitHud.Decimal.Nearest
import CockpitHud.Decimal.Shortest
import Mathlib

namespace CockpitHud.Decimal

theorem units_small {pattern : Nat} (h : pattern < binade) : units pattern = pattern := by
  simp [units, h]

/-- From the first full binade on, each further one doubles the step. -/
theorem units_large (e r : Nat) (h : r < binade) :
    units (binade * (e + 1) + r) = (binade + r) * 2 ^ e := by
  have hpos : 0 < binade := by decide
  have hle : ¬ binade * (e + 1) + r < binade := by
    rw [Nat.mul_succ]
    omega
  have hdiv : (binade * (e + 1) + r) / binade = e + 1 := by
    rw [Nat.mul_add_div hpos, Nat.div_eq_of_lt h, Nat.add_zero]
  have hmod : (binade * (e + 1) + r) % binade = r := by
    rw [Nat.mul_add_mod, Nat.mod_eq_of_lt h]
  simp only [units, if_neg hle, hdiv, hmod, Nat.shiftLeft_eq, Nat.add_sub_cancel]

theorem units_lt_succ (pattern : Nat) : units pattern < units (pattern + 1) := by
  have hpos : 0 < binade := by decide
  by_cases hsmall : pattern < binade
  · rw [units_small hsmall]
    by_cases hnext : pattern + 1 < binade
    · rw [units_small hnext]
      omega
    · have he : pattern + 1 = binade * (0 + 1) + 0 := by omega
      rw [he, units_large 0 0 hpos]
      omega
  · obtain ⟨e, he⟩ : ∃ e, pattern / binade = e + 1 :=
      ⟨pattern / binade - 1, by have := Nat.div_pos (by omega : binade ≤ pattern) hpos; omega⟩
    have hr := Nat.mod_lt pattern hpos
    have hsplit : binade * (e + 1) + pattern % binade = pattern := by
      rw [← he]
      exact Nat.div_add_mod pattern binade
    rw [← hsplit, units_large e _ hr]
    have htwo : 0 < 2 ^ e := Nat.two_pow_pos e
    by_cases hnext : pattern % binade + 1 < binade
    · rw [Nat.add_assoc, units_large e _ hnext]
      exact Nat.mul_lt_mul_of_pos_right (by omega) htwo
    · have hcarry : binade * (e + 1) + pattern % binade + 1 = binade * (e + 1 + 1) + 0 := by
        rw [Nat.mul_succ binade (e + 1)]
        omega
      rw [hcarry, units_large (e + 1) 0 hpos, Nat.pow_succ, Nat.add_zero, Nat.mul_comm (2 ^ e) 2,
        ← Nat.mul_assoc]
      exact Nat.mul_lt_mul_of_pos_right (by omega) htwo

/-- Patterns are in order of size. -/
theorem units_strictMono : StrictMono units :=
  strictMono_nat_of_lt_succ units_lt_succ

theorem middle_strictMono : StrictMono middle := by
  intro p q h
  exact Nat.add_lt_add (units_strictMono h) (units_strictMono (Nat.add_lt_add_right h 1))

theorem passes_iff (numerator denominator pattern : Nat) :
    passes numerator denominator pattern = true ↔
      middle pattern * denominator < 2 * (numerator <<< 1074) ∨
        middle pattern * denominator = 2 * (numerator <<< 1074) ∧ pattern % 2 = 1 := by
  simp only [passes, Bool.or_eq_true, Bool.and_eq_true, decide_eq_true_eq, beq_iff_eq]

/-- Halving finds the pattern that parts those which the fraction passes from the others. -/
theorem search_eq {numerator denominator p : Nat}
    (below : ∀ q < p, passes numerator denominator q = true)
    (above : ∀ q, p ≤ q → passes numerator denominator q = false)
    (depth start : Nat) (hlow : start ≤ p) (hhigh : p ≤ start + 2 ^ depth) :
    search numerator denominator depth start = p := by
  have hside : ∀ q, passes numerator denominator q = true ↔ q < p := by
    intro q
    refine ⟨fun h => ?_, below q⟩
    by_contra hle
    rw [above q (by omega)] at h
    contradiction
  induction depth generalizing start with
  | zero =>
    simp only [search, hside]
    split <;> omega
  | succ depth ih =>
    simp only [search, hside, Nat.one_shiftLeft]
    rw [Nat.pow_succ] at hhigh
    split
    · rename_i hmid
      exact ih _ (Nat.le_of_lt hmid) (by omega)
    · rename_i hmid
      exact ih _ hlow (by omega)

theorem shift_mul_fineness (n : Nat) : (n <<< 1074) * fineness = n * Nat.pow 10 1074 := by
  unfold fineness
  generalize 1074 = k
  change (n <<< k) * 5 ^ k = n * 10 ^ k
  rw [Nat.shiftLeft_eq, Nat.mul_assoc, ← Nat.mul_pow]

theorem fineness_pos : 0 < fineness := by
  unfold fineness
  generalize 1074 = k
  exact Nat.pow_pos (by decide)

/-- What the two ways to write a fraction have in common: `value` in units of 10^-1074. -/
def Represents (numerator denominator value : Nat) : Prop :=
  0 < denominator ∧ numerator * Nat.pow 10 1074 = value * denominator

theorem Represents.compare {numerator denominator value : Nat}
    (h : Represents numerator denominator value) (bound : Nat) :
    (bound * denominator < 2 * (numerator <<< 1074) ↔ bound * fineness < 2 * value) ∧
      (bound * denominator = 2 * (numerator <<< 1074) ↔ bound * fineness = 2 * value) := by
  obtain ⟨hpos, hvalue⟩ := h
  have hright : 2 * (numerator <<< 1074) * fineness = 2 * value * denominator := by
    rw [Nat.mul_assoc, shift_mul_fineness, hvalue, Nat.mul_assoc]
  have hleft : bound * denominator * fineness = bound * fineness * denominator :=
    Nat.mul_right_comm ..
  constructor
  · rw [← Nat.mul_lt_mul_right fineness_pos, hright, hleft, Nat.mul_lt_mul_right hpos]
  · rw [← Nat.mul_left_inj (Nat.ne_of_gt fineness_pos), hright, hleft,
      Nat.mul_left_inj (Nat.ne_of_gt hpos)]

/-- The middles themselves belong to an even magnitude only. -/
theorem holds_around_iff (p twice : Nat) :
    (Interval.around p).holds twice = true ↔
      (middle (p - 1) * fineness ≤ twice ∧ twice ≤ middle p * fineness) ∧
        (p % 2 = 1 → middle (p - 1) * fineness < twice ∧ twice < middle p * fineness) := by
  rcases Nat.mod_two_eq_zero_or_one p with heven | hodd
  · simp [Interval.holds, Interval.around, heven]
  · simp [Interval.holds, Interval.around, hodd]
    omega

theorem passes_below {numerator denominator value p q : Nat}
    (h : Represents numerator denominator value)
    (hholds : (Interval.around p).holds (2 * value) = true) (hq : q < p) :
    passes numerator denominator q = true := by
  obtain ⟨⟨hlow, _⟩, hodd⟩ := (holds_around_iff p _).mp hholds
  rw [passes_iff, (h.compare _).1, (h.compare _).2]
  have hmono : middle q ≤ middle (p - 1) := middle_strictMono.monotone (by omega)
  have hscaled := Nat.mul_le_mul_right fineness hmono
  rcases Nat.lt_or_eq_of_le (Nat.le_trans hscaled hlow) with hlt | heq
  · exact Or.inl hlt
  · have hlast : q = p - 1 := by
      by_contra hne
      have hstrict := middle_strictMono (by omega : q < p - 1)
      have := Nat.mul_lt_mul_of_pos_right hstrict fineness_pos
      omega
    refine Or.inr ⟨heq, ?_⟩
    by_contra heven
    have := (hodd (by omega)).1
    rw [← hlast] at this
    omega

theorem not_passes_above {numerator denominator value p q : Nat}
    (h : Represents numerator denominator value)
    (hholds : (Interval.around p).holds (2 * value) = true) (hq : p ≤ q) :
    passes numerator denominator q = false := by
  obtain ⟨⟨_, hhigh⟩, hodd⟩ := (holds_around_iff p _).mp hholds
  rw [Bool.eq_false_iff, Ne, passes_iff, (h.compare _).1, (h.compare _).2]
  have hmono : middle p ≤ middle q := middle_strictMono.monotone hq
  have hscaled := Nat.mul_le_mul_right fineness hmono
  rintro (hlt | ⟨heq, hqodd⟩)
  · omega
  · rcases Nat.lt_or_eq_of_le hq with hgt | he
    · have := Nat.mul_lt_mul_of_pos_right (middle_strictMono hgt) fineness_pos
      omega
    · subst he
      have := (hodd hqodd).2
      omega

/-- A decimal in the interval of a magnitude reads back as that magnitude. -/
theorem nearest_of_holds {numerator denominator value p : Nat}
    (h : Represents numerator denominator value) (hfinite : p < infinity)
    (hholds : (Interval.around p).holds (2 * value) = true) :
    nearest numerator denominator = p := by
  have below : ∀ q < p, passes numerator denominator q = true :=
    fun _ hq => passes_below h hholds hq
  have above : ∀ q, p ≤ q → passes numerator denominator q = false :=
    fun _ hq => not_passes_above h hholds hq
  have hbound : p ≤ 0 + 2 ^ 63 := by
    have : infinity ≤ 2 ^ 63 := by decide
    omega
  rw [nearest, search_eq below above 63 0 (Nat.zero_le p) hbound]
  exact Nat.min_eq_right (Nat.le_of_lt hfinite)

theorem Interval.nearest?_holds {interval : Interval} {exact step coefficient : Nat}
    (h : interval.nearest? exact step = some coefficient) :
    interval.holds (2 * coefficient * step) = true := by
  simp only [Interval.nearest?] at h
  generalize (if 2 * (exact % step) < step then exact / step else exact / step + 1) = near at h
  generalize (if 2 * (exact % step) < step then exact / step + 1 else exact / step) = far at h
  split at h
  · rename_i hnear
    cases h
    exact hnear
  · split at h
    · rename_i hfar
      cases h
      exact hfar
    · contradiction

/-- Going down from a coarse grid ends in the interval at the latest on the finest grid, where the
magnitude itself is a point. -/
theorem Interval.coarsest_holds {interval : Interval} {exact : Nat}
    (hexact : interval.holds (2 * exact) = true) (scale : Nat) :
    interval.holds (2 * ((interval.coarsest exact scale).coefficient *
      Nat.pow 10 (interval.coarsest exact scale).scale)) = true := by
  induction scale with
  | zero => simpa [Interval.coarsest] using hexact
  | succ scale ih =>
    simp only [Interval.coarsest]
    split
    · rename_i coefficient hnear
      have hholds := Interval.nearest?_holds hnear
      rwa [Nat.mul_assoc] at hholds
    · exact ih

/-- A magnitude stands strictly between the middles to its neighbours. -/
theorem around_holds_exact {p : Nat} (hp : 0 < p) :
    (Interval.around p).holds (2 * (units p * fineness)) = true := by
  have hprev := units_lt_succ (p - 1)
  rw [show p - 1 + 1 = p by omega] at hprev
  have hnext := units_lt_succ p
  have hlow : middle (p - 1) * fineness < 2 * (units p * fineness) := by
    rw [← Nat.mul_assoc]
    refine Nat.mul_lt_mul_of_pos_right ?_ fineness_pos
    simp only [middle, show p - 1 + 1 = p by omega]
    omega
  have hhigh : 2 * (units p * fineness) < middle p * fineness := by
    rw [← Nat.mul_assoc]
    refine Nat.mul_lt_mul_of_pos_right ?_ fineness_pos
    simp only [middle]
    omega
  rw [holds_around_iff]
  exact ⟨⟨Nat.le_of_lt hlow, Nat.le_of_lt hhigh⟩, fun _ => ⟨hlow, hhigh⟩⟩

/-- The shortest decimal lies among those that read back as the magnitude. -/
theorem shortest_holds {p : Nat} (hp : 0 < p) :
    (Interval.around p).holds
      (2 * ((shortest p).coefficient * Nat.pow 10 (shortest p).scale)) = true :=
  Interval.coarsest_holds (around_holds_exact hp) _

theorem shortest_coefficient_pos {p : Nat} (hp : 0 < p) : 0 < (shortest p).coefficient := by
  obtain ⟨⟨hlow, _⟩, _⟩ := (holds_around_iff p _).mp (shortest_holds hp)
  have hpos : 0 < middle (p - 1) * fineness := by
    refine Nat.mul_pos ?_ fineness_pos
    have := units_lt_succ (p - 1)
    simp only [middle]
    omega
  by_contra hzero
  rw [Nat.eq_zero_of_not_pos hzero, Nat.zero_mul] at hlow
  omega

end CockpitHud.Decimal
