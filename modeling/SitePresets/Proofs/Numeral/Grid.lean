import SitePresets.Numeral.Binary64

/-!
# The grid of double precision numbers

Rounding lands on the grid and leaves the grid alone. So a whole number on the grid is what its own
decimal digits stand for.
-/

namespace SitePresets.Numeral

namespace Binary64

/-- What is finite is a point of the grid below the limit. -/
inductive OnGrid : Binary64 → Prop
  | finite {units : Nat} (negative : Bool) (hstep : step units ∣ units) (hlimit : units < limit) :
    OnGrid (.finite negative units)
  | infinite (negative : Bool) : OnGrid (.infinite negative)
  | nan : OnGrid .nan

theorem divHalfEven_le (n d : Nat) : divHalfEven n d ≤ n / d + 1 := by
  unfold divHalfEven
  dsimp only
  split
  · omega
  · split
    · omega
    · have := Nat.mod_lt (n / d) (show 0 < 2 by decide)
      omega

theorem divHalfEven_of_dvd {n d : Nat} (hd : 0 < d) (h : d ∣ n) : divHalfEven n d = n / d := by
  unfold divHalfEven
  simp [Nat.mod_eq_zero_of_dvd h, hd]

/-- Up to 53 binary digits and a power of two make a point of the grid. -/
theorem step_dvd_mul_pow {q k : Nat} (hq : q ≤ Nat.pow 2 53) :
    step (q * Nat.pow 2 k) ∣ q * Nat.pow 2 k := by
  have hpos : 0 < 2 ^ k := Nat.two_pow_pos k
  unfold step
  simp only [Nat.pow_eq] at hq ⊢
  rcases Nat.lt_or_ge q (2 ^ 53) with hlt | hge
  · have hexponent : Nat.log2 (q * 2 ^ k) - 52 ≤ k := by
      by_cases hzero : q * 2 ^ k = 0
      · simp [hzero]
      · have hbound : q * 2 ^ k < 2 ^ (53 + k) := by
          rw [Nat.pow_add]
          exact Nat.mul_lt_mul_of_pos_right hlt hpos
        have := (Nat.log2_lt hzero).2 hbound
        omega
    exact Nat.dvd_trans (Nat.pow_dvd_pow 2 hexponent) (Nat.dvd_mul_left _ _)
  · have hq : q = 2 ^ 53 := Nat.le_antisymm hq hge
    rw [hq, ← Nat.pow_add, Nat.log2_two_pow]
    exact Nat.pow_dvd_pow 2 (by omega)

theorem step_dvd_roundUnits (n d : Nat) :
    step (roundUnits n d) ∣ roundUnits n d := by
  unfold roundUnits
  dsimp only
  refine step_dvd_mul_pow ?_
  refine Nat.le_trans (divHalfEven_le _ _) ?_
  rw [← Nat.div_div_eq_div_mul]
  unfold step
  simp only [Nat.pow_eq]
  have hquotient : n / d / 2 ^ (Nat.log2 (n / d) - 52) < 2 ^ 53 := by
    rw [Nat.div_lt_iff_lt_mul (Nat.two_pow_pos _), ← Nat.pow_add]
    refine Nat.lt_of_lt_of_le Nat.lt_log2_self (Nat.pow_le_pow_right (by decide) ?_)
    omega
  omega

theorem limit_pos : 0 < limit := by
  unfold limit
  generalize 2098 = n
  exact Nat.two_pow_pos n

theorem onGrid_ofUnits {units : Nat} (negative : Bool) (h : step units ∣ units) :
    (ofUnits negative units).OnGrid := by
  by_cases hlimit : units < limit
  · rw [ofUnits, if_pos hlimit]
    exact .finite negative h hlimit
  · rw [ofUnits, if_neg hlimit]
    exact .infinite negative

theorem onGrid_ofRatio (negative : Bool) (n d : Nat) : (ofRatio negative n d).OnGrid :=
  onGrid_ofUnits negative (step_dvd_roundUnits _ _)

theorem onGrid_zero (negative : Bool) : (finite negative 0).OnGrid :=
  .finite negative (Nat.dvd_zero _) limit_pos

theorem onGrid_ofScientific (negative : Bool) (mantissa : Nat) (exponent : Int) :
    (ofScientific negative mantissa exponent).OnGrid := by
  unfold ofScientific
  dsimp only
  split
  · exact onGrid_zero negative
  · split
    · exact .infinite negative
    · split
      · exact onGrid_ofRatio _ _ _
      · exact onGrid_ofRatio _ _ _

theorem roundUnits_of_dvd {units : Nat} (h : step units ∣ units) : roundUnits units 1 = units := by
  have hpos : 0 < step units := Nat.pow_pos (by decide)
  unfold roundUnits
  simp only [Nat.div_one, Nat.one_mul]
  rw [divHalfEven_of_dvd hpos h, Nat.div_mul_cancel h]

theorem exists_limit_le : ∃ width ≤ 330, 0 < width ∧ limit ≤ Nat.pow 10 width * one :=
  ⟨330, by decide, by decide, by decide +kernel⟩

/-- Whole numbers below the limit have numerals far shorter than what is read as infinite. -/
theorem length_toDigits_le {n : Nat} (h : n * one < limit) : (Nat.toDigits 10 n).length ≤ 330 := by
  obtain ⟨width, hwidth, hpos, hlimit⟩ := exists_limit_le
  have hpow : n < Nat.pow 10 width := Nat.lt_of_mul_lt_mul_right (Nat.lt_of_lt_of_le h hlimit)
  exact Nat.le_trans ((Nat.length_toDigits_le_iff (by decide) hpos).2 hpow) hwidth

/-- A whole number on the grid is what its numeral is read as. -/
theorem ofScientific_of_dvd {n : Nat} (negative : Bool) (hstep : step (n * one) ∣ n * one)
    (hlimit : n * one < limit) : ofScientific negative n 0 = .finite negative (n * one) := by
  have hlength := length_toDigits_le hlimit
  unfold ofScientific
  dsimp only
  split
  · rename_i hzero
    have hn : n = 0 := by omega
    rw [hn, Nat.zero_mul]
  · rw [if_neg (by omega)]
    show ofUnits negative (roundUnits (n * Nat.pow 10 0 * one) 1) = _
    rw [Nat.pow_eq, Nat.pow_zero, Nat.mul_one, roundUnits_of_dvd hstep, ofUnits, if_pos hlimit]

theorem one_pos : 0 < one := by
  unfold one
  generalize 1074 = n
  exact Nat.two_pow_pos n

theorem exists_of_whole_eq_some {x : Binary64} {z : Int} (hgrid : x.OnGrid)
    (hwhole : x.whole? = some z) :
    step (z.natAbs * one) ∣ z.natAbs * one ∧ z.natAbs * one < limit := by
  cases hgrid with
  | finite negative hstep hlimit =>
    rename_i units
    rw [whole?] at hwhole
    split at hwhole
    · rename_i hmod
      have hz : z.natAbs * one = units := by
        have habs : z.natAbs = units / one := by
          obtain rfl := Option.some.inj hwhole
          cases negative
          · exact Int.natAbs_natCast _
          · exact Int.natAbs_neg _ |>.trans (Int.natAbs_natCast _)
        rw [habs, Nat.div_mul_cancel (Nat.dvd_of_mod_eq_zero hmod)]
      rw [hz]
      exact ⟨hstep, hlimit⟩
    · cases hwhole
  | infinite negative => cases hwhole
  | nan => cases hwhole

theorem whole_finite_mul_one (z : Int) :
    (finite (decide (z < 0)) (z.natAbs * one)).whole? = some z := by
  rw [whole?, if_pos (Nat.mul_mod_left _ _), truncate?, Nat.mul_div_cancel _ one_pos]
  by_cases hz : z < 0
  · simp only [hz, decide_true, if_true, Option.some.injEq]
    omega
  · simp only [hz, decide_false, Bool.false_eq_true, if_false, Option.some.injEq]
    omega

end Binary64

end SitePresets.Numeral
