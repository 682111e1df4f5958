import Mathlib.Data.Nat.Dist
import SitePresets.Proofs.Numeral.Grid

/-!
# Rounding to the nearest number

A quotient is rounded to the point of the grid that is nearest to it, and of two to the even one. This names
one point. Among whole numbers the points are those with at most 53 binary digits before their zeros.
-/

namespace SitePresets.Numeral.Binary64

variable {n d r y : Nat}

/-- The point of the grid that is nearest to the quotient of two numbers. Of two it is the one that is an even
multiple of the distance between them. -/
structure Rounds (n d r : Nat) : Prop where
  point : step r ∣ r
  nearest : ∀ y, step y ∣ y → Nat.dist n (r * d) ≤ Nat.dist n (y * d)
  even : ∀ y, step y ∣ y → y ≠ r → Nat.dist n (y * d) = Nat.dist n (r * d) → 2 * Nat.dist r y ∣ r

/-- A quotient is rounded to one point only. -/
theorem Rounds.eq (h : Rounds n d r) (h' : Rounds n d y) : r = y := by
  by_contra hne
  have hdist : Nat.dist n (r * d) = Nat.dist n (y * d) :=
    Nat.le_antisymm (h.nearest y h'.point) (h'.nearest r h.point)
  have hr : 2 * Nat.dist r y ∣ r := h.even y h'.point (Ne.symm hne) hdist.symm
  have hy : 2 * Nat.dist r y ∣ y := by
    rw [Nat.dist_comm]
    exact h'.even r h.point hne hdist
  -- Both are even multiples of their distance, so the distance is one itself.
  have hself : 2 * Nat.dist r y ∣ Nat.dist r y := Nat.dvd_add (Nat.dvd_sub hr hy) (Nat.dvd_sub hy hr)
  have hpos : 0 < Nat.dist r y := Nat.dist_pos_of_ne hne
  have hle := Nat.le_of_dvd hpos hself
  omega

/-! ### Neighbours on the grid -/

theorem step_pos (n : Nat) : 0 < step n :=
  Nat.pow_pos (by decide)

theorem step_dvd_step (h : Nat.log2 n ≤ Nat.log2 y) : step n ∣ step y :=
  Nat.pow_dvd_pow 2 (Nat.sub_le_sub_right h 52)

theorem div_step_lt (n : Nat) : n / step n < Nat.pow 2 53 := by
  unfold step
  rw [Nat.pow_eq, Nat.pow_eq, Nat.div_lt_iff_lt_mul (Nat.two_pow_pos _), ← Nat.pow_add]
  refine Nat.lt_of_lt_of_le Nat.lt_log2_self (Nat.pow_le_pow_right (by decide) ?_)
  omega

/-- No point of the grid lies between a multiple of the step and the next one. -/
theorem le_or_le_of_point (n : Nat) (hy : step y ∣ y) :
    y ≤ n / step n * step n ∨ (n / step n + 1) * step n ≤ y := by
  rw [or_iff_not_imp_left, Nat.not_le]
  intro hlt
  have hdvd : step n ∣ y := by
    rcases Nat.lt_or_ge (Nat.log2 n) 52 with hsmall | hlarge
    · have hone : step n = 1 := by
        unfold step
        rw [Nat.sub_eq_zero_of_le (Nat.le_of_lt hsmall), Nat.pow_eq, Nat.pow_zero]
      rw [hone]
      exact Nat.one_dvd y
    · have hn : n ≠ 0 := by
        rintro rfl
        exact absurd hlarge (by decide)
      have hpow : step n ∣ 2 ^ Nat.log2 n := Nat.pow_dvd_pow 2 (Nat.sub_le _ _)
      have hbase : 2 ^ Nat.log2 n ≤ n / step n * step n := by
        rw [← Nat.div_mul_cancel hpow]
        exact Nat.mul_le_mul_right _ (Nat.div_le_div_right (Nat.log2_self_le hn))
      have hy0 : y ≠ 0 := by omega
      exact Nat.dvd_trans (step_dvd_step ((Nat.le_log2 hy0).2 (by omega))) hy
  obtain ⟨k, rfl⟩ := hdvd
  rw [Nat.mul_comm (step n) k] at hlt ⊢
  exact Nat.mul_le_mul_right _ (Nat.lt_of_mul_lt_mul_right hlt)

/-! ### Halves to the even side -/

/-- A number lies between two multiples, and of these the nearer one is taken. Of two equally near ones it is
the even one. -/
theorem divHalfEven_cases (hd : 0 < d) (n : Nat) :
    ∃ rest < d, n = n / d * d + rest ∧
      (divHalfEven n d * d = n / d * d ∧ 2 * rest < d ∨
        divHalfEven n d * d = n / d * d + d ∧ d < 2 * rest ∨
          2 * rest = d ∧ 2 ∣ divHalfEven n d ∧
            (divHalfEven n d * d = n / d * d ∨ divHalfEven n d * d = n / d * d + d)) := by
  refine ⟨n % d, Nat.mod_lt n hd, (Nat.div_add_mod' n d).symm, ?_⟩
  unfold divHalfEven
  dsimp only
  rw [← Nat.succ_mul]
  split
  · exact .inl ⟨rfl, ‹_›⟩
  · split
    · exact .inr (.inl ⟨rfl, ‹_›⟩)
    · refine .inr (.inr ⟨by omega, by omega, ?_⟩)
      rcases Nat.mod_two_eq_zero_or_one (n / d) with hmod | hmod
      · exact .inl (by rw [hmod, Nat.add_zero])
      · exact .inr (by rw [hmod])

variable {m : Nat} (hd : 0 < d) (hm : m ≤ n / d * d ∨ n / d * d + d ≤ m)
include hd hm

theorem dist_divHalfEven_le : Nat.dist n (divHalfEven n d * d) ≤ Nat.dist n m := by
  obtain ⟨rest, hrest, hn, hcases⟩ := divHalfEven_cases hd n
  unfold Nat.dist
  omega

theorem even_of_dist_eq (hne : m ≠ divHalfEven n d * d)
    (hdist : Nat.dist n m = Nat.dist n (divHalfEven n d * d)) :
    2 ∣ divHalfEven n d ∧ Nat.dist (divHalfEven n d * d) m = d := by
  obtain ⟨rest, hrest, hn, hcases⟩ := divHalfEven_cases hd n
  unfold Nat.dist at hdist ⊢
  omega

omit hd hm

/-! ### Rounding -/

/-- A point of the grid stands at or below the multiple of the step that a quotient reaches, or at or above
the next one. -/
theorem mul_le_or_le_mul (n d : Nat) (hy : step y ∣ y) :
    y * d ≤ n / (d * step (n / d)) * (d * step (n / d)) ∨
      n / (d * step (n / d)) * (d * step (n / d)) + d * step (n / d) ≤ y * d := by
  have hmul (k : Nat) : k * step (n / d) * d = k * (d * step (n / d)) := by
    rw [Nat.mul_assoc, Nat.mul_comm d]
  rw [← Nat.div_div_eq_div_mul, ← Nat.succ_mul, ← hmul, ← hmul]
  exact (le_or_le_of_point (n / d) hy).imp (Nat.mul_le_mul_right d) (Nat.mul_le_mul_right d)

/-- Rounding takes the nearest point of the grid. -/
theorem rounds_roundUnits (hd : 0 < d) (n : Nat) : Rounds n d (roundUnits n d) := by
  have hstep : 0 < d * step (n / d) := Nat.mul_pos hd (step_pos _)
  have hround : roundUnits n d * d = divHalfEven n (d * step (n / d)) * (d * step (n / d)) := by
    unfold roundUnits
    rw [Nat.mul_assoc, Nat.mul_comm d]
  refine ⟨step_dvd_roundUnits n d, fun y hy => ?_, fun y hy hne hdist => ?_⟩
  · rw [hround]
    exact dist_divHalfEven_le hstep (mul_le_or_le_mul n d hy)
  · have hother : y * d ≠ roundUnits n d * d := fun heq => hne (Nat.eq_of_mul_eq_mul_right hd heq)
    rw [hround] at hother hdist
    obtain ⟨heven, hgap⟩ := even_of_dist_eq hstep (mul_le_or_le_mul n d hy) hother hdist
    rw [← hround, Nat.dist_mul_right, Nat.mul_comm] at hgap
    rw [Nat.eq_of_mul_eq_mul_left hd hgap]
    exact Nat.mul_dvd_mul_right heven _

theorem step_limit_dvd : step limit ∣ limit := by
  unfold limit
  generalize 2098 = k
  rw [← Nat.one_mul (Nat.pow 2 k)]
  exact step_dvd_mul_pow (by decide)

theorem limit_le_roundUnits (hd : 0 < d) (h : limit * d ≤ n) : limit ≤ roundUnits n d := by
  have hnearest := (rounds_roundUnits hd n).nearest limit step_limit_dvd
  by_contra hlt
  have hmul : roundUnits n d * d < limit * d := Nat.mul_lt_mul_of_pos_right (Nat.not_le.1 hlt) hd
  unfold Nat.dist at hnearest
  omega

theorem roundUnits_eq_zero (h : 2 * n < d) : roundUnits n d = 0 := by
  have hzero : n / d = 0 := Nat.div_eq_of_lt (by omega)
  have hstep : step 0 = 1 := rfl
  unfold roundUnits divHalfEven
  rw [hzero, hstep]
  simp [hzero, Nat.mod_eq_of_lt (show n < d by omega), h]

/-! ### Numerals -/

/-- The number that a numeral stands for, as a quotient in units. -/
def quotient (mantissa : Nat) (exponent : Int) : Nat × Nat :=
  match exponent with
  | .ofNat e => (mantissa * Nat.pow 10 e * one, 1)
  | .negSucc e => (mantissa * one, Nat.pow 10 (e + 1))

theorem quotient_pos (mantissa : Nat) (exponent : Int) : 0 < (quotient mantissa exponent).2 := by
  cases exponent with
  | ofNat e => exact Nat.one_pos
  | negSucc e => exact Nat.pow_pos (by decide)

section Bounds

variable {mantissa : Nat} {exponent : Int}

theorem lt_pow_length (mantissa : Nat) : mantissa < Nat.pow 10 (Nat.toDigits 10 mantissa).length :=
  (Nat.length_toDigits_le_iff (by decide) Nat.length_toDigits_pos).1 (Nat.le_refl _)

theorem pow_le_of_lt_length {width : Nat} (hmantissa : mantissa ≠ 0)
    (h : width < (Nat.toDigits 10 mantissa).length) : Nat.pow 10 width ≤ mantissa := by
  rcases Nat.eq_zero_or_pos width with rfl | hwidth
  · exact Nat.pos_of_ne_zero hmantissa
  · exact Nat.not_lt.1 fun hlt =>
      Nat.not_le.2 h ((Nat.length_toDigits_le_iff (by decide) hwidth).2 hlt)

theorem exists_one_le : ∃ width ≤ 330, 2 * one ≤ Nat.pow 10 width :=
  ⟨330, by decide, by decide +kernel⟩

/-- What is too small to be anything but zero is far below half a unit. -/
theorem quotient_small (h : (Nat.toDigits 10 mantissa).length + exponent < -330) :
    2 * (quotient mantissa exponent).1 < (quotient mantissa exponent).2 := by
  obtain ⟨width, hwidth, hone⟩ := exists_one_le
  cases exponent with
  | ofNat e =>
    have hnonneg : 0 ≤ Int.ofNat e := Int.natCast_nonneg e
    omega
  | negSucc e =>
    calc 2 * (mantissa * one)
      _ = mantissa * (2 * one) := Nat.mul_left_comm _ _ _
      _ ≤ mantissa * Nat.pow 10 width := Nat.mul_le_mul_left _ hone
      _ < Nat.pow 10 (Nat.toDigits 10 mantissa).length * Nat.pow 10 width :=
        Nat.mul_lt_mul_of_pos_right (lt_pow_length mantissa) (Nat.pow_pos (by decide))
      _ = Nat.pow 10 ((Nat.toDigits 10 mantissa).length + width) := (Nat.pow_add 10 _ _).symm
      _ ≤ Nat.pow 10 (e + 1) := Nat.pow_le_pow_right (by decide) (by omega)

/-- What is too large to be finite is beyond the limit. -/
theorem quotient_large (hmantissa : mantissa ≠ 0)
    (h : 330 < (Nat.toDigits 10 mantissa).length + exponent) :
    limit * (quotient mantissa exponent).2 ≤ (quotient mantissa exponent).1 := by
  obtain ⟨width, hwidth, -, hlimit⟩ := exists_limit_le
  have hle := pow_le_of_lt_length hmantissa (Nat.sub_one_lt_of_lt Nat.length_toDigits_pos)
  cases exponent with
  | ofNat e =>
    have hwidth : width ≤ (Nat.toDigits 10 mantissa).length - 1 + e := by
      have := Int.ofNat_eq_natCast e
      omega
    calc limit * 1
      _ = limit := Nat.mul_one limit
      _ ≤ Nat.pow 10 width * one := hlimit
      _ ≤ Nat.pow 10 ((Nat.toDigits 10 mantissa).length - 1 + e) * one :=
        Nat.mul_le_mul_right _ (Nat.pow_le_pow_right (by decide) hwidth)
      _ = Nat.pow 10 ((Nat.toDigits 10 mantissa).length - 1) * Nat.pow 10 e * one :=
        congrArg (· * one) (Nat.pow_add 10 _ _)
      _ ≤ mantissa * Nat.pow 10 e * one := Nat.mul_le_mul_right _ (Nat.mul_le_mul_right _ hle)
  | negSucc e =>
    have hwidth : width + (e + 1) ≤ (Nat.toDigits 10 mantissa).length - 1 := by omega
    calc limit * Nat.pow 10 (e + 1)
      _ ≤ Nat.pow 10 width * one * Nat.pow 10 (e + 1) := Nat.mul_le_mul_right _ hlimit
      _ = Nat.pow 10 width * Nat.pow 10 (e + 1) * one := Nat.mul_right_comm _ _ _
      _ = Nat.pow 10 (width + (e + 1)) * one := congrArg (· * one) (Nat.pow_add 10 _ _).symm
      _ ≤ Nat.pow 10 ((Nat.toDigits 10 mantissa).length - 1) * one :=
        Nat.mul_le_mul_right _ (Nat.pow_le_pow_right (by decide) hwidth)
      _ ≤ mantissa * one := Nat.mul_le_mul_right _ hle

end Bounds

/-- A numeral is read as the number that is nearest to it, however small or large it is. -/
theorem ofScientific_eq (negative : Bool) (mantissa : Nat) (exponent : Int) :
    ofScientific negative mantissa exponent = ofUnits negative
      (roundUnits (quotient mantissa exponent).1 (quotient mantissa exponent).2) := by
  have hpos := quotient_pos mantissa exponent
  unfold ofScientific
  dsimp only
  split
  · rename_i h
    have hsmall : 2 * (quotient mantissa exponent).1 < (quotient mantissa exponent).2 := by
      rcases h with rfl | h
      · have hzero : (quotient 0 exponent).1 = 0 := by
          cases exponent <;> simp [quotient]
        rw [hzero]
        exact hpos
      · exact quotient_small h
    rw [roundUnits_eq_zero hsmall, ofUnits, if_pos limit_pos]
  · rename_i h
    split
    · rename_i hlarge
      have hlimit := limit_le_roundUnits hpos (quotient_large (fun hzero => h (.inl hzero)) hlarge)
      rw [ofUnits, if_neg (Nat.not_lt.2 hlimit)]
    · cases exponent with
      | ofNat e => rfl
      | negSucc e => rfl

end SitePresets.Numeral.Binary64
