import SitePresets.Proofs.Numeral.Nearest
import SitePresets.Proofs.Numeral.Reading

/-!
# Whole numbers in double precision

The numeral of a whole number is read as the nearest number, which is whole as well. It is the number itself
if that has at most 53 binary digits before its zeros.
-/

namespace SitePresets.Numeral

namespace Binary64

variable {n : Nat}

/-- The points of the grid are the numbers of at most 53 binary digits and zeros. -/
theorem point_iff : step n ∣ n ↔ ∃ q ≤ Nat.pow 2 53, ∃ k, n = q * Nat.pow 2 k := by
  constructor
  · intro h
    exact ⟨n / step n, Nat.le_of_lt (div_step_lt n), Nat.log2 n - 52, (Nat.div_mul_cancel h).symm⟩
  · rintro ⟨q, hq, k, rfl⟩
    exact step_dvd_mul_pow hq

theorem point_of_le (h : n ≤ Nat.pow 2 53) : step n ∣ n :=
  point_iff.2 ⟨n, h, 0, (Nat.mul_one n).symm⟩

/-! ### Rounding at another scale -/

theorem divHalfEven_mul {m : Nat} (hm : 0 < m) (n d : Nat) :
    divHalfEven (n * m) (d * m) = divHalfEven n d := by
  unfold divHalfEven
  dsimp only
  rw [Nat.mul_div_mul_right _ _ hm, Nat.mul_mod_mul_right, ← Nat.mul_assoc]
  simp only [Nat.mul_lt_mul_right hm]

theorem step_mul_pow (h : 52 ≤ Nat.log2 n) (k : Nat) : step (n * Nat.pow 2 k) = step n * Nat.pow 2 k := by
  have hn : n ≠ 0 := by
    rintro rfl
    exact absurd h (by decide)
  have hpos : 0 < 2 ^ k := Nat.two_pow_pos k
  have hlog : Nat.log2 (n * Nat.pow 2 k) = Nat.log2 n + k := by
    rw [Nat.pow_eq, Nat.log2_eq_iff (Nat.mul_ne_zero hn hpos.ne'), Nat.add_right_comm, Nat.pow_add, Nat.pow_add]
    exact ⟨Nat.mul_le_mul_right _ (Nat.log2_self_le hn), Nat.mul_lt_mul_of_pos_right Nat.lt_log2_self hpos⟩
  unfold step
  rw [hlog, Nat.sub_add_comm h]
  exact Nat.pow_add 2 _ _

/-- Rounding does not depend on the scale. -/
theorem roundUnits_mul_pow (n k : Nat) :
    roundUnits (n * Nat.pow 2 k) 1 = roundUnits n 1 * Nat.pow 2 k := by
  rcases Nat.lt_or_ge (Nat.log2 n) 52 with hsmall | hlarge
  · -- Numbers of so few digits are points of the grid at any scale.
    have hn : n ≤ Nat.pow 2 53 := by
      refine Nat.le_of_lt (Nat.lt_of_lt_of_le Nat.lt_log2_self (Nat.pow_le_pow_right (by decide) ?_))
      omega
    rw [roundUnits_of_dvd (step_dvd_mul_pow hn), roundUnits_of_dvd (point_of_le hn)]
  · have hpos : 0 < Nat.pow 2 k := Nat.two_pow_pos k
    unfold roundUnits
    dsimp only
    rw [Nat.div_one, Nat.div_one, step_mul_pow hlarge, Nat.one_mul, Nat.one_mul, divHalfEven_mul hpos,
      Nat.mul_assoc]

theorem roundUnits_mul_one (n : Nat) : roundUnits (n * one) 1 = roundUnits n 1 * one := by
  unfold one
  generalize 1074 = k
  exact roundUnits_mul_pow n k

/-! ### The nearest whole number -/

/-- The number in double precision that is nearest to a whole number, were there no limit to them. -/
def nearestWhole (z : Int) : Int :=
  Integer.signed (decide (z < 0)) (roundUnits z.natAbs 1)

/-- The first whole number beyond the finite ones. -/
def wholeLimit : Nat := Nat.pow 2 1024

theorem wholeLimit_mul_one : wholeLimit * one = limit := by
  decide +kernel

/-- Whether a whole number is read as a finite one. -/
def IsWithin (z : Int) : Prop :=
  (nearestWhole z).natAbs < wholeLimit

instance (z : Int) : Decidable (IsWithin z) :=
  inferInstanceAs (Decidable (_ < _))

variable {z w : Int}

theorem natAbs_signed (negative : Bool) (n : Nat) : (Integer.signed negative n).natAbs = n := by
  cases negative
  · exact Int.natAbs_natCast n
  · exact Int.natAbs_neg _ |>.trans (Int.natAbs_natCast n)

theorem signed_natAbs (z : Int) : Integer.signed (decide (z < 0)) z.natAbs = z := by
  unfold Integer.signed
  split
  · have hz := of_decide_eq_true ‹_›
    omega
  · have hz : ¬ z < 0 := fun h => absurd (decide_eq_true h) ‹_›
    omega

theorem signed_eq_signed {negative other : Bool} {m : Nat} :
    Integer.signed negative n = Integer.signed other m ↔ n = m ∧ (negative = other ∨ n = 0) := by
  unfold Integer.signed
  cases negative <;> cases other <;> simp <;> omega

theorem natAbs_nearestWhole (z : Int) : (nearestWhole z).natAbs = roundUnits z.natAbs 1 :=
  natAbs_signed _ _

theorem rounds_nearestWhole (z : Int) : Rounds z.natAbs 1 (nearestWhole z).natAbs := by
  rw [natAbs_nearestWhole]
  exact rounds_roundUnits Nat.one_pos _

theorem nearestWhole_eq_self_iff : nearestWhole z = z ↔ step z.natAbs ∣ z.natAbs := by
  constructor
  · intro h
    rw [← h]
    exact (rounds_nearestWhole z).point
  · intro h
    unfold nearestWhole
    rw [roundUnits_of_dvd h, signed_natAbs]

theorem nearestWhole_nearestWhole (z : Int) : nearestWhole (nearestWhole z) = nearestWhole z :=
  nearestWhole_eq_self_iff.2 (rounds_nearestWhole z).point

theorem nearestWhole_nonneg (h : 0 ≤ z) : 0 ≤ nearestWhole z := by
  unfold nearestWhole
  rw [decide_eq_false (Int.not_lt.2 h)]
  exact Int.natCast_nonneg _

theorem nearestWhole_nonpos (h : z ≤ 0) : nearestWhole z ≤ 0 := by
  rcases Int.lt_or_eq_of_le h with hneg | rfl
  · unfold nearestWhole
    rw [decide_eq_true hneg]
    exact Int.neg_nonpos_of_nonneg (Int.natCast_nonneg _)
  · exact Int.le_of_eq (nearestWhole_eq_self_iff.2 (Nat.dvd_zero _))

theorem isWithin_nearestWhole : IsWithin (nearestWhole z) ↔ IsWithin z := by
  unfold IsWithin
  rw [nearestWhole_nearestWhole]

/-- A whole number that double precision has: up to 53 binary digits before its zeros, below the limit. -/
def IsExact (z : Int) : Prop :=
  z.natAbs < wholeLimit ∧ ∃ q ≤ Nat.pow 2 53, ∃ k, z.natAbs = q * Nat.pow 2 k

theorem isExact_iff : IsExact z ↔ IsWithin z ∧ nearestWhole z = z := by
  unfold IsExact IsWithin
  rw [← point_iff, ← nearestWhole_eq_self_iff]
  refine and_congr_left fun h => ?_
  rw [h]

/-- What the numeral of a whole number is read as. -/
def ofWhole (z : Int) : Binary64 :=
  ofUnits (decide (z < 0)) (roundUnits z.natAbs 1 * one)

theorem mul_one_lt_limit : roundUnits z.natAbs 1 * one < limit ↔ IsWithin z := by
  rw [← wholeLimit_mul_one, Nat.mul_lt_mul_right one_pos, ← natAbs_nearestWhole]
  rfl

theorem ofWhole_of_isWithin (h : IsWithin z) :
    ofWhole z = .finite (decide (z < 0)) (roundUnits z.natAbs 1 * one) := by
  rw [ofWhole, ofUnits, if_pos (mul_one_lt_limit.2 h)]

theorem ofWhole_of_not_isWithin (h : ¬ IsWithin z) : ofWhole z = .infinite (decide (z < 0)) := by
  rw [ofWhole, ofUnits, if_neg fun hlt => h (mul_one_lt_limit.1 hlt)]

theorem whole_ofWhole (z : Int) :
    (ofWhole z).whole? = if IsWithin z then some (nearestWhole z) else none := by
  split
  · rw [ofWhole_of_isWithin ‹_›, whole?, if_pos (Nat.mul_mod_left _ _), truncate?,
      Nat.mul_div_cancel _ one_pos]
    rfl
  · rw [ofWhole_of_not_isWithin ‹_›]
    rfl

theorem same_ofWhole (hz : IsWithin z) :
    (ofWhole z).same (ofWhole w) = true ↔ nearestWhole z = nearestWhole w := by
  by_cases hw : IsWithin w
  · rw [ofWhole_of_isWithin hz, ofWhole_of_isWithin hw]
    unfold nearestWhole
    rw [signed_eq_signed]
    simp only [same, Bool.and_eq_true, Bool.or_eq_true, decide_eq_true_eq, Nat.mul_eq_zero,
      Nat.mul_left_inj one_pos.ne', one_pos.ne', or_false]
  · rw [ofWhole_of_isWithin hz, ofWhole_of_not_isWithin hw]
    refine iff_of_false Bool.false_ne_true fun heq => hw ?_
    unfold IsWithin at hz ⊢
    rwa [← heq]

end Binary64

/-! ### Reading -/

theorem Integer.chars_inj {z w : Int} (h : Integer.chars z = Integer.chars w) : z = w := by
  have hsign := congrArg takeSign h
  rw [Integer.takeSign_chars, Integer.takeSign_chars] at hsign
  obtain ⟨hsign, hdigits⟩ := Prod.mk.inj hsign
  have habs := congrArg (Nat.ofDigitChars 10 · 0) hdigits
  simp only [Nat.ofDigitChars_ten_toDigits] at habs
  have hz := Binary64.signed_natAbs z
  rw [hsign, habs, Binary64.signed_natAbs w] at hz
  exact hz.symm

theorem Integer.text_inj {z w : Int} (h : Integer.text z = Integer.text w) : z = w :=
  Integer.chars_inj (String.ofList_inj.1 h)

theorem Decimal.read_text (z : Int) : Decimal.read? (Integer.text z) = some (Binary64.ofWhole z) := by
  have hquotient : (Binary64.quotient z.natAbs 0) = (z.natAbs * Binary64.one, 1) := by
    show (z.natAbs * 1 * Binary64.one, 1) = _
    rw [Nat.mul_one]
  rw [Decimal.read?, Integer.numeralChars_text, Option.bind_some, readChars_chars, readUnsigned_toDigits,
    Binary64.ofScientific_eq, hquotient, Binary64.roundUnits_mul_one]
  rfl

end SitePresets.Numeral
