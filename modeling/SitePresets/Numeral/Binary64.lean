/-!
# Double precision numbers

Numbers in double precision, exactly. A finite one is a whole number of units of 2⁻¹⁰⁷⁴, and rounding
takes the nearest point of the grid, the even one of two.
-/

namespace SitePresets.Numeral

inductive Binary64 where
  | finite (negative : Bool) (units : Nat)
  | infinite (negative : Bool)
  | nan
  deriving DecidableEq, Repr, Inhabited

/-- The quotient to the nearest whole number; of two, the even one. -/
def divHalfEven (n d : Nat) : Nat :=
  let q := n / d
  let r := n % d
  if 2 * r < d then q
  else if d < 2 * r then q + 1
  else q + q % 2

namespace Binary64

def one : Nat := Nat.pow 2 1074

/-- The first magnitude beyond the finite ones, in units. -/
def limit : Nat := Nat.pow 2 2098

/-- The distance between neighbours of the grid at a magnitude: 53 binary digits are kept. -/
def step (units : Nat) : Nat :=
  Nat.pow 2 (Nat.log2 units - 52)

/-- The point of the grid nearest to the quotient of two numbers of units. -/
def roundUnits (n d : Nat) : Nat :=
  let s := step (n / d)
  divHalfEven n (d * s) * s

def ofUnits (negative : Bool) (units : Nat) : Binary64 :=
  if units < limit then .finite negative units else .infinite negative

def ofRatio (negative : Bool) (n d : Nat) : Binary64 :=
  ofUnits negative (roundUnits (n * one) d)

/-- The number nearest to `mantissa · 10 ^ exponent`. Beyond the reach of the exponents the answer is
known without the power. -/
def ofScientific (negative : Bool) (mantissa : Nat) (exponent : Int) : Binary64 :=
  let magnitude := (Nat.toDigits 10 mantissa).length + exponent
  if mantissa = 0 ∨ magnitude < -330 then .finite negative 0
  else if 330 < magnitude then .infinite negative
  else match exponent with
    | .ofNat e => ofRatio negative (mantissa * Nat.pow 10 e) 1
    | .negSucc e => ofRatio negative mantissa (Nat.pow 10 (e + 1))

def isFinite : Binary64 → Bool
  | finite .. => true
  | _ => false

def isZero : Binary64 → Bool
  | finite _ units => units = 0
  | _ => false

/-- Equality of numbers: zero has no sign, and what is no number equals nothing. -/
def same : Binary64 → Binary64 → Bool
  | finite s u, finite t v => u = v && (s = t || u = 0)
  | infinite s, infinite t => s = t
  | _, _ => false

/-- The whole part, toward zero. -/
def truncate? : Binary64 → Option Int
  | finite negative units =>
    let n := units / one
    some (if negative then -(n : Int) else n)
  | _ => none

def whole? : Binary64 → Option Int
  | finite negative units =>
    if units % one = 0 then (finite negative units).truncate? else none
  | _ => none

theorem same_symm (x y : Binary64) : x.same y = y.same x := by
  cases x <;> cases y <;> simp only [same]
  · rename_i s u t v
    by_cases h : u = v
    · subst h
      simp [eq_comm]
    · simp [h, Ne.symm h]
  · simp [eq_comm]

theorem same_self {x : Binary64} (h : x ≠ .nan) : x.same x = true := by
  cases x <;> simp_all [same]

theorem same_trans {x y z : Binary64} (hxy : x.same y = true) (hyz : y.same z = true) :
    x.same z = true := by
  cases x <;> cases y <;> cases z <;> simp_all [same]
  grind

end Binary64

end SitePresets.Numeral
