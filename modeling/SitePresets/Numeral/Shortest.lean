import SitePresets.Numeral.Decimal

/-!
# Shortest numerals

The shortest decimal numeral that reads back as a given number. Numbers from 10⁻⁴ up to below 10¹⁶
are written positionally, the others with an exponent.
-/

namespace SitePresets.Numeral.Shortest

/-- The decimal exponent of the leading digit of a positive number of units. Scaled by 10⁴⁰⁰ every
such number has a whole part, which has as many digits. -/
def leadingExponent (units : Nat) : Int :=
  (Nat.toDigits 10 (units * Nat.pow 10 400 / Binary64.one)).length - 401

/-- The whole multiple of `10 ^ exponent` at or below a number of units, and what is left over as a
fraction of that power. -/
def gridPoint (units : Nat) (exponent : Int) : Nat × Nat × Nat :=
  let (n, d) := match exponent with
    | .ofNat e => (units, Binary64.one * Nat.pow 10 e)
    | .negSucc e => (units * Nat.pow 10 (e + 1), Binary64.one)
  (n / d, n % d, d)

def readsBack (units mantissa : Nat) (exponent : Int) : Bool :=
  Binary64.ofScientific false mantissa exponent = .finite false units

/-- The neighbour on the grid of multiples of `10 ^ exponent` that reads back: the nearer of two, of
two equally near the even one. -/
def neighbour? (units : Nat) (exponent : Int) : Option Nat :=
  let (q, r, d) := gridPoint units exponent
  let up := d < 2 * r || (2 * r = d && q % 2 = 1)
  let (first, second) := if up then (q + 1, q) else (q, q + 1)
  if readsBack units first exponent then some first
  else if readsBack units second exponent then some second
  else none

def search (units : Nat) (leading : Int) : Nat → Nat → Nat × Int
  | 0, _ => (0, 0)
  | tries + 1, count =>
    let exponent := leading + 1 - count
    match neighbour? units exponent with
    | some mantissa => (mantissa, exponent)
    | none => search units leading tries (count + 1)

/-- Drops the zeros at the end of the digits, counting them into the exponent. -/
def dropZeros (digits : List Char) (exponent : Int) : List Char × Int :=
  let kept := (digits.reverse.dropWhile (· = '0')).reverse
  (kept, exponent + (digits.length - kept.length : Nat))

/-- The digits of a positive number and the exponent of the last one. -/
def digits (units : Nat) : List Char × Int :=
  let (mantissa, exponent) := search units (leadingExponent units) 17 1
  dropZeros (Nat.toDigits 10 mantissa) exponent

def exponentChars (e : Int) : List Char :=
  let ds := Nat.toDigits 10 e.natAbs
  (if e < 0 then '-' else '+') :: (if ds.length < 2 then '0' :: ds else ds)

/-- Writes digits whose last one has the given exponent. -/
def layout (ds : List Char) (exponent : Int) : List Char :=
  let point := ds.length + exponent
  if -4 < point ∧ point ≤ 16 then
    if point ≤ 0 then '0' :: '.' :: (List.replicate (-point).toNat '0' ++ ds)
    else if ds.length ≤ point.toNat then
      ds ++ List.replicate (point.toNat - ds.length) '0' ++ ['.', '0']
    else ds.take point.toNat ++ '.' :: ds.drop point.toNat
  else
    match ds with
    | [] => []
    | d :: rest =>
      d :: ((if rest = [] then [] else '.' :: rest) ++ 'e' :: exponentChars (point - 1))

def text : Binary64 → String
  | .nan => "nan"
  | .infinite negative => if negative then "-inf" else "inf"
  | .finite negative units =>
    let unsigned := if units = 0 then ['0', '.', '0'] else
      let (ds, exponent) := digits units
      layout ds exponent
    String.ofList (if negative then '-' :: unsigned else unsigned)

end SitePresets.Numeral.Shortest
